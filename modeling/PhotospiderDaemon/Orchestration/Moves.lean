import PhotospiderDaemon.Orchestration.Service

/-!
# What one step can do

The step functions turned inside out: each way in which a step can succeed is one case of
`WorkerMove` or `CallMove`, with its guards and with the state it leads to. Every later proof
argues by these cases and does not open the step functions again.

For workers the cases are coarser than the stages. What the rest of the service can see of a
worker is its `phase`: which record it has popped, whether it has moved that record to
`Running`, and whether an exception has happened since.
-/

namespace PhotospiderDaemon.Orchestration

open Foundation Ipc

/-! ## Workers -/

/-- What a worker holds. -/
inductive Phase where
  | free
  | popped (r : JobRef)
  | running (r : JobRef)
  | fenced (r : JobRef)
deriving DecidableEq

def WorkerStage.phase : WorkerStage → Phase
  | idle => .free
  | exited => .free
  | popped r => .popped r
  | running r => .running r
  | compiling r _ => .running r
  | compiled r => .running r
  | executing r _ => .running r
  | executionFailed r _ => .running r
  | publishing r _ => .running r
  | finishingFailure r _ => .running r
  | finishingCancelled r _ => .running r
  | fencing r _ => .fenced r
  | fallingBack r _ => .fenced r

/-- The record that a worker has passed to `compile`, until it publishes a terminal state. -/
def WorkerStage.compiles : WorkerStage → Option JobRef
  | compiling r _ => some r
  | compiled r => some r
  | executing r _ => some r
  | executionFailed r _ => some r
  | publishing r _ => some r
  | finishingFailure r _ => some r
  | _ => none

theorem WorkerStage.phase_of_compiles {stage : WorkerStage} {r : JobRef}
    (h : stage.compiles = some r) : stage.phase = .running r := by
  cases stage <;> cases h <;> rfl

/-- No allocation of the service fails. The kernel may still do anything. -/
def Choice.Quiet : Choice → Prop
  | go fails => ∀ fault, fails fault = false
  | compile _ => True
  | execute _ => True
  | raise _ => False

theorem Choice.not_quiet {fails : Fault → Bool} (fault : Fault) (h : fails fault = true) :
    ¬ (Choice.go fails).Quiet := by
  intro hquiet
  rw [hquiet fault] at h
  cases h

namespace Shared

/-- The shared state after a critical section on a record. -/
def write (shared : Shared) (r : JobRef) (record : JobRecord) : Shared :=
  { shared with registry := shared.registry.write r record }

variable {shared shared' : Shared} {r : JobRef} {α : Type}

theorem onRecord_eq_some {f : JobRecord → JobRecord × α} {a : α}
    (h : shared.onRecord r f = some (shared', a)) :
    ∃ record, shared.registry.records[r]? = some record ∧
      shared' = shared.write r (f record).1 ∧ a = (f record).2 := by
  obtain ⟨record, hr, heq⟩ := Option.map_eq_some_iff.mp h
  cases heq
  exact ⟨record, hr, rfl, rfl⟩

theorem readRecord_eq_some {f : JobRecord → α} {a : α}
    (h : shared.readRecord r f = some (shared', a)) :
    ∃ record, shared.registry.records[r]? = some record ∧ shared' = shared ∧ a = f record := by
  obtain ⟨record, hr, heq⟩ := Option.map_eq_some_iff.mp h
  cases heq
  exact ⟨record, hr, rfl, rfl⟩

end Shared

theorem locking_eq_some {α : Type} {mutex : Option Nat} {step : Option α} {a : α}
    (h : locking mutex step = some a) : mutex = none ∧ step = some a := by
  unfold locking at h
  split at h
  · cases h
  · rename_i hfree
    exact ⟨by simpa using hfree, h⟩

section Kernel

variable [Kernel] {settings : Settings}

/-- How a worker goes on in a step that writes nothing: what it carries from one stage to the
next, and what the kernel has to do with it. -/
inductive WorkerStage.Advances (choice : Choice) : WorkerStage → WorkerStage → Prop where
  | exits : Advances choice .idle .exited
  | stops {stage : WorkerStage} {r : JobRef} {reason : String}
      (hstage : stage = .running r ∨ stage = .compiled r)
      (hreason : reason = "execution cancelled before compilation" ∨
        reason = "execution cancelled during compilation") :
      Advances choice stage (.finishingCancelled r (ascii reason))
  | compiles {r : JobRef} {mode : ExecutionMode} : Advances choice (.running r) (.compiling r mode)
  | executes {r : JobRef} {maximumParallelism : UInt32} :
      Advances choice (.compiled r) (.executing r maximumParallelism)
  | compiled {r : JobRef} {mode : ExecutionMode} (hchoice : choice = .compile (.value ())) :
      Advances choice (.compiling r mode) (.compiled r)
  | compileFailed {r : JobRef} {mode : ExecutionMode} {status : Status}
      (hchoice : choice = .compile (.failure status)) :
      Advances choice (.compiling r mode) (.finishingFailure r status)
  | compileRaised {r : JobRef} {mode : ExecutionMode} {exception : Raised}
      (hchoice : choice = .compile (.raised exception)) :
      Advances choice (.compiling r mode) (.fencing r exception)
  | executed {r : JobRef} {maximumParallelism : UInt32} {result : ExecutionResult}
      (hchoice : choice = .execute (.value result)) :
      Advances choice (.executing r maximumParallelism) (.publishing r result)
  | executionFailed {r : JobRef} {maximumParallelism : UInt32} {status : Status}
      (hchoice : choice = .execute (.failure status)) :
      Advances choice (.executing r maximumParallelism) (.executionFailed r status)
  | executionRaised {r : JobRef} {maximumParallelism : UInt32} {exception : Raised}
      (hchoice : choice = .execute (.raised exception)) :
      Advances choice (.executing r maximumParallelism) (.fencing r exception)
  | cancels {r : JobRef} {status : Status} :
      Advances choice (.executionFailed r status) (.finishingCancelled r status.message)
  | fails {r : JobRef} {status : Status} (hcode : status.code ≠ .cancelled) :
      Advances choice (.executionFailed r status) (.finishingFailure r status)
  | raises {stage : WorkerStage} {r : JobRef}
      (hstage : stage = .running r ∨ stage = .compiled r ∨
        ∃ status, stage = .executionFailed r status)
      (hquiet : ¬ choice.Quiet) :
      Advances choice stage (.fencing r .badAlloc)
  | fallsBack {r : JobRef} {exception : Raised} {fails : Fault → Bool}
      (hchoice : choice = .go fails) (hcopy : fails .copy = true) :
      Advances choice (.fencing r exception) (.fallingBack r (fenceCode exception))

/-- What a worker publishes in the record that it holds, and how it goes on. -/
inductive WorkerStage.Publication (fails : Fault → Bool) (record : JobRecord) :
    WorkerStage → JobRecord → WorkerStage → Prop where
  | result {r : JobRef} {result : ExecutionResult} :
      Publication fails record (.publishing r result) (record.publish result fails).1
        (if (record.publish result fails).2 then .fencing r .badAlloc else .idle)
  | failure {r : JobRef} {status : Status} :
      Publication fails record (.finishingFailure r status) (record.finishFailure status fails).1
        (if (record.finishFailure status fails).2 then .fencing r .badAlloc else .idle)
  | cancellation {r : JobRef} {reason : Bytes} :
      Publication fails record (.finishingCancelled r reason)
        (record.finishCancelled reason fails).1
        (if (record.finishCancelled reason fails).2 then .fencing r .badAlloc else .idle)
  | fence {r : JobRef} {exception : Raised} (hcopy : fails .copy = false) :
      Publication fails record (.fencing r exception)
        (record.finishFailure (Status.failure (fenceCode exception) (fenceReason exception))
          fails).1
        (if (record.finishFailure (Status.failure (fenceCode exception) (fenceReason exception))
          fails).2 then .fallingBack r (fenceCode exception) else .idle)
  | fallback {r : JobRef} {code : ErrorCode} :
      Publication fails record (.fallingBack r code) (record.fallback code) .idle

/-- The steps of a worker. It passes a record to `compile` only if no cancellation was
requested. A publication that raises leaves the record cancelled and the worker in its
exception fence. -/
inductive WorkerMove (shared : Shared) (choice : Choice) :
    WorkerStage → Shared → WorkerStage → Prop where
  | pop {r : JobRef} {queue : List JobRef} (hmutex : shared.registryMutex = none)
      (hqueue : shared.registry.queue = r :: queue) :
      WorkerMove shared choice .idle
        { shared with registry := { shared.registry with queue := queue } } (.popped r)
  | begin {r : JobRef} {record : JobRecord} (hr : shared.registry.records[r]? = some record)
      (hqueued : record.state = .queued) :
      WorkerMove shared choice (.popped r) (shared.write r { record with state := .running })
        (.running r)
  | unexpected {r : JobRef} {record record' : JobRecord} {stage' : WorkerStage}
      (hr : shared.registry.records[r]? = some record) (hqueued : record.state ≠ .queued)
      (hidentity : record'.identity = record.identity)
      (hcancelled : record'.cancelled = record.cancelled)
      (hterminal : terminal record'.state = true)
      (hphase : stage'.phase = .free ∨ stage'.phase = .fenced r) :
      WorkerMove shared choice (.popped r) (shared.write r record') stage'
  | advance {stage stage' : WorkerStage}
      (hphase : stage'.phase = stage.phase ∨
        ∃ r, stage.phase = .running r ∧ stage'.phase = .fenced r)
      (hcompiles : stage'.compiles = stage.compiles ∨ ∀ r, stage'.compiles = some r →
        shared.registry.At r fun record => record.cancelled = false)
      (hadvances : stage.Advances choice stage') :
      WorkerMove shared choice stage shared stage'
  | publish {stage stage' : WorkerStage} {r : JobRef} {record record' : JobRecord}
      (hphase : stage.phase = .running r ∨ stage.phase = .fenced r)
      (hr : shared.registry.records[r]? = some record)
      (hpublishes : record.Publishes record')
      (hphase' : stage'.phase = .free ∨
        stage'.phase = .fenced r ∧ record' = { record with state := .cancelled } ∧ ¬ choice.Quiet)
      (hpublication : ∃ fails, choice = .go fails ∧
        stage.Publication fails record record' stage') :
      WorkerMove shared choice stage (shared.write r record') stage'

variable {shared shared' : Shared}

theorem checkpoint_move {r : JobRef} {reason : String} {fails : Fault → Bool}
    {next : JobRecord → WorkerStage} {stage stage' : WorkerStage}
    (h : checkpoint shared r reason fails next = some (shared', stage'))
    (hstage : stage = .running r ∨ stage = .compiled r)
    (hnext : ∀ record, (next record).phase = .running r)
    (hreason : reason = "execution cancelled before compilation" ∨
      reason = "execution cancelled during compilation")
    (hadvances : ∀ record, stage.Advances (.go fails) (next record)) :
    WorkerMove shared (.go fails) stage shared' stage' := by
  obtain ⟨record, hr, rfl, rfl⟩ := Shared.readRecord_eq_some h
  have hphase : stage.phase = .running r := by rcases hstage with rfl | rfl <;> rfl
  split
  · split
    · rename_i hfails
      exact .advance (Or.inr ⟨r, hphase, rfl⟩) (Or.inr nofun)
        (.raises (hstage.imp_right Or.inl) (Choice.not_quiet .copy hfails))
    · exact .advance (Or.inl hphase.symm) (Or.inr nofun) (.stops hstage hreason)
  · rename_i hcancelled
    refine .advance (Or.inl ((hnext record).trans hphase.symm)) (Or.inr fun r' hr' => ?_)
      (hadvances record)
    cases (hnext record).symm.trans (WorkerStage.phase_of_compiles hr')
    exact ⟨record, hr, by simpa using hcancelled⟩

/-- A critical section that publishes and may raise. -/
theorem publication_move {r : JobRef} {fails : Fault → Bool} {stage stage' raised : WorkerStage}
    {publication : JobRecord → JobRecord × Bool}
    (h : shared.onRecord r (fun record => afterPublication (publication record) raised) =
      some (shared', stage'))
    (hstage : stage.phase = .running r ∨ stage.phase = .fenced r)
    (hraised : raised.phase = .fenced r)
    (hpublishes : ∀ record, JobRecord.PublishesOrRaises fails record (publication record))
    (hpublication : ∀ record, stage.Publication fails record (publication record).1
      (if (publication record).2 then raised else .idle)) :
    WorkerMove shared (.go fails) stage shared' stage' := by
  obtain ⟨record, hr, rfl, rfl⟩ := Shared.onRecord_eq_some h
  refine .publish hstage hr (hpublishes record).toPublishes ?_ ⟨fails, rfl, hpublication record⟩
  unfold afterPublication
  dsimp only
  split
  · rename_i hflagged
    obtain ⟨hrecord, hfails⟩ := (hpublishes record).raised hflagged
    exact Or.inr ⟨hraised, hrecord, Choice.not_quiet .diagnostic hfails⟩
  · exact Or.inl rfl

theorem popped_move {r : JobRef} {fails : Fault → Bool} {stage' : WorkerStage}
    (h : workerStep settings shared (.popped r) (.go fails) = some (shared', stage')) :
    WorkerMove shared (.go fails) (.popped r) shared' stage' := by
  obtain ⟨record, hr, rfl, rfl⟩ := Shared.onRecord_eq_some h
  split
  · rename_i hstate
    refine .unexpected hr hstate ?_ ?_ ?_ ?_
    all_goals
      unfold afterPublication JobRecord.leaveUnexpectedly
      dsimp only
      split <;> simp [JobRecord.identity, terminal, WorkerStage.phase]
  · rename_i hstate
    exact .begin hr (not_not.mp hstate)

theorem workerStep_move {stage stage' : WorkerStage} {choice : Choice}
    (h : workerStep settings shared stage choice = some (shared', stage')) :
    WorkerMove shared choice stage shared' stage' := by
  cases choice with
  | go fails =>
    cases stage with
    | idle =>
      obtain ⟨hmutex, h⟩ := locking_eq_some h
      split at h
      · cases h
        exact .advance (Or.inl rfl) (Or.inl rfl) .exits
      · split at h
        · cases h
        · rename_i r queue hqueue
          cases h
          exact .pop hmutex hqueue
    | popped r => exact popped_move h
    | running r =>
      exact checkpoint_move h (Or.inl rfl) (fun _ => rfl) (Or.inl rfl) fun _ => .compiles
    | compiled r =>
      exact checkpoint_move h (Or.inr rfl) (fun _ => rfl) (Or.inr rfl) fun _ => .executes
    | executionFailed r status =>
      obtain ⟨record, -, rfl, rfl⟩ := Shared.readRecord_eq_some h
      split
      · exact .advance (Or.inl rfl) (Or.inr nofun) .cancels
      · rename_i hcode
        split
        · rename_i hfails
          exact .advance (Or.inr ⟨r, rfl, rfl⟩) (Or.inr nofun)
            (.raises (Or.inr (Or.inr ⟨status, rfl⟩)) (Choice.not_quiet .copy hfails))
        · exact .advance (Or.inl rfl) (Or.inl rfl) (.fails fun h => hcode (by simp [h]))
    | publishing r result =>
      exact publication_move h (Or.inl rfl) rfl
        (fun record => record.publish_publishes result fails)
        fun _ => .result
    | finishingFailure r status =>
      exact publication_move h (Or.inl rfl) rfl
        (fun record => record.finishFailure_publishes status fails) fun _ => .failure
    | finishingCancelled r reason =>
      exact publication_move h (Or.inl rfl) rfl
        (fun record => record.finishCancelled_publishes reason fails) fun _ => .cancellation
    | fencing r exception =>
      simp only [workerStep] at h
      split at h
      · rename_i hfails
        cases h
        exact .advance (Or.inl rfl) (Or.inl rfl) (.fallsBack rfl hfails)
      · rename_i hfails
        exact publication_move h (Or.inr rfl) rfl
          (fun record => record.finishFailure_publishes _ fails)
          fun _ => .fence (by simpa using hfails)
    | fallingBack r code =>
      obtain ⟨record, hr, rfl, rfl⟩ := Shared.onRecord_eq_some h
      exact .publish (Or.inr rfl) hr (record.fallback_publishes code) (Or.inl rfl)
        ⟨fails, rfl, .fallback⟩
    | exited => cases h
    | compiling r mode => cases h
    | executing r maximumParallelism => cases h
  | compile outcome =>
    cases stage with
    | compiling r mode =>
      cases h
      cases outcome with
      | value value => exact .advance (Or.inl rfl) (Or.inl rfl) (.compiled rfl)
      | failure status => exact .advance (Or.inl rfl) (Or.inl rfl) (.compileFailed rfl)
      | raised exception =>
        exact .advance (Or.inr ⟨r, rfl, rfl⟩) (Or.inr nofun) (.compileRaised rfl)
    | _ => cases h
  | execute outcome =>
    cases stage with
    | executing r maximumParallelism =>
      cases h
      cases outcome with
      | value value => exact .advance (Or.inl rfl) (Or.inl rfl) (.executed rfl)
      | failure status => exact .advance (Or.inl rfl) (Or.inl rfl) (.executionFailed rfl)
      | raised exception =>
        exact .advance (Or.inr ⟨r, rfl, rfl⟩) (Or.inr nofun) (.executionRaised rfl)
    | _ => cases h
  | raise exception => cases stage <;> cases h

/-! ## Calls -/

/-- The steps of a call. -/
inductive CallMove (settings : Settings) (i : Nat) (shared : Shared) (request : Request)
    (choice : Choice) : CallStage → Shared → CallStage → Prop where
  | refuse {fails : Fault → Bool} (hmethod : request.method ≠ .daemonShutdown)
      (hdown : shared.shuttingDown = true) (hchoice : choice = .go fails) :
      CallMove settings i shared request choice .begun shared
        (.ended (.failed (rejection fails .cancelled "daemon orchestration is shutting down")))
  | enter (hopen : request.method = .daemonShutdown ∨ shared.shuttingDown = false) :
      CallMove settings i shared request choice .begun shared (CallStage.enter request.method)
  | shutdown :
      CallMove settings i shared request choice .shutdown { shared with shuttingDown := true }
        (.ended .shutdownAccepted)
  | shutdownFailed {exception : Raised} (hchoice : choice = .raise exception) :
      CallMove settings i shared request choice .shutdown shared
        (.ended (.failed (.raised exception)))
  | respond {ending : Ending} {fails : Fault → Bool} (hchoice : choice = .go fails) :
      CallMove settings i shared request choice (.ended ending) shared
        (.returned ending (respond request ending fails))
  | createRefused {failure : Failure} {fails : Fault → Bool}
      (hmutex : shared.lifecycleMutex = none) (hchoice : choice = .go fails)
      (hreserve : shared.table.reserve settings fails = .error failure) :
      CallMove settings i shared request choice (.create .entered) shared (.ended (.failed failure))
  | createReserved {table : SessionTable} {fails : Fault → Bool}
      (hmutex : shared.lifecycleMutex = none)
      (hreserve : shared.table.reserve settings fails = .ok table) :
      CallMove settings i shared request choice (.create .entered)
        { shared with table := table } (.create .reserved)
  | createValidated :
      CallMove settings i shared request choice (.create .reserved) shared (.create .validated)
  | createAbandoned {stage : CreateStage} {failure : Failure}
      (hstage : stage = .reserved ∨ stage = .validated)
      (hfailure : (∃ outcome, choice = .compile outcome ∧ outcome.failure? = some failure) ∨
        ∃ fails, choice = .go fails ∧
          shared.table.publish settings request.document fails = .refused failure) :
      CallMove settings i shared request choice (.create stage) shared
        (.create (.rollingBack failure))
  | createPublished (hmutex : shared.lifecycleMutex = none)
      (hnext : shared.table.nextSessionId ≠ 0)
      (hfind : shared.table.sessions.find? shared.table.nextSessionId = none)
      (hpending : shared.table.pendingSessionCreates ≠ 0) :
      CallMove settings i shared request choice (.create .validated)
        { shared with table :=
            shared.table.enroll (SessionTable.newRecord settings shared.table request.document) }
        (.ended (.created ⟨settings.instanceId, shared.table.nextSessionId⟩))
  | createRolledBack {failure : Failure} {table : SessionTable}
      (hmutex : shared.lifecycleMutex = none)
      (hdrop : shared.table.dropPending = some table) :
      CallMove settings i shared request choice (.create (.rollingBack failure))
        { shared with table := table } (.ended (.failed failure))
  | createTerminated {stage : CreateStage}
      (hstage : stage = .validated ∨ ∃ failure, stage = .rollingBack failure)
      (hpending : shared.table.pendingSessionCreates = 0) :
      CallMove settings i shared request choice (.create stage) { shared with terminated := true }
        (.create stage)
  | closeMissed {fails : Fault → Bool} (hchoice : choice = .go fails)
      (hmutex : shared.lifecycleMutex = none)
      (hfind : shared.table.findOpen? settings.instanceId request.sessionId = none) :
      CallMove settings i shared request choice (.close .entered) shared
        (.ended (.failed (rejection fails .notFound "ephemeral namespace does not exist")))
  | closeMarked {s : SessionRef} (hmutex : shared.lifecycleMutex = none)
      (hfind : shared.table.findOpen? settings.instanceId request.sessionId = some s) :
      CallMove settings i shared request choice (.close .entered)
        { shared with table := shared.table.setClosing s true } (.close (.marked s))
  | closeAborted {s : SessionRef} (hquiet : ¬ choice.Quiet) :
      CallMove settings i shared request choice (.close (.marked s)) shared
        (.close (.reopening s .badAlloc))
  | closeDrained {s : SessionRef} (hmutex : shared.registryMutex = none) :
      CallMove settings i shared request choice (.close (.marked s))
        { shared with registry := (shared.registry.drain request.sessionId).1 }
        (.close (.settlingQueued s (shared.registry.drain request.sessionId).2.1
          (shared.registry.drain request.sessionId).2.2))
  | closeReopened {s : SessionRef} {exception : Raised} (hmutex : shared.lifecycleMutex = none) :
      CallMove settings i shared request choice (.close (.reopening s exception))
        { shared with table := shared.table.reopen request.sessionId s }
        (.ended (.failed (.raised exception)))
  | closeQueuedDone {s : SessionRef} {running : List JobRef} :
      CallMove settings i shared request choice (.close (.settlingQueued s [] running)) shared
        (.close (.settlingRunning s running running))
  | closeCancelling {s : SessionRef} {r : JobRef} {queued running : List JobRef}
      {record : JobRecord} (hr : shared.registry.records[r]? = some record) :
      CallMove settings i shared request choice (.close (.settlingQueued s (r :: queued) running))
        (shared.write r record.cancel) (.close (.cancelling s r queued running))
  | closeSettled {s : SessionRef} {r : JobRef} {queued running : List JobRef}
      {record : JobRecord} (hr : shared.registry.records[r]? = some record) :
      CallMove settings i shared request choice (.close (.cancelling s r queued running))
        (shared.write r record.settle) (.close (.settlingQueued s queued running))
  | closeRequested {s : SessionRef} {r : JobRef} {todo running : List JobRef}
      {record : JobRecord} (hr : shared.registry.records[r]? = some record) :
      CallMove settings i shared request choice (.close (.settlingRunning s (r :: todo) running))
        (shared.write r record.cancelUnlessTerminal) (.close (.settlingRunning s todo running))
  | closeRunningDone {s : SessionRef} {running : List JobRef} :
      CallMove settings i shared request choice (.close (.settlingRunning s [] running)) shared
        (.close (.waiting s running))
  | closeWaited {s : SessionRef} {r : JobRef} {running : List JobRef} {record : JobRecord}
      (hr : shared.registry.records[r]? = some record) (hterminal : terminal record.state = true) :
      CallMove settings i shared request choice (.close (.waiting s (r :: running))) shared
        (.close (.waiting s running))
  | closeFinalized {s : SessionRef} (hmutex : shared.lifecycleMutex = none)
      (hfind : shared.table.sessions.find? request.sessionId.value = some s)
      (hclosing : shared.table.closing s = true) :
      CallMove settings i shared request choice (.close (.waiting s []))
        { shared with table := { shared.table with
          sessions := shared.table.sessions.erase request.sessionId.value } } (.ended .closed)
  | closeTerminated {s : SessionRef}
      (hwhy : ¬ (shared.table.sessions.find? request.sessionId.value = some s ∧
        shared.table.closing s = true)) :
      CallMove settings i shared request choice (.close (.waiting s []))
        { shared with terminated := true } (.close (.waiting s []))
  | submitMissed {fails : Fault → Bool} (hchoice : choice = .go fails)
      (hmutex : shared.lifecycleMutex = none)
      (hfind : shared.table.findOpen? settings.instanceId request.sessionId = none) :
      CallMove settings i shared request choice (.submit .entered) shared
        (.ended (.failed (rejection fails .notFound "ephemeral namespace does not exist")))
  | submitAdmitted {s : SessionRef} (hmutex : shared.lifecycleMutex = none)
      (hfind : shared.table.findOpen? settings.instanceId request.sessionId = some s) :
      CallMove settings i shared request choice (.submit .entered)
        { shared with lifecycleMutex := some i } (.submit (.admitted s))
  | submitEnded {s : SessionRef} {session : SessionRecord} {fails : Fault → Bool}
      (hmutex : shared.registryMutex = none) (hs : shared.table.records[s]? = some session)
      (hchoice : choice = .go fails) :
      CallMove settings i shared request choice (.submit (.admitted s))
        { shared with
          registry := (shared.registry.submit settings session.id session.graph
            request.submitOptions fails).1
          lifecycleMutex := none }
        (.ended (.ofResult .submitted (shared.registry.submit settings session.id session.graph
          request.submitOptions fails).2))
  | lookupMissed {kind : Lookup} {fails : Fault → Bool} (hchoice : choice = .go fails)
      (hfind : shared.registry.find? settings.instanceId request.jobId = none) :
      CallMove settings i shared request choice (.lookup kind .entered) shared
        (.ended (.failed (rejection fails .notFound "ephemeral execution does not exist")))
  | lookupFound {kind : Lookup} {r : JobRef}
      (hfind : shared.registry.find? settings.instanceId request.jobId = some r) :
      CallMove settings i shared request choice (.lookup kind .entered) shared
        (.lookup kind (.found r))
  | lookupFinished {kind : Lookup} {r : JobRef} {record : JobRecord} {fails : Fault → Bool}
      (hchoice : choice = .go fails) (hr : shared.registry.records[r]? = some record) :
      CallMove settings i shared request choice (.lookup kind (.found r))
        (shared.write r (kind.finish record fails).1) (.ended (kind.finish record fails).2)
  | releaseMissed {fails : Fault → Bool} (hchoice : choice = .go fails)
      (hfind : shared.registry.find? settings.instanceId request.jobId = none) :
      CallMove settings i shared request choice (.release .entered) shared
        (.ended (.failed (rejection fails .notFound "ephemeral execution does not exist")))
  | releaseFound {r : JobRef} (hmutex : shared.registryMutex = none)
      (hfind : shared.registry.find? settings.instanceId request.jobId = some r) :
      CallMove settings i shared request choice (.release .entered)
        { shared with registryMutex := some i } (.release (.found r))
  | releaseRefused {r : JobRef} {record : JobRecord} {fails : Fault → Bool}
      (hchoice : choice = .go fails) (hr : shared.registry.records[r]? = some record)
      (hterminal : terminal record.state = false) :
      CallMove settings i shared request choice (.release (.found r))
        { shared with registryMutex := none }
        (.ended (.failed (rejection fails .invalidArgument "running execution cannot be released")))
  | releaseChecked {r : JobRef} {record : JobRecord}
      (hr : shared.registry.records[r]? = some record) (hterminal : terminal record.state = true) :
      CallMove settings i shared request choice (.release (.found r)) shared (.release (.erasing r))
  | releaseErased {r : JobRef} :
      CallMove settings i shared request choice (.release (.erasing r))
        { shared with
          registryMutex := none
          registry := { shared.registry with
            jobs := shared.registry.jobs.erase request.jobId.value } }
        (.ended .released)
  | infoFailed (hquiet : ¬ choice.Quiet) :
      CallMove settings i shared request choice (.info .entered) shared
        (.ended (.failed (.raised .badAlloc)))
  | infoCounted :
      CallMove settings i shared request choice (.info .entered) shared
        (.info (.counted shared.table.sessions.size))
  | infoEnded {activeSessions : Nat} :
      CallMove settings i shared request choice (.info (.counted activeSessions)) shared
        (.ended (.described (describe settings activeSessions shared.registry)))

variable {i : Nat} {request : Request} {choice : Choice} {stage' : CallStage}

theorem createStep_move {stage : CreateStage}
    (h : createStep settings request.document shared stage choice = some (shared', stage')) :
    CallMove settings i shared request choice (.create stage) shared' stage' := by
  unfold createStep at h
  split at h
  · obtain ⟨hmutex, h⟩ := locking_eq_some h
    split at h
    · rename_i hreserve
      cases h
      exact .createRefused hmutex rfl hreserve
    · rename_i hreserve
      cases h
      exact .createReserved hmutex hreserve
  · cases h
    rename_i outcome
    cases outcome with
    | value value => exact .createValidated
    | failure status => exact .createAbandoned (Or.inl rfl) (Or.inl ⟨_, rfl, rfl⟩)
    | raised exception => exact .createAbandoned (Or.inl rfl) (Or.inl ⟨_, rfl, rfl⟩)
  · obtain ⟨hmutex, h⟩ := locking_eq_some h
    rcases shared.table.publish_cases settings request.document _ with
      ⟨failure, heq⟩ | ⟨hpending, heq⟩ | ⟨heq, hnext, hfind, hpending⟩ <;>
      rw [heq] at h <;> cases h
    · exact .createAbandoned (Or.inr rfl) (Or.inr ⟨_, rfl, heq⟩)
    · exact .createTerminated (Or.inl rfl) hpending
    · exact .createPublished hmutex hnext hfind hpending
  · obtain ⟨hmutex, h⟩ := locking_eq_some h
    split at h
    · rename_i hdrop
      cases h
      exact .createRolledBack hmutex hdrop
    · rename_i hdrop
      cases h
      refine .createTerminated (Or.inr ⟨_, rfl⟩) ?_
      unfold SessionTable.dropPending at hdrop
      split at hdrop
      · assumption
      · cases hdrop
  · cases h

theorem closeStep_move {stage : CloseStage}
    (h : closeStep settings request.sessionId shared stage choice = some (shared', stage')) :
    CallMove settings i shared request choice (.close stage) shared' stage' := by
  unfold closeStep at h
  split at h
  · obtain ⟨hmutex, h⟩ := locking_eq_some h
    split at h <;> cases h
    · exact .closeMissed rfl hmutex ‹_›
    · exact .closeMarked hmutex ‹_›
  · obtain ⟨hmutex, h⟩ := locking_eq_some h
    split at h <;> cases h
    · exact .closeAborted (Choice.not_quiet .snapshot ‹_›)
    · exact .closeDrained hmutex
  · obtain ⟨hmutex, h⟩ := locking_eq_some h
    cases h
    exact .closeReopened hmutex
  · cases h
    exact .closeQueuedDone
  · obtain ⟨record, hr, rfl, rfl⟩ := Shared.onRecord_eq_some h
    exact .closeCancelling hr
  · obtain ⟨record, hr, rfl, rfl⟩ := Shared.onRecord_eq_some h
    exact .closeSettled hr
  · cases h
    exact .closeRunningDone
  · obtain ⟨record, hr, rfl, rfl⟩ := Shared.onRecord_eq_some h
    exact .closeRequested hr
  · split at h
    · cases h
    · rename_i record hr
      split at h <;> cases h
      exact .closeWaited hr ‹_›
  · obtain ⟨hmutex, h⟩ := locking_eq_some h
    unfold SessionTable.finalize at h
    split at h
    · rename_i heq
      split at heq <;> cases heq
      rename_i hwhy
      cases h
      exact .closeFinalized hmutex hwhy.1 hwhy.2
    · rename_i heq
      split at heq <;> cases heq
      cases h
      exact .closeTerminated ‹_›
  · cases h

theorem submitStep_move {stage : SubmitStage}
    (h : submitStep settings i request.sessionId request.submitOptions shared stage choice =
      some (shared', stage')) :
    CallMove settings i shared request choice (.submit stage) shared' stage' := by
  unfold submitStep at h
  split at h
  · obtain ⟨hmutex, h⟩ := locking_eq_some h
    split at h <;> cases h
    · exact .submitMissed rfl hmutex ‹_›
    · exact .submitAdmitted hmutex ‹_›
  · obtain ⟨hmutex, h⟩ := locking_eq_some h
    split at h <;> cases h
    exact .submitEnded hmutex ‹_› rfl
  · cases h

theorem lookupStep_move {kind : Lookup} {stage : LookupStage}
    (h : lookupStep settings kind request.jobId shared stage choice = some (shared', stage')) :
    CallMove settings i shared request choice (.lookup kind stage) shared' stage' := by
  unfold lookupStep at h
  split at h
  · obtain ⟨-, h⟩ := locking_eq_some h
    split at h <;> cases h
    · exact .lookupMissed rfl ‹_›
    · exact .lookupFound ‹_›
  · obtain ⟨record, hr, rfl, rfl⟩ := Shared.onRecord_eq_some h
    exact .lookupFinished rfl hr
  · cases h

theorem releaseStep_move {stage : ReleaseStage}
    (h : releaseStep settings i request.jobId shared stage choice = some (shared', stage')) :
    CallMove settings i shared request choice (.release stage) shared' stage' := by
  unfold releaseStep at h
  split at h
  · obtain ⟨hmutex, h⟩ := locking_eq_some h
    split at h <;> cases h
    · exact .releaseMissed rfl ‹_›
    · exact .releaseFound hmutex ‹_›
  · split at h
    · cases h
    · rename_i record hr
      split at h <;> cases h
      · exact .releaseChecked hr ‹_›
      · exact .releaseRefused rfl hr (by simpa using ‹¬ terminal record.state = true›)
  · cases h
    exact .releaseErased
  · cases h

theorem infoStep_move {stage : InfoStage}
    (h : infoStep settings shared stage choice = some (shared', stage')) :
    CallMove settings i shared request choice (.info stage) shared' stage' := by
  unfold infoStep at h
  split at h
  · cases h
    split
    · exact .infoFailed (Choice.not_quiet .copy ‹_›)
    · exact .infoCounted
  · obtain ⟨-, h⟩ := locking_eq_some h
    cases h
    exact .infoEnded
  · cases h

theorem callStep_move {stage : CallStage}
    (h : callStep settings i shared request stage choice = some (shared', stage')) :
    CallMove settings i shared request choice stage shared' stage' := by
  unfold callStep at h
  split at h
  · cases h
    split
    · rename_i hdown
      rw [Bool.and_eq_true, decide_eq_true_eq] at hdown
      exact .refuse hdown.1 hdown.2 rfl
    · rename_i hdown
      refine .enter ?_
      cases hflag : shared.shuttingDown with
      | false => exact Or.inr rfl
      | true => simpa [hflag] using hdown
  · exact createStep_move h
  · exact closeStep_move h
  · exact submitStep_move h
  · exact lookupStep_move h
  · exact releaseStep_move h
  · exact infoStep_move h
  · cases h
    exact .shutdown
  · cases h
    exact .shutdownFailed rfl
  · cases h
    exact .respond rfl
  · cases h

/-- How a lookup that has found its record can end. -/
theorem Lookup.finish_cases (kind : Lookup) (record : JobRecord) (fails : Fault → Bool) :
    (∃ failure, (kind.finish record fails).2 = .failed failure) ∨
    (∃ status, kind = .status ∧ record.observe fails = .ok status ∧
      (kind.finish record fails).2 = .observed status) ∨
    kind = .cancel ∧ (kind.finish record fails).2 = .cancelAccepted ∨
    ∃ result, kind = .result ∧ record.answer fails = .ok result ∧
      (kind.finish record fails).2 = .produced result := by
  cases kind with
  | status =>
    rcases Ending.ofResult_cases .observed (record.observe fails) with ⟨status, hok, heq⟩ |
      ⟨failure, -, heq⟩
    · exact Or.inr (Or.inl ⟨status, rfl, hok, heq⟩)
    · exact Or.inl ⟨failure, heq⟩
  | cancel => exact Or.inr (Or.inr (Or.inl ⟨rfl, rfl⟩))
  | result =>
    rcases Ending.ofResult_cases .produced (record.answer fails) with ⟨result, hok, heq⟩ |
      ⟨failure, -, heq⟩
    · exact Or.inr (Or.inr (Or.inr ⟨result, rfl, hok, heq⟩))
    · exact Or.inl ⟨failure, heq⟩

/-- A lookup publishes nothing. -/
theorem Lookup.finish_follows (kind : Lookup) (record : JobRecord) (fails : Fault → Bool) :
    record.Follows (kind.finish record fails).1 ∧
      (kind.finish record fails).1.published = record.published := by
  cases kind with
  | cancel => exact ⟨record.follows_cancelUnlessTerminal, record.published_cancelUnlessTerminal⟩
  | _ => exact ⟨.refl record, rfl⟩

/-! ## Threads -/

/-- The steps of a thread. -/
inductive ThreadMove (settings : Settings) (i : Nat) (shared : Shared) (choice : Choice) :
    Thread → Shared → Thread → Prop where
  | worker {stage stage' : WorkerStage} {shared' : Shared}
      (hmove : WorkerMove shared choice stage shared' stage') :
      ThreadMove settings i shared choice (.worker stage) shared' (.worker stage')
  | call {request : Request} {stage stage' : CallStage} {shared' : Shared}
      (hmove : CallMove settings i shared request choice stage shared' stage') :
      ThreadMove settings i shared choice (.call request stage) shared' (.call request stage')

theorem threadMove {c : Config Shared Thread} {l l' : Thread}
    (h : (service settings).Moves c i l choice shared' l') :
    ThreadMove settings i c.shared choice l shared' l' := by
  have hstep : threadStep settings i c.shared l choice = some (shared', l') := h.step
  unfold threadStep at hstep
  split at hstep
  · cases hstep
  · cases l with
    | worker stage =>
      obtain ⟨⟨s, stage'⟩, hworker, heq⟩ := Option.map_eq_some_iff.mp hstep
      cases heq
      exact .worker (workerStep_move hworker)
    | call request stage =>
      obtain ⟨⟨s, stage'⟩, hcall, heq⟩ := Option.map_eq_some_iff.mp hstep
      cases heq
      exact .call (callStep_move hcall)

/-- A shutdown that was accepted stays accepted. -/
theorem shuttingDown_step {c : Config Shared Thread} {l l' : Thread}
    (hmoves : (service settings).Moves c i l choice shared' l')
    (hdown : c.shared.shuttingDown = true) : shared'.shuttingDown = true := by
  cases threadMove hmoves with
  | worker hmove => cases hmove <;> exact hdown
  | call hmove =>
    cases hmove with
    | shutdown => rfl
    | _ => exact hdown

/-! ## Routing -/

/-- The method that finds its record and then does this. -/
def Lookup.method : Lookup → Method
  | status => .jobStatus
  | cancel => .jobCancel
  | result => .jobResult

/-- The end is one that the method can have. -/
def Ending.Answers : Ending → Method → Prop
  | created _, method => method = .sessionCreate
  | closed, method => method = .sessionClose
  | submitted _, method => method = .jobSubmit
  | observed _, method => method = .jobStatus
  | cancelAccepted, method => method = .jobCancel
  | produced _, method => method = .jobResult
  | released, method => method = .jobRelease
  | described _, method => method = .daemonInfo
  | shutdownAccepted, method => method = .daemonShutdown
  | failed _, _ => True

/-- The stage is one of the method of the request. -/
def CallStage.Routed (request : Request) : CallStage → Prop
  | begun => True
  | create _ => request.method = .sessionCreate
  | close _ => request.method = .sessionClose
  | submit _ => request.method = .jobSubmit
  | lookup kind _ => request.method = kind.method
  | release _ => request.method = .jobRelease
  | info _ => request.method = .daemonInfo
  | shutdown => request.method = .daemonShutdown
  | ended ending => ending.Answers request.method
  | returned ending response =>
      ending.Answers request.method ∧ ∃ fails, response = respond request ending fails

def Thread.Routed : Thread → Prop
  | worker _ => True
  | call request stage => stage.Routed request

theorem routed_step {c : Config Shared Thread} {l l' : Thread}
    (hmoves : (service settings).Moves c i l choice shared' l') (h : l.Routed) : l'.Routed := by
  cases threadMove hmoves with
  | worker hmove => trivial
  | @call request _ _ _ hmove =>
    cases hmove with
    | enter =>
      change (CallStage.enter request.method).Routed request
      cases hmethod : request.method <;> exact hmethod
    | respond _ => exact ⟨h, _, rfl⟩
    | @submitEnded s session fails _ _ =>
      rcases Ending.ofResult_cases .submitted (c.shared.registry.submit settings session.id
        session.graph request.submitOptions fails).2 with ⟨id, -, heq⟩ | ⟨failure, -, heq⟩ <;>
        rw [heq]
      · exact h
      · trivial
    | @lookupFinished kind r record fails _ _ =>
      rcases kind.finish_cases record fails with ⟨failure, heq⟩ | ⟨status, rfl, -, heq⟩ |
        ⟨rfl, heq⟩ | ⟨result, rfl, -, heq⟩ <;> rw [heq]
      · trivial
      · exact h
      · exact h
      · exact h
    | _ => first | exact h | trivial

/-- Every call is in a stage of its method. -/
theorem routed_of_reachable {c : Config Shared Thread} (h : Reachable settings c) :
    ∀ l ∈ c.threads, l.Routed := by
  refine Program.Leads.forall_threads (motive := fun _ l => l.Routed) h ?_ ?_ ?_ ?_
  · intro l hl
    obtain ⟨i, hi⟩ := List.getElem?_of_mem hl
    obtain rfl := eq_idle_of_initial hi
    trivial
  · intro c₁ request _
    trivial
  · intro c₁ i l choice shared' l' _ _ hmoves hl
    exact routed_step hmoves hl
  · intro c₁ i l choice shared' l' m _ _ _ hm
    exact hm

end Kernel

end PhotospiderDaemon.Orchestration
