import PhotospiderDaemon.Orchestration.Registry
import PhotospiderDaemon.Orchestration.Sessions

/-!
# The service as a program of threads

`Service::dispatch` and the worker loop, cut where the source takes or releases a mutex,
reads the cancellation token or the shutdown flag, or calls the kernel. Everything between
two cuts is one step. A thread is a worker or one call of `dispatch`; what a call is about to
do next is its stage.

A critical section that is one step needs no lock. Two sections span steps: `submit` holds
`lifecycle_mutex` while it waits for the registry, and `release` holds the registry mutex
while it waits for the record. Their owner is part of the shared state, and a step that locks
one of the two mutexes is not enabled while it has an owner. `sessions_mutex` and the record
mutexes are never held between two steps.

The destructor of the service is not a thread: it runs when no call is in flight.
-/

namespace PhotospiderDaemon.Orchestration

open Foundation Ipc

/-! ## Stages -/

inductive ExecutionMode where
  | cpuExact
  | metalFp32
deriving DecidableEq

/-- What a worker does next. -/
inductive WorkerStage where
  | idle
  | exited
  | popped (r : JobRef)
  | running (r : JobRef)
  | compiling (r : JobRef) (mode : ExecutionMode)
  | compiled (r : JobRef)
  | executing (r : JobRef) (maximumParallelism : UInt32)
  | executionFailed (r : JobRef) (status : Status)
  | publishing (r : JobRef) (result : ExecutionResult)
  | finishingFailure (r : JobRef) (status : Status)
  | finishingCancelled (r : JobRef) (reason : Bytes)
  | fencing (r : JobRef) (exception : Raised)
  | fallingBack (r : JobRef) (code : ErrorCode)

inductive CreateStage where
  | entered
  | reserved
  | validated
  | rollingBack (failure : Failure)

/-- The stages of a close. `settlingQueued` goes through the records taken from the queue,
`cancelling` is between `cancel()` and the record mutex, `settlingRunning` and `waiting` are
the two passes over the records taken from the map. -/
inductive CloseStage where
  | entered
  | marked (s : SessionRef)
  | reopening (s : SessionRef) (exception : Raised)
  | settlingQueued (s : SessionRef) (queued running : List JobRef)
  | cancelling (s : SessionRef) (r : JobRef) (queued running : List JobRef)
  | settlingRunning (s : SessionRef) (todo running : List JobRef)
  | waiting (s : SessionRef) (running : List JobRef)

inductive SubmitStage where
  | entered
  | admitted (s : SessionRef)

/-- The three methods that find a record and then lock it. -/
inductive Lookup where
  | status
  | cancel
  | result
deriving DecidableEq

inductive LookupStage where
  | entered
  | found (r : JobRef)

inductive ReleaseStage where
  | entered
  | found (r : JobRef)
  | erasing (r : JobRef)

inductive InfoStage where
  | entered
  | counted (activeSessions : Nat)

/-- What a call of `dispatch` does next. -/
inductive CallStage where
  | begun
  | create (stage : CreateStage)
  | close (stage : CloseStage)
  | submit (stage : SubmitStage)
  | lookup (kind : Lookup) (stage : LookupStage)
  | release (stage : ReleaseStage)
  | info (stage : InfoStage)
  | shutdown
  | ended (ending : Ending)
  | returned (ending : Ending) (response : Response)

/-- How a call has ended, if it has. -/
def CallStage.ending? : CallStage → Option Ending
  | ended ending => some ending
  | returned ending _ => some ending
  | _ => none

inductive Thread where
  | worker (stage : WorkerStage)
  | call (request : Request) (stage : CallStage)

def Thread.ending? : Thread → Option Ending
  | worker _ => none
  | call _ stage => stage.ending?

/-- What the program leaves open in a step: the allocations that fail, or how the kernel
comes back. Building the candidate graph and the session record counts as part of the
compilation of a create. A step that raises is the fault point of the test runtime in front of
the commit of a shutdown. -/
inductive Choice where
  | go (fails : Fault → Bool)
  | compile (outcome : KernelOutcome Unit)
  | execute (outcome : KernelOutcome ExecutionResult)
  | raise (exception : Raised)

/-! ## The shared state -/

/-- `Service::Impl`, and whether `std::terminate` was called. -/
structure Shared where
  lifecycleMutex : Option Nat
  registryMutex : Option Nat
  table : SessionTable
  registry : Registry
  shuttingDown : Bool
  terminated : Bool

namespace Shared

def initial : Shared := ⟨none, none, SessionTable.initial, Registry.initial, false, false⟩

/-- Read a record. -/
def readRecord {α : Type} (shared : Shared) (r : JobRef) (f : JobRecord → α) :
    Option (Shared × α) :=
  shared.registry.records[r]?.map fun record => (shared, f record)

/-- A critical section on a record. -/
def onRecord {α : Type} (shared : Shared) (r : JobRef) (f : JobRecord → JobRecord × α) :
    Option (Shared × α) :=
  shared.registry.records[r]?.map fun record =>
    ({ shared with registry := shared.registry.write r (f record).1 }, (f record).2)

end Shared

/-- A step that locks a mutex waits until the mutex has no owner. -/
def locking {α : Type} (mutex : Option Nat) (step : Option α) : Option α :=
  if mutex.isSome then none else step

/-! ## The worker -/

variable [Kernel]

/-- The code of an exception, in the `catch` clauses of `execute` and of `dispatch`. -/
def fenceCode : Raised → ErrorCode
  | .badAlloc => .resourceExhausted
  | .standard _ => .internal
  | .nonstandard => .internal

/-- The diagnostic that `execute` passes to `finish_failure_safely`. -/
def fenceReason : Raised → Bytes
  | .badAlloc => ascii "execution orchestration allocation failed"
  | .standard what => what.getD []
  | .nonstandard => ascii "execution orchestration raised an exception"

/-- The test of the token before `compile` and before `execute`. The reason is a string that
has to be built. -/
def checkpoint (shared : Shared) (r : JobRef) (reason : String) (fails : Fault → Bool)
    (next : JobRecord → WorkerStage) : Option (Shared × WorkerStage) :=
  shared.readRecord r fun record =>
    if record.cancelled then
      if fails .copy then .fencing r .badAlloc else .finishingCancelled r (ascii reason)
    else next record

/-- The stage after a publication that may have raised. -/
def afterPublication (publication : JobRecord × Bool) (raised : WorkerStage) :
    JobRecord × WorkerStage :=
  (publication.1, if publication.2 then raised else .idle)

/-- `planning.execution_mode`. -/
def executionMode (settings : Settings) (options : JobSubmitOptions) : ExecutionMode :=
  if settings.config.gpuEnabled && options.allowGpu then .metalFp32 else .cpuExact

/-- `worker_loop`, `execute` and `finish_failure_safely`. -/
def workerStep (settings : Settings) (shared : Shared) (stage : WorkerStage) (choice : Choice) :
    Option (Shared × WorkerStage) :=
  match stage, choice with
  | .idle, .go _ =>
    locking shared.registryMutex <|
      if shared.registry.stopping then some (shared, .exited)
      else
        match shared.registry.queue with
        | [] => none
        | r :: queue =>
          some ({ shared with registry := { shared.registry with queue := queue } }, .popped r)
  | .popped r, .go fails =>
    shared.onRecord r fun record =>
      if record.state ≠ .queued then
        afterPublication (record.leaveUnexpectedly fails) (.fencing r .badAlloc)
      else ({ record with state := .running }, .running r)
  | .running r, .go fails =>
    checkpoint shared r "execution cancelled before compilation" fails fun record =>
      .compiling r (executionMode settings record.options)
  | .compiling r _, .compile outcome =>
    some (shared, match outcome with
      | .value _ => .compiled r
      | .failure status => .finishingFailure r status
      | .raised exception => .fencing r exception)
  | .compiled r, .go fails =>
    checkpoint shared r "execution cancelled during compilation" fails fun record =>
      .executing r record.options.maximumParallelism
  | .executing r _, .execute outcome =>
    some (shared, match outcome with
      | .value result => .publishing r result
      | .failure status => .executionFailed r status
      | .raised exception => .fencing r exception)
  | .executionFailed r status, .go fails =>
    shared.readRecord r fun record =>
      if status.code = .cancelled || record.cancelled then .finishingCancelled r status.message
      else if fails .copy then .fencing r .badAlloc
      else .finishingFailure r status
  | .publishing r result, .go fails =>
    shared.onRecord r fun record =>
      afterPublication (record.publish result fails) (.fencing r .badAlloc)
  | .finishingFailure r status, .go fails =>
    shared.onRecord r fun record =>
      afterPublication (record.finishFailure status fails) (.fencing r .badAlloc)
  | .finishingCancelled r reason, .go fails =>
    shared.onRecord r fun record =>
      afterPublication (record.finishCancelled reason fails) (.fencing r .badAlloc)
  | .fencing r exception, .go fails =>
    if fails .copy then some (shared, .fallingBack r (fenceCode exception))
    else
      shared.onRecord r fun record =>
        afterPublication
          (record.finishFailure (Status.failure (fenceCode exception) (fenceReason exception))
            fails)
          (.fallingBack r (fenceCode exception))
  | .fallingBack r code, .go _ => shared.onRecord r fun record => (record.fallback code, .idle)
  | _, _ => none

/-! ## The methods -/

/-- `create_session`. The locks of its second section are released before the reservation is
destroyed, so the rollback locks again. -/
def createStep (settings : Settings) (document : WorkflowDocument) (shared : Shared)
    (stage : CreateStage) (choice : Choice) : Option (Shared × CallStage) :=
  match stage, choice with
  | .entered, .go fails =>
    locking shared.lifecycleMutex <|
      match shared.table.reserve settings fails with
      | .error failure => some (shared, .ended (.failed failure))
      | .ok table => some ({ shared with table := table }, .create .reserved)
  | .reserved, .compile outcome =>
    some (shared, .create (match outcome with
      | .value _ => .validated
      | .failure status => .rollingBack (.status status)
      | .raised exception => .rollingBack (.raised exception)))
  | .validated, .go fails =>
    locking shared.lifecycleMutex <|
      match shared.table.publish settings document fails with
      | .refused failure => some (shared, .create (.rollingBack failure))
      | .published table id => some ({ shared with table := table }, .ended (.created id))
      | .terminated => some ({ shared with terminated := true }, .create .validated)
  | .rollingBack failure, .go _ =>
    locking shared.lifecycleMutex <|
      match shared.table.dropPending with
      | some table => some ({ shared with table := table }, .ended (.failed failure))
      | none => some ({ shared with terminated := true }, .create (.rollingBack failure))
  | _, _ => none

/-- `close_session`, `JobRegistry::close_session`, `settle_close_records` and
`finalize_session_close`. -/
def closeStep (settings : Settings) (id : SessionId) (shared : Shared) (stage : CloseStage)
    (choice : Choice) : Option (Shared × CallStage) :=
  match stage, choice with
  | .entered, .go fails =>
    locking shared.lifecycleMutex <|
      match shared.table.findOpen? settings.instanceId id with
      | none => some (shared, .ended (.failed
          (rejection fails .notFound "ephemeral namespace does not exist")))
      | some s => some ({ shared with table := shared.table.setClosing s true }, .close (.marked s))
  | .marked s, .go fails =>
    locking shared.registryMutex <|
      if fails .snapshot then some (shared, .close (.reopening s .badAlloc))
      else
        let drained := shared.registry.drain id
        some ({ shared with registry := drained.1 },
          .close (.settlingQueued s drained.2.1 drained.2.2))
  | .reopening s exception, .go _ =>
    locking shared.lifecycleMutex <|
      some ({ shared with table := shared.table.reopen id s }, .ended (.failed (.raised exception)))
  | .settlingQueued s [] running, .go _ =>
    some (shared, .close (.settlingRunning s running running))
  | .settlingQueued s (r :: queued) running, .go _ =>
    shared.onRecord r fun record => (record.cancel, .close (.cancelling s r queued running))
  | .cancelling s r queued running, .go _ =>
    shared.onRecord r fun record => (record.settle, .close (.settlingQueued s queued running))
  | .settlingRunning s [] running, .go _ => some (shared, .close (.waiting s running))
  | .settlingRunning s (r :: todo) running, .go _ =>
    shared.onRecord r fun record =>
      (record.cancelUnlessTerminal, .close (.settlingRunning s todo running))
  | .waiting s (r :: running), .go _ =>
    match shared.registry.records[r]? with
    | none => none
    | some record =>
      if terminal record.state then some (shared, .close (.waiting s running)) else none
  | .waiting s [], .go _ =>
    locking shared.lifecycleMutex <|
      match shared.table.finalize id s with
      | some table => some ({ shared with table := table }, .ended .closed)
      | none => some ({ shared with terminated := true }, .close (.waiting s []))
  | _, _ => none

/-- `submit`, which holds `lifecycle_mutex` until `JobRegistry::submit` has returned. -/
def submitStep (settings : Settings) (i : Nat) (id : SessionId) (options : JobSubmitOptions)
    (shared : Shared) (stage : SubmitStage) (choice : Choice) : Option (Shared × CallStage) :=
  match stage, choice with
  | .entered, .go fails =>
    locking shared.lifecycleMutex <|
      match shared.table.findOpen? settings.instanceId id with
      | none => some (shared, .ended (.failed
          (rejection fails .notFound "ephemeral namespace does not exist")))
      | some s => some ({ shared with lifecycleMutex := some i }, .submit (.admitted s))
  | .admitted s, .go fails =>
    locking shared.registryMutex <|
      match shared.table.records[s]? with
      | none => none
      | some session =>
        let submitted := shared.registry.submit settings session.id session.graph options fails
        some ({ shared with registry := submitted.1, lifecycleMutex := none },
          .ended (.ofResult .submitted submitted.2))
  | _, _ => none

/-- What a lookup does with the record it has found. -/
def Lookup.finish (kind : Lookup) (record : JobRecord) (fails : Fault → Bool) :
    JobRecord × Ending :=
  match kind with
  | .status => (record, .ofResult .observed (record.observe fails))
  | .cancel => (record.cancelUnlessTerminal, .cancelAccepted)
  | .result => (record, .ofResult .produced (record.answer fails))

/-- `JobRegistry::status`, `cancel` and `result`. -/
def lookupStep (settings : Settings) (kind : Lookup) (id : JobId) (shared : Shared)
    (stage : LookupStage) (choice : Choice) : Option (Shared × CallStage) :=
  match stage, choice with
  | .entered, .go fails =>
    locking shared.registryMutex <|
      match shared.registry.find? settings.instanceId id with
      | none => some (shared, .ended (.failed
          (rejection fails .notFound "ephemeral execution does not exist")))
      | some r => some (shared, .lookup kind (.found r))
  | .found r, .go fails =>
    shared.onRecord r fun record =>
      ((kind.finish record fails).1, .ended (kind.finish record fails).2)
  | _, _ => none

/-- `JobRegistry::release`, which holds the registry mutex throughout. -/
def releaseStep (settings : Settings) (i : Nat) (id : JobId) (shared : Shared)
    (stage : ReleaseStage) (choice : Choice) : Option (Shared × CallStage) :=
  match stage, choice with
  | .entered, .go fails =>
    locking shared.registryMutex <|
      match shared.registry.find? settings.instanceId id with
      | none => some (shared, .ended (.failed
          (rejection fails .notFound "ephemeral execution does not exist")))
      | some r => some ({ shared with registryMutex := some i }, .release (.found r))
  | .found r, .go fails =>
    match shared.registry.records[r]? with
    | none => none
    | some record =>
      if terminal record.state then some (shared, .release (.erasing r))
      else
        some ({ shared with registryMutex := none },
          .ended (.failed
            (rejection fails .invalidArgument "running execution cannot be released")))
  | .erasing _, .go _ =>
    some ({ shared with
      registryMutex := none
      registry := { shared.registry with jobs := shared.registry.jobs.erase id.value } },
      .ended .released)
  | _, _ => none

/-- What `daemon.info` reports. -/
def describe (settings : Settings) (activeSessions : Nat) (registry : Registry) : DaemonInfo where
  protocolVersion := protocolVersion
  instanceId := settings.instanceId
  serviceVersion := settings.serviceVersion
  transport := ascii "unix-domain"
  methods := methodInventory
  activeSessions := UInt64.ofNat activeSessions
  activeJobs := UInt64.ofNat registry.jobs.size
  maximumConcurrency := settings.config.maximumConcurrency
  maximumSessions := settings.config.maximumSessions

/-- The `daemon.info` branch of `dispatch`. -/
def infoStep (settings : Settings) (shared : Shared) (stage : InfoStage) (choice : Choice) :
    Option (Shared × CallStage) :=
  match stage, choice with
  | .entered, .go fails =>
    some (shared, if fails .copy then .ended (.failed (.raised .badAlloc))
      else .info (.counted shared.table.sessions.size))
  | .counted activeSessions, .go _ =>
    locking shared.registryMutex <|
      some (shared, .ended (.described (describe settings activeSessions shared.registry)))
  | _, _ => none

/-! ## Dispatch -/

/-- `fail_response_without_allocation`. -/
def failResponseWithoutAllocation (response : Response) (code : ErrorCode) : Response :=
  { response with
    status := ⟨if code = .ok then .internal else code, []⟩
    sessionId := ⟨0, 0⟩
    jobId := ⟨0, 0⟩
    jobStatus := ⟨⟨0, 0⟩, ⟨0, 0⟩, .queued, ⟨.ok, []⟩⟩
    executionResult := ⟨OrderedMap.empty, ⟨0, OrderedMap.empty, 0, 0, 0, [], [], [], []⟩⟩
    daemonInfo := ⟨0, 0, [], [], [], 0, 0, 0, 0⟩
    shutdownAfterWrite := false }

/-- The diagnostic of a `catch` clause of `dispatch`. -/
def dispatchReason : Raised → Bytes
  | .badAlloc => ascii "daemon orchestration allocation failed"
  | .standard what => what.getD []
  | .nonstandard => ascii "daemon orchestration raised a nonstandard exception"

/-- The three `catch` clauses of `dispatch`. -/
def fenceResponse (response : Response) (exception : Raised) (fails : Fault → Bool) : Response :=
  let failed := failResponseWithoutAllocation response (fenceCode exception)
  if fails .diagnostic then failResponseWithoutAllocation failed (fenceCode exception)
  else { failed with status := Status.failure (fenceCode exception) (dispatchReason exception) }

/-- How `dispatch` turns the end of a method into a response. Only what has a message or a
payload has to be copied. -/
def respond (request : Request) (ending : Ending) (fails : Fault → Bool) : Response :=
  let response : Response := { (default : Response) with
    requestId := request.requestId, method := request.method }
  let copied (response' : Response) : Response :=
    if fails .copy then fenceResponse response .badAlloc fails else response'
  match ending with
  | .created id => { response with status := Status.success, sessionId := id }
  | .closed => { response with status := Status.success }
  | .submitted id => { response with status := Status.success, jobId := id }
  | .observed status => copied { response with status := Status.success, jobStatus := status }
  | .cancelAccepted => { response with status := Status.success }
  | .produced result => copied { response with status := Status.success, executionResult := result }
  | .released => { response with status := Status.success }
  | .described info => { response with status := Status.success, daemonInfo := info }
  | .shutdownAccepted => { response with status := Status.success, shutdownAfterWrite := true }
  | .failed (.status status) => copied { response with status := status }
  | .failed (.raised exception) => fenceResponse response exception fails

theorem fenceResponse_header (response : Response) (exception : Raised) (fails : Fault → Bool) :
    (fenceResponse response exception fails).requestId = response.requestId ∧
      (fenceResponse response exception fails).method = response.method := by
  unfold fenceResponse
  dsimp only
  split <;> exact ⟨rfl, rfl⟩

theorem fenceCode_ne_ok (exception : Raised) : fenceCode exception ≠ .ok := by
  cases exception with
  | badAlloc => exact ErrorCode.resourceExhausted_ne_ok
  | _ => exact ErrorCode.internal_ne_ok

theorem fenceCode_ne_cancelled (exception : Raised) : fenceCode exception ≠ .cancelled := by
  cases exception with
  | badAlloc => exact ErrorCode.resourceExhausted_ne_cancelled
  | _ => exact ErrorCode.internal_ne_cancelled

/-- The fence keeps the category of an exception, and its diagnostic if that can be
allocated. -/
theorem fenceResponse_status (response : Response) (exception : Raised) (fails : Fault → Bool) :
    (fenceResponse response exception fails).status =
      ⟨fenceCode exception, if fails .diagnostic then [] else dispatchReason exception⟩ := by
  have hcode := fenceCode_ne_ok exception
  unfold fenceResponse failResponseWithoutAllocation
  cases exception <;> cases fails .diagnostic <;>
    simp_all [fenceCode, dispatchReason, Status.failure]

theorem fenceResponse_shutdown (response : Response) (exception : Raised) (fails : Fault → Bool) :
    (fenceResponse response exception fails).shutdownAfterWrite = false := by
  unfold fenceResponse
  dsimp only
  split <;> rfl

/-- A response carries the identity and the method of its request. -/
theorem respond_header (request : Request) (ending : Ending) (fails : Fault → Bool) :
    (respond request ending fails).requestId = request.requestId ∧
      (respond request ending fails).method = request.method := by
  have hcopied : ∀ response' : Response, response'.requestId = request.requestId ∧
      response'.method = request.method →
      (if fails .copy then fenceResponse { (default : Response) with
        requestId := request.requestId, method := request.method } .badAlloc fails
        else response').requestId = request.requestId ∧
      (if fails .copy then fenceResponse { (default : Response) with
        requestId := request.requestId, method := request.method } .badAlloc fails
        else response').method = request.method := by
    intro response' hheader
    split
    · exact fenceResponse_header _ _ _
    · exact hheader
  cases ending with
  | observed status => exact hcopied _ ⟨rfl, rfl⟩
  | produced result => exact hcopied _ ⟨rfl, rfl⟩
  | failed failure =>
    cases failure with
    | status status => exact hcopied _ ⟨rfl, rfl⟩
    | raised exception => exact fenceResponse_header _ _ _
  | _ => exact ⟨rfl, rfl⟩

/-- The stage in which `dispatch` routes a method. -/
def CallStage.enter : Method → CallStage
  | .sessionCreate => .create .entered
  | .sessionClose => .close .entered
  | .jobSubmit => .submit .entered
  | .jobStatus => .lookup .status .entered
  | .jobCancel => .lookup .cancel .entered
  | .jobResult => .lookup .result .entered
  | .jobRelease => .release .entered
  | .daemonInfo => .info .entered
  | .daemonShutdown => .shutdown

/-- `Service::dispatch`. -/
def callStep (settings : Settings) (i : Nat) (shared : Shared) (request : Request)
    (stage : CallStage) (choice : Choice) : Option (Shared × CallStage) :=
  match stage, choice with
  | .begun, .go fails =>
    some (shared,
      if request.method ≠ .daemonShutdown && shared.shuttingDown then
        .ended (.failed (rejection fails .cancelled "daemon orchestration is shutting down"))
      else CallStage.enter request.method)
  | .create stage, choice => createStep settings request.document shared stage choice
  | .close stage, choice => closeStep settings request.sessionId shared stage choice
  | .submit stage, choice =>
    submitStep settings i request.sessionId request.submitOptions shared stage choice
  | .lookup kind stage, choice => lookupStep settings kind request.jobId shared stage choice
  | .release stage, choice => releaseStep settings i request.jobId shared stage choice
  | .info stage, choice => infoStep settings shared stage choice
  | .shutdown, .go _ => some ({ shared with shuttingDown := true }, .ended .shutdownAccepted)
  | .shutdown, .raise exception => some (shared, .ended (.failed (.raised exception)))
  | .ended ending, .go fails => some (shared, .returned ending (respond request ending fails))
  | _, _ => none

/-- One step of a thread. Nothing happens after `std::terminate`. -/
def threadStep (settings : Settings) (i : Nat) (shared : Shared) (thread : Thread)
    (choice : Choice) : Option (Shared × Thread) :=
  if shared.terminated then none
  else
    match thread with
    | .worker stage =>
      (workerStep settings shared stage choice).map fun result => (result.1, .worker result.2)
    | .call request stage =>
      (callStep settings i shared request stage choice).map fun result =>
        (result.1, .call request result.2)

/-- The service: calls start when requests come in. -/
def service (settings : Settings) : Program Shared Thread Choice Request where
  start request := .call request .begun
  step := threadStep settings

omit [Kernel] in
/-- The fixed workers wait and no call has started. -/
def initial (settings : Settings) : Config Shared Thread :=
  ⟨Shared.initial, List.replicate settings.config.maximumConcurrency.toNat (.worker .idle)⟩

omit [Kernel] in
theorem eq_idle_of_initial {settings : Settings} {i : Nat} {l : Thread}
    (h : (initial settings).threads[i]? = some l) : l = .worker .idle :=
  List.eq_of_mem_replicate (List.mem_of_getElem? h)

/-- The configurations that an interleaving of calls and workers can reach. -/
def Reachable (settings : Settings) (c : Config Shared Thread) : Prop :=
  (service settings).Leads (fun _ => True) (initial settings) c

theorem Reachable.trans {settings : Settings} {c c' : Config Shared Thread}
    (h : Reachable settings c) (hleads : (service settings).Leads (fun _ => True) c c') :
    Reachable settings c' :=
  Program.Leads.trans h hleads

theorem Reachable.initial (settings : Settings) : Reachable settings (initial settings) :=
  Program.Leads.refl _

/-- A step from a configuration that was reached. -/
theorem Reachable.moves {settings : Settings} {c : Config Shared Thread} {l l' : Thread}
    {shared' : Shared} (_ : Reachable settings c) (i : Nat) (choice : Choice)
    (hthread : c.threads[i]? = some l)
    (hstep : threadStep settings i c.shared l choice = some (shared', l')) :
    (service settings).Moves c i l choice shared' l' :=
  ⟨hthread, hstep⟩

theorem leads_of_run {settings : Settings} {c c' : Config Shared Thread}
    (acts : List (Act Choice Request)) (h : (service settings).run c acts = some c') :
    (service settings).Leads (fun _ => True) c c' :=
  ⟨acts, fun act _ => by cases act <;> trivial, h⟩

theorem Reachable.run {settings : Settings} {c c' : Config Shared Thread}
    (h : Reachable settings c) (acts : List (Act Choice Request))
    (hrun : (service settings).run c acts = some c') : Reachable settings c' :=
  h.trans (leads_of_run acts hrun)

omit [Kernel] in
/-- A request about the first session and the first job of `sampleSettings`. -/
def sampleRequest (method : Method) : Request :=
  { (default : Request) with method := method, sessionId := ⟨7, 1⟩, jobId := ⟨7, 1⟩ }

omit [Kernel] in
/-- Thread `i` makes a step in which nothing fails. -/
def plainMove (i : Nat) : Act Choice Request := .move i (.go fun _ => false)

/-- Thread 2 has created the first session of `sampleSettings` and thread 3 has submitted its
first job. -/
def sampleConfig : Config Shared Thread where
  shared :=
    { Shared.initial with
      table :=
        { records := [⟨⟨7, 1⟩, default, false⟩]
          sessions := (OrderedMap.empty.emplace 1 0).1
          pendingSessionCreates := 0
          nextSessionId := 2 }
      registry :=
        { records := [⟨⟨7, 1⟩, ⟨7, 1⟩, default, default, .queued, Status.success, false, none⟩]
          jobs := (OrderedMap.empty.emplace 1 0).1
          queue := [0]
          nextId := 2
          stopping := false } }
  threads :=
    [.worker .idle, .worker .idle,
      .call (sampleRequest .sessionCreate) (.ended (.created ⟨7, 1⟩)),
      .call (sampleRequest .jobSubmit) (.ended (.submitted ⟨7, 1⟩))]

theorem reachable_sampleConfig : Reachable sampleSettings sampleConfig :=
  (Reachable.initial sampleSettings).run
    [.spawn (sampleRequest .sessionCreate), plainMove 2, plainMove 2,
      .move 2 (.compile (.value ())), plainMove 2,
      .spawn (sampleRequest .jobSubmit), plainMove 3, plainMove 3, plainMove 3] rfl

end PhotospiderDaemon.Orchestration
