import PhotospiderDaemon.Foundation.Interleaving
import PhotospiderDaemon.Orchestration.Basic

/-!
# Job records and the job registry

`JobRecord` and the data of `JobRegistry`, with what each critical section does to them.
Records are shared objects: a reference is a position in `records`, which keeps every record
that was ever published, also when the map has dropped it. The cancellation source is known
by what its token answers.

* `Publishes`: what any of the worker's publications can do to a record.
* `Follows`: what any step of the service can do to a record.
* `submit_cases`, `drain_spec`: what admission and the locked part of a close do.
* `Sound`: the invariant of the registry, kept by every operation.
-/

namespace PhotospiderDaemon.Orchestration

open Foundation Ipc

/-! ## Records -/

/-- `JobRecord`. -/
structure JobRecord where
  id : JobId
  sessionId : SessionId
  graph : WorkflowDocument
  options : JobSubmitOptions
  state : JobState
  outcome : Status
  cancelled : Bool
  result : Option ExecutionResult
deriving DecidableEq

/-- `terminal`. -/
def terminal (state : JobState) : Bool :=
  state = .succeeded || state = .failed || state = .cancelled

namespace JobRecord

/-- The fields that are written once, before the record is published. -/
def identity (record : JobRecord) : JobId × SessionId × WorkflowDocument × JobSubmitOptions :=
  (record.id, record.sessionId, record.graph, record.options)

/-- The fields that a critical section on the record can publish. -/
def published (record : JobRecord) : JobState × Status × Option ExecutionResult :=
  (record.state, record.outcome, record.result)

/-- `cancellation.cancel()`. -/
def cancel (record : JobRecord) : JobRecord := { record with cancelled := true }

/-- The decision under the record mutex in `cancel` and in `settle_close_records`. -/
def cancelUnlessTerminal (record : JobRecord) : JobRecord :=
  if terminal record.state then record else record.cancel

variable {record record' record'' : JobRecord}

/-- The cancellation was requested, and no other end was published. -/
def CancelWins (record : JobRecord) : Prop :=
  record.cancelled = true ∧ (terminal record.state = true → record.state = .cancelled)

/-- What any step of the service can do to a record: it only moves forward, and an accepted
cancellation wins. -/
structure Follows (record record' : JobRecord) : Prop where
  identity : record'.identity = record.identity
  cancelled : record.cancelled = true → record'.cancelled = true
  left : record.state ≠ .queued → record'.state ≠ .queued
  terminal : terminal record.state = true → terminal record'.state = true
  wins : record.CancelWins → record'.CancelWins

theorem Follows.refl (record : JobRecord) : Follows record record :=
  ⟨rfl, fun h => h, fun h => h, fun h => h, fun h => h⟩

theorem Follows.trans (h : Follows record record') (h' : Follows record' record'') :
    Follows record record'' where
  identity := h'.identity.trans h.identity
  cancelled := h'.cancelled ∘ h.cancelled
  left := h'.left ∘ h.left
  terminal := h'.terminal ∘ h.terminal
  wins := h'.wins ∘ h.wins

theorem Follows.id_eq (h : Follows record record') : record'.id = record.id :=
  congrArg Prod.fst h.identity

theorem Follows.sessionId_eq (h : Follows record record') : record'.sessionId = record.sessionId :=
  congrArg (fun identity => identity.2.1) h.identity

theorem ne_queued_of_terminal (h : terminal record.state = true) : record.state ≠ .queued := by
  intro hstate
  rw [hstate] at h
  cases h

theorem follows_begin (h : record.state = .queued) :
    Follows record { record with state := .running } where
  identity := rfl
  cancelled hcancelled := hcancelled
  left hleft := absurd h hleft
  terminal hterminal := absurd h (ne_queued_of_terminal hterminal)
  wins hwins := ⟨hwins.1, nofun⟩

theorem follows_cancel (record : JobRecord) : Follows record record.cancel :=
  ⟨rfl, fun _ => rfl, fun h => h, fun h => h, fun hwins => ⟨rfl, hwins.2⟩⟩

theorem follows_cancelUnlessTerminal (record : JobRecord) :
    Follows record record.cancelUnlessTerminal := by
  unfold cancelUnlessTerminal
  split
  · exact .refl record
  · exact follows_cancel record

theorem published_cancelUnlessTerminal (record : JobRecord) :
    record.cancelUnlessTerminal.published = record.published := by
  unfold cancelUnlessTerminal
  split <;> rfl

/-- A cancellation that is requested in time wins. -/
theorem cancelWins_cancel (h : terminal record.state = false) : record.cancel.CancelWins :=
  ⟨rfl, fun hterminal => absurd (h.symm.trans hterminal) (by decide)⟩

variable [Kernel]

/-- The last critical section of `execute`. The flag tells that a diagnostic could not be
allocated, which leaves the section by an exception. -/
def publish (record : JobRecord) (result : ExecutionResult) (fails : Fault → Bool) :
    JobRecord × Bool :=
  if record.cancelled then
    let record := { record with state := .cancelled }
    if fails .diagnostic then (record, true)
    else
      ({ record with
        outcome := Status.failure .cancelled
          (ascii "cancelled execution result publication was rejected")
        result := none }, false)
  else
    ({ record with result := some result, outcome := Status.success, state := .succeeded }, false)

/-- `finish_failure`. -/
def finishFailure (record : JobRecord) (status : Status) (fails : Fault → Bool) :
    JobRecord × Bool :=
  if record.cancelled then
    let record := { record with state := .cancelled }
    if fails .diagnostic then (record, true)
    else
      ({ record with
        outcome := Status.failure .cancelled (ascii "execution cancellation was requested")
        result := none }, false)
  else ({ record with state := .failed, outcome := status, result := none }, false)

/-- `finish_cancelled`. -/
def finishCancelled (record : JobRecord) (reason : Bytes) (fails : Fault → Bool) :
    JobRecord × Bool :=
  let record := { record with state := .cancelled }
  if fails .diagnostic then (record, true)
  else
    ({ record with
      outcome := Status.failure .cancelled
        (if reason.isEmpty then ascii "execution was cancelled" else reason)
      result := none }, false)

/-- The inner fallback of `finish_failure_safely`. -/
def fallback (record : JobRecord) (code : ErrorCode) : JobRecord :=
  { record with
    state := if record.cancelled then .cancelled else .failed
    outcome := ⟨if record.cancelled then .cancelled else code, []⟩
    result := none }

/-- The first critical section of `execute` on a record that is not queued. -/
def leaveUnexpectedly (record : JobRecord) (fails : Fault → Bool) : JobRecord × Bool :=
  let record := { record with state := .failed }
  if fails .diagnostic then (record, true)
  else
    ({ record with
      outcome := Status.failure .internal (ascii "execution left queued state unexpectedly") },
      false)

/-- The critical section of `settle_close_records` on a record taken from the queue. -/
def settle (record : JobRecord) : JobRecord :=
  let record := { record with result := none, state := .running, outcome := ⟨.cancelled, []⟩ }
  { record with state := .cancelled }

/-- `JobRegistry::status` on a record it has found. -/
def observe (record : JobRecord) (fails : Fault → Bool) : Except Failure JobStatus :=
  if fails .copy then .error (.raised .badAlloc)
  else .ok ⟨record.id, record.sessionId, record.state, record.outcome⟩

/-- `JobRegistry::result` on a record it has found. -/
def answer (record : JobRecord) (fails : Fault → Bool) : Except Failure ExecutionResult :=
  if fails .copy then .error (.raised .badAlloc)
  else
    match record.state, record.result with
    | .succeeded, some result => .ok result
    | .failed, _ | .cancelled, _ =>
      if record.outcome.ok then
        .error (.status (Status.failure .internal (ascii "terminal execution lacks failure")))
      else .error (.status record.outcome)
    | _, _ =>
      .error (.status (Status.failure .invalidArgument (ascii "execution result is not ready")))

/-- What a publication by the worker that holds a record can do to it, whether it ends
normally or by an exception. -/
structure Publishes (record record' : JobRecord) : Prop where
  identity : record'.identity = record.identity
  cancelled_eq : record'.cancelled = record.cancelled
  terminal : terminal record'.state = true
  cancelled : record.cancelled = true → record'.state = .cancelled
  result : record'.state ≠ .succeeded → record.result = none → record'.result = none

/-- A publication that can raise does so only after it has moved the record to `Cancelled`. -/
structure PublishesOrRaises (fails : Fault → Bool) (record : JobRecord)
    (publication : JobRecord × Bool) : Prop extends Publishes record publication.1 where
  raised : publication.2 = true →
    publication.1 = { record with state := .cancelled } ∧ fails .diagnostic = true

theorem publish_publishes (record : JobRecord) (result : ExecutionResult) (fails : Fault → Bool) :
    PublishesOrRaises fails record (record.publish result fails) := by
  unfold publish
  split
  · dsimp only
    split
    · rename_i hfails
      exact ⟨by constructor <;> simp [identity, terminal], fun _ => ⟨rfl, hfails⟩⟩
    · exact ⟨by constructor <;> simp [identity, terminal], by simp⟩
  · exact ⟨by constructor <;> simp_all [identity, terminal], by simp⟩

theorem finishFailure_publishes (record : JobRecord) (status : Status) (fails : Fault → Bool) :
    PublishesOrRaises fails record (record.finishFailure status fails) := by
  unfold finishFailure
  split
  · dsimp only
    split
    · rename_i hfails
      exact ⟨by constructor <;> simp [identity, terminal], fun _ => ⟨rfl, hfails⟩⟩
    · exact ⟨by constructor <;> simp [identity, terminal], by simp⟩
  · exact ⟨by constructor <;> simp_all [identity, terminal], by simp⟩

theorem finishCancelled_publishes (record : JobRecord) (reason : Bytes) (fails : Fault → Bool) :
    PublishesOrRaises fails record (record.finishCancelled reason fails) := by
  unfold finishCancelled
  dsimp only
  split
  · rename_i hfails
    exact ⟨by constructor <;> simp [identity, terminal], fun _ => ⟨rfl, hfails⟩⟩
  · exact ⟨by constructor <;> simp [identity, terminal], by simp⟩

theorem fallback_publishes (record : JobRecord) (code : ErrorCode) :
    Publishes record (record.fallback code) := by
  unfold fallback
  cases hcancelled : record.cancelled <;> constructor <;> simp [identity, terminal, hcancelled]

omit [Kernel] in
theorem Publishes.follows (h : Publishes record record') : Follows record record' where
  identity := h.identity
  cancelled := h.cancelled_eq.trans
  left _ := ne_queued_of_terminal h.terminal
  terminal _ := h.terminal
  wins hwins := ⟨h.cancelled_eq.trans hwins.1, fun _ => h.cancelled hwins.1⟩

theorem follows_settle (record : JobRecord) : Follows record record.settle :=
  ⟨rfl, fun h => h, nofun, fun _ => rfl, fun hwins => ⟨hwins.1, fun _ => rfl⟩⟩

theorem answer_eq_ok {fails : Fault → Bool} {value : ExecutionResult}
    (h : record.answer fails = .ok value) :
    record.state = .succeeded ∧ record.result = some value := by
  unfold answer at h
  split at h
  · cases h
  · split at h
    · rename_i hstate hresult
      exact ⟨hstate, hresult.trans (congrArg some (Except.ok.inj h))⟩
    · split at h <;> cases h
    · split at h <;> cases h
    · cases h

/-- The failures of `job.result` on a record that it has found. -/
theorem answer_eq_status {status : Status}
    (h : record.answer (fun _ => false) = .error (.status status)) :
    status = Status.failure .internal (ascii "terminal execution lacks failure") ∨
    status = Status.failure .invalidArgument (ascii "execution result is not ready") ∨
    Orchestration.terminal record.state = true ∧ record.outcome = status := by
  unfold answer at h
  rw [if_neg (by decide)] at h
  split at h
  · cases h
  · rename_i hstate
    split at h
    · cases h
      exact Or.inl rfl
    · cases h
      exact Or.inr (Or.inr ⟨by rw [hstate]; rfl, rfl⟩)
  · rename_i hstate
    split at h
    · cases h
      exact Or.inl rfl
    · cases h
      exact Or.inr (Or.inr ⟨by rw [hstate]; rfl, rfl⟩)
  · cases h
    exact Or.inr (Or.inl rfl)

end JobRecord

/-! ## The registry -/

/-- A shared record, by its position among all records. -/
abbrev JobRef := Nat

/-- The data of `JobRegistry` and the records it has published. -/
structure Registry where
  records : List JobRecord
  jobs : OrderedMap UInt64 JobRef
  queue : List JobRef
  nextId : UInt64
  stopping : Bool

namespace Registry

/-- The registry of a new service. -/
def initial : Registry := ⟨[], OrderedMap.empty, [], 1, false⟩

/-- `find`: a stale token, the value zero and a missing key have no record. -/
def find? (registry : Registry) (instanceId : UInt64) (id : JobId) : Option JobRef :=
  if id.instance' ≠ instanceId ∨ id.value = 0 then none else registry.jobs.find? id.value

/-- A critical section on a record has left it as `record`. -/
def write (registry : Registry) (r : JobRef) (record : JobRecord) : Registry :=
  { registry with records := registry.records.set r record }

/-- A record has a property. -/
def At (registry : Registry) (r : JobRef) (p : JobRecord → Prop) : Prop :=
  ∃ record, registry.records[r]? = some record ∧ p record

/-- The record that `submit` builds. -/
def newRecord [Kernel] (settings : Settings) (registry : Registry) (sessionId : SessionId)
    (graph : WorkflowDocument) (options : JobSubmitOptions) : JobRecord where
  id := ⟨settings.instanceId, registry.nextId⟩
  sessionId := sessionId
  graph := graph
  options := options
  state := .queued
  outcome := Status.success
  cancelled := false
  result := none

/-- The second half of `JobRegistry::submit`, after the identifier was taken. A failed
`push_back` takes the map entry out again. -/
def publishRecord [Kernel] (registry : Registry) (record : JobRecord) (fails : Fault → Bool) :
    Registry × Except Failure JobId :=
  if fails .insertion then (registry, .error (.raised .badAlloc))
  else
    match registry.jobs.emplace record.id.value registry.records.length with
    | (_, false) =>
      (registry, .error (rejection fails .internal "ephemeral execution id was duplicated"))
    | (jobs, true) =>
      if fails .queue then
        ({ registry with jobs := jobs.erase record.id.value }, .error (.raised .badAlloc))
      else
        ({ registry with
          records := registry.records ++ [record]
          jobs := jobs
          queue := registry.queue ++ [registry.records.length] }, .ok record.id)

/-- `JobRegistry::submit`. -/
def submit [Kernel] (settings : Settings) (registry : Registry) (sessionId : SessionId)
    (graph : WorkflowDocument) (options : JobSubmitOptions) (fails : Fault → Bool) :
    Registry × Except Failure JobId :=
  if registry.stopping then
    (registry, .error (rejection fails .cancelled "daemon orchestration is stopping"))
  else if registry.jobs.size ≥ settings.config.maximumJobs.toNat then
    (registry, .error
      (rejection fails .resourceExhausted "global retained execution bound is exhausted"))
  else if registry.nextId = 0 then
    (registry, .error (rejection fails .resourceExhausted "ephemeral execution id exhausted"))
  else if fails .record then (registry, .error (.raised .badAlloc))
  else
    publishRecord { registry with nextId := registry.nextId + 1 }
      (newRecord settings registry sessionId graph options) fails

/-- The record was submitted for the session. -/
def belongs (registry : Registry) (sessionId : SessionId) (r : JobRef) : Bool :=
  match registry.records[r]? with
  | some record => record.sessionId = sessionId
  | none => false

/-- Erase a record from the map if its key is bound to this very record. -/
def eraseRecord (registry : Registry) (jobs : OrderedMap UInt64 JobRef) (r : JobRef) :
    OrderedMap UInt64 JobRef :=
  match registry.records[r]? with
  | some record => if jobs.find? record.id.value = some r then jobs.erase record.id.value else jobs
  | none => jobs

/-- The locked part of `JobRegistry::close_session`: what is left of the registry, and the
records taken from the queue and from the map. -/
def drain (registry : Registry) (sessionId : SessionId) : Registry × List JobRef × List JobRef :=
  let queued := registry.queue.filter (registry.belongs sessionId)
  let queue := registry.queue.filter fun r => !registry.belongs sessionId r
  let jobs := queued.foldl registry.eraseRecord registry.jobs
  let running := (jobs.entries.filter fun entry => registry.belongs sessionId entry.2).map (·.2)
  let jobs := jobs.removeIf fun _ r => registry.belongs sessionId r
  ({ registry with queue := queue, jobs := jobs }, queued, running)

/-! ## Properties of records -/

variable {registry registry' : Registry} {r : JobRef} {record record' : JobRecord}

theorem At.imp {p q : JobRecord → Prop} (h : registry.At r p)
    (hpq : ∀ record, p record → q record) :
    registry.At r q := by
  obtain ⟨record, hr, hp⟩ := h
  exact ⟨record, hr, hpq record hp⟩

theorem At.of_some {p : JobRecord → Prop} (h : registry.At r p)
    (hr : registry.records[r]? = some record) :
    p record := by
  obtain ⟨record', hr', hp⟩ := h
  exact Option.some.inj (hr'.symm.trans hr) ▸ hp

theorem At.lt {r : Nat} {p : JobRecord → Prop} (h : registry.At r p) :
    r < registry.records.length := by
  obtain ⟨record, hr, -⟩ := h
  exact (List.getElem?_eq_some_iff.mp hr).1

theorem records_write_self (hr : registry.records[r]? = some record) :
    (registry.write r record').records[r]? = some record' := by
  obtain ⟨hlt, -⟩ := List.getElem?_eq_some_iff.mp hr
  simp [write, hlt]

theorem records_write_ne {r' : JobRef} (hne : r ≠ r') :
    (registry.write r record').records[r']? = registry.records[r']? := by
  simp [write, hne]

theorem write_self (hr : registry.records[r]? = some record) :
    registry.write r record = registry := by
  obtain ⟨hlt, rfl⟩ := List.getElem?_eq_some_iff.mp hr
  unfold write
  rw [List.set_getElem_self]

theorem belongs_iff {sessionId : SessionId} :
    registry.belongs sessionId r = true ↔
      registry.At r fun record => record.sessionId = sessionId := by
  unfold belongs At
  cases registry.records[r]? <;> simp

/-! ## What one thread can do to the registry -/

/-- A thread that owns some records may publish in these. Of other records it can only
request the cancellation. New in the map and in the queue can only be the one new record. -/
structure Evolves (owned : List JobRef) (registry registry' : Registry) : Prop where
  record : ∀ {r : JobRef} {record : JobRecord}, registry.records[r]? = some record →
    registry'.At r fun record' => record.Follows record' ∧
      (r ∉ owned → record'.published = record.published)
  jobs : ∀ {key : UInt64} {r : JobRef}, registry'.jobs.find? key = some r →
    registry.jobs.find? key = some r ∨ r = registry.records.length
  queue : ∀ {r : JobRef}, r ∈ registry'.queue → r ∈ registry.queue ∨ r = registry.records.length
  length : registry'.records.length ≤ registry.records.length + 1

theorem Evolves.of_records_eq {owned : List JobRef}
    (hrecords : registry'.records = registry.records)
    (hjobs : ∀ {key r}, registry'.jobs.find? key = some r → registry.jobs.find? key = some r)
    (hqueue : ∀ {r}, r ∈ registry'.queue → r ∈ registry.queue) :
    Evolves owned registry registry' where
  record hr := ⟨_, hrecords ▸ hr, .refl _, fun _ => rfl⟩
  jobs h := Or.inl (hjobs h)
  queue h := Or.inl (hqueue h)
  length := by simp [hrecords]

theorem Evolves.refl (owned : List JobRef) (registry : Registry) :
    Evolves owned registry registry :=
  Evolves.of_records_eq rfl id id

theorem Evolves.write {owned : List JobRef} (hr : registry.records[r]? = some record)
    (hfollows : record.Follows record')
    (hpublished : r ∉ owned → record'.published = record.published) :
    Evolves owned registry (registry.write r record') where
  record := by
    intro r' other hother
    by_cases hne : r = r'
    · subst hne
      obtain rfl := Option.some.inj (hr.symm.trans hother)
      exact ⟨record', records_write_self hr, hfollows, hpublished⟩
    · exact ⟨other, (records_write_ne hne).trans hother, .refl _, fun _ => rfl⟩
  jobs h := Or.inl h
  queue h := Or.inl h
  length := by simp [Registry.write]

/-! ## Admission -/

/-- The registry after a record has been published. -/
def enroll (registry : Registry) (record : JobRecord) : Registry :=
  { registry with
    records := registry.records ++ [record]
    jobs := (registry.jobs.emplace record.id.value registry.records.length).1
    queue := registry.queue ++ [registry.records.length] }

theorem records_enroll (registry : Registry) {r : JobRef} {record new : JobRecord}
    (hr : registry.records[r]? = some record) :
    (registry.enroll new).records[r]? = some record :=
  (List.getElem?_append_left (List.getElem?_eq_some_iff.mp hr).1).trans hr

theorem Evolves.enroll (owned : List JobRef) (hfind : registry.jobs.find? record.id.value = none) :
    Evolves owned registry (registry.enroll record) where
  record hr := ⟨_, records_enroll registry hr, .refl _, fun _ => rfl⟩
  jobs := by
    intro key r hkey
    change (registry.jobs.emplace _ _).1.find? key = some r at hkey
    rw [OrderedMap.find?_emplace _ hfind] at hkey
    split at hkey
    · exact Or.inr (Option.some.inj hkey).symm
    · exact Or.inl hkey
  queue h := (List.mem_append.mp h).imp_right List.mem_singleton.mp
  length := by simp [Registry.enroll]

theorem publishRecord_cases [Kernel] (registry : Registry) (record : JobRecord)
    (fails : Fault → Bool) :
    (∃ failure, registry.publishRecord record fails = (registry, .error failure) ∧
      ((∃ e, failure = .raised e) ∨ registry.jobs.find? record.id.value ≠ none)) ∨
    registry.publishRecord record fails = (registry.enroll record, .ok record.id) ∧
      registry.jobs.find? record.id.value = none := by
  unfold publishRecord
  split
  · exact Or.inl ⟨_, rfl, Or.inl ⟨_, rfl⟩⟩
  cases hfind : registry.jobs.find? record.id.value with
  | some other =>
    rw [OrderedMap.emplace_of_find?_some hfind]
    exact Or.inl ⟨_, rfl, Or.inr (by simp)⟩
  | none =>
    have henroll : registry.enroll record = { registry with
        records := registry.records ++ [record]
        jobs := (registry.jobs.emplace record.id.value registry.records.length).1
        queue := registry.queue ++ [registry.records.length] } := rfl
    have hrollback := OrderedMap.erase_emplace registry.records.length hfind
    rw [OrderedMap.emplace_of_find?_none _ hfind] at henroll hrollback ⊢
    dsimp only at hrollback ⊢
    split
    · exact Or.inl ⟨_, by rw [hrollback], Or.inl ⟨_, rfl⟩⟩
    · exact Or.inr ⟨by rw [henroll], rfl⟩

/-- A failed submit leaves the registry alone, except that the identifier may be used up; a
successful one publishes the record in the map and in the queue. -/
theorem submit_cases [Kernel] (settings : Settings) (registry : Registry) (sessionId : SessionId)
    (graph : WorkflowDocument) (options : JobSubmitOptions) (fails : Fault → Bool) :
    (∃ failure, registry.submit settings sessionId graph options fails =
      (registry, .error failure)) ∨
    (∃ failure, registry.submit settings sessionId graph options fails =
        ({ registry with nextId := registry.nextId + 1 }, .error failure) ∧
      registry.nextId ≠ 0 ∧
      ((∃ e, failure = .raised e) ∨ registry.jobs.find? registry.nextId ≠ none)) ∨
    registry.submit settings sessionId graph options fails =
        ({ registry with nextId := registry.nextId + 1 }.enroll
            (newRecord settings registry sessionId graph options),
          .ok ⟨settings.instanceId, registry.nextId⟩) ∧
      registry.nextId ≠ 0 ∧ registry.jobs.find? registry.nextId = none ∧
      registry.jobs.size < settings.config.maximumJobs.toNat := by
  unfold submit
  split
  · exact Or.inl ⟨_, rfl⟩
  split
  · exact Or.inl ⟨_, rfl⟩
  rename_i hsize
  split
  · exact Or.inl ⟨_, rfl⟩
  rename_i hnext
  split
  · exact Or.inl ⟨_, rfl⟩
  rcases publishRecord_cases { registry with nextId := registry.nextId + 1 }
      (newRecord settings registry sessionId graph options) fails with
    ⟨failure, heq, hwhy⟩ | ⟨heq, hfind⟩
  · exact Or.inr (Or.inl ⟨failure, heq, hnext, hwhy⟩)
  · exact Or.inr (Or.inr ⟨heq, hnext, hfind, Nat.lt_of_not_ge hsize⟩)

theorem Evolves.submit [Kernel] (settings : Settings) (registry : Registry) (owned : List JobRef)
    (sessionId : SessionId) (graph : WorkflowDocument) (options : JobSubmitOptions)
    (fails : Fault → Bool) :
    Evolves owned registry (registry.submit settings sessionId graph options fails).1 := by
  rcases submit_cases settings registry sessionId graph options fails with
    ⟨failure, heq⟩ | ⟨failure, heq, -⟩ | ⟨heq, -, hfind, -⟩ <;> rw [heq]
  · exact .refl owned registry
  · exact .of_records_eq rfl (fun h => h) (fun h => h)
  · have hfresh : { registry with nextId := registry.nextId + 1 }.jobs.find?
        (newRecord settings registry sessionId graph options).id.value = none := hfind
    have henroll := Evolves.enroll owned hfresh
    exact ⟨henroll.record, henroll.jobs, henroll.queue, henroll.length⟩

/-! ## The locked part of a close -/

/-- Every key of the map is the identifier of its record. -/
def Keyed (registry : Registry) (jobs : OrderedMap UInt64 JobRef) : Prop :=
  ∀ {key : UInt64} {r : JobRef}, jobs.find? key = some r →
    registry.At r fun record => record.id.value = key

theorem find?_eraseRecord {jobs : OrderedMap UInt64 JobRef} (hkeyed : registry.Keyed jobs)
    (q : JobRef) {key : UInt64} :
    (registry.eraseRecord jobs q).find? key = some r ↔ jobs.find? key = some r ∧ r ≠ q := by
  unfold eraseRecord
  cases hq : registry.records[q]? with
  | none =>
    refine ⟨fun h => ⟨h, ?_⟩, And.left⟩
    rintro rfl
    obtain ⟨record, hr, -⟩ := hkeyed h
    exact absurd (hq.symm.trans hr) (by simp)
  | some record =>
    have hself : jobs.find? key = some q → record.id.value = key := fun h => (hkeyed h).of_some hq
    dsimp only
    split
    · rename_i hbound
      rw [OrderedMap.find?_erase]
      split
      · rename_i hkey
        subst hkey
        simp only [hbound, reduceCtorEq, Option.some.injEq, false_iff, not_and, not_not]
        exact Eq.symm
      · rename_i hkey
        refine ⟨fun h => ⟨h, ?_⟩, And.left⟩
        rintro rfl
        exact hkey (hself h).symm
    · rename_i hbound
      refine ⟨fun h => ⟨h, ?_⟩, And.left⟩
      rintro rfl
      exact hbound (hself h ▸ h)

theorem find?_foldl_eraseRecord (queued : List JobRef) {jobs : OrderedMap UInt64 JobRef}
    (hkeyed : registry.Keyed jobs) {key : UInt64} :
    (queued.foldl registry.eraseRecord jobs).find? key = some r ↔
      jobs.find? key = some r ∧ r ∉ queued := by
  induction queued generalizing jobs with
  | nil => simp
  | cons q queued ih =>
    have hkeyed' : registry.Keyed (registry.eraseRecord jobs q) :=
      fun h => hkeyed ((find?_eraseRecord hkeyed q).mp h).1
    rw [List.foldl_cons, ih hkeyed', find?_eraseRecord hkeyed, List.mem_cons, not_or, and_assoc]

/-- What `drain` leaves and what it hands over. -/
structure Drained (registry : Registry) (sessionId : SessionId) (left : Registry)
    (queued running : List JobRef) : Prop where
  records : left.records = registry.records
  nextId : left.nextId = registry.nextId
  queue : left.queue = registry.queue.filter fun r => !registry.belongs sessionId r
  jobs : ∀ {key : UInt64} {r : JobRef}, left.jobs.find? key = some r ↔
    registry.jobs.find? key = some r ∧ registry.belongs sessionId r = false
  size : left.jobs.size ≤ registry.jobs.size
  queued_eq : queued = registry.queue.filter (registry.belongs sessionId)
  running_iff : ∀ {r : JobRef}, r ∈ running ↔
    (∃ key, registry.jobs.find? key = some r) ∧ registry.belongs sessionId r = true ∧ r ∉ queued

theorem size_eraseRecord_le (registry : Registry) (jobs : OrderedMap UInt64 JobRef) (q : JobRef) :
    (registry.eraseRecord jobs q).size ≤ jobs.size := by
  unfold eraseRecord
  split
  · split
    · exact OrderedMap.size_removeIf_le _ _
    · exact Nat.le_refl _
  · exact Nat.le_refl _

theorem size_foldl_eraseRecord_le (registry : Registry) (queued : List JobRef)
    (jobs : OrderedMap UInt64 JobRef) :
    (queued.foldl registry.eraseRecord jobs).size ≤ jobs.size := by
  induction queued generalizing jobs with
  | nil => exact Nat.le_refl _
  | cons q queued ih => exact (ih _).trans (size_eraseRecord_le registry jobs q)

theorem drain_spec (hkeyed : registry.Keyed registry.jobs) (sessionId : SessionId) :
    registry.Drained sessionId (registry.drain sessionId).1 (registry.drain sessionId).2.1
      (registry.drain sessionId).2.2 where
  records := rfl
  nextId := rfl
  queue := rfl
  jobs := by
    intro key r
    simp only [drain, OrderedMap.find?_removeIf, find?_foldl_eraseRecord _ hkeyed]
    refine ⟨fun h => ⟨h.1.1, h.2⟩, fun h => ⟨⟨h.1, ?_⟩, h.2⟩⟩
    intro hqueued
    rw [(List.mem_filter.mp hqueued).2] at h
    exact absurd h.2 (by decide)
  size := (OrderedMap.size_removeIf_le _ _).trans (size_foldl_eraseRecord_le registry _ _)
  queued_eq := rfl
  running_iff := by
    intro r
    simp only [drain, List.mem_map, List.mem_filter, Prod.exists, exists_eq_right,
      OrderedMap.mem_entries_iff_find?, find?_foldl_eraseRecord _ hkeyed]
    constructor
    · rintro ⟨key, ⟨hfind, hqueued⟩, hbelongs⟩
      exact ⟨⟨key, hfind⟩, hbelongs, hqueued⟩
    · rintro ⟨⟨key, hfind⟩, hbelongs, hqueued⟩
      exact ⟨key, ⟨hfind, hqueued⟩, hbelongs⟩

/-! ## The invariant of the registry -/

/-- Identifiers grow with the records; the map binds identifiers to their records; the queue
holds queued records of the map in the order of admission; only a success has a result. -/
structure Sound (settings : Settings) (registry : Registry) : Prop where
  ascending : ∀ {r r' : Nat} {record record' : JobRecord}, registry.records[r]? = some record →
    registry.records[r']? = some record' → r < r' → record.id.value < record'.id.value
  issued : ∀ {r : JobRef} {record : JobRecord}, registry.records[r]? = some record →
    record.id.instance' = settings.instanceId ∧ record.id.value ≠ 0 ∧
      (registry.nextId ≠ 0 → record.id.value < registry.nextId)
  keyed : registry.Keyed registry.jobs
  queued : ∀ r ∈ registry.queue, registry.At r fun record =>
    record.state = .queued ∧ registry.jobs.find? record.id.value = some r
  queue_ascending : registry.queue.Pairwise fun (r r' : Nat) => r < r'
  size_le : registry.jobs.size ≤ settings.config.maximumJobs.toNat
  result_none : ∀ {r : JobRef} {record : JobRecord}, registry.records[r]? = some record →
    record.state ≠ .succeeded → record.result = none

namespace Sound

variable {settings : Settings}

theorem initial (settings : Settings) : Sound settings Registry.initial where
  ascending hr := by simp [Registry.initial] at hr
  issued hr := by simp [Registry.initial] at hr
  keyed hr := by simp [Registry.initial] at hr
  queued r hr := by simp [Registry.initial] at hr
  queue_ascending := List.Pairwise.nil
  size_le := Nat.zero_le _
  result_none hr := by simp [Registry.initial] at hr

theorem ref_eq (h : Sound settings registry) {r' : JobRef} (hr : registry.records[r]? = some record)
    (hr' : registry.records[r']? = some record') (hid : record.id.value = record'.id.value) :
    r = r' := by
  rcases Nat.lt_trichotomy r r' with hlt | heq | hgt
  · exact absurd hid (ne_of_lt (h.ascending hr hr' hlt))
  · exact heq
  · exact absurd hid.symm (ne_of_lt (h.ascending hr' hr hgt))

/-- The next identifier is not in the map. -/
theorem find?_nextId (h : Sound settings registry) (hnext : registry.nextId ≠ 0) :
    registry.jobs.find? registry.nextId = none := by
  cases hfind : registry.jobs.find? registry.nextId with
  | none => rfl
  | some r =>
    obtain ⟨record, hr, hkey⟩ := h.keyed hfind
    have hlt := (h.issued hr).2.2 hnext
    rw [hkey] at hlt
    exact absurd hlt (lt_irrefl _)

/-- A record found in the map has the identifier that was asked for. -/
theorem find?_at (h : Sound settings registry) {id : JobId}
    (hfind : registry.find? settings.instanceId id = some r) :
    registry.jobs.find? id.value = some r ∧ registry.At r fun record => record.id = id := by
  unfold find? at hfind
  split at hfind
  · cases hfind
  · rename_i hid
    rw [not_or, not_not] at hid
    refine ⟨hfind, ?_⟩
    obtain ⟨record, hr, hkey⟩ := h.keyed hfind
    have hinstance := (h.issued hr).1
    exact ⟨record, hr, JobId.ext (hinstance.trans hid.1.symm) hkey⟩

theorem write (h : Sound settings registry) (hr : registry.records[r]? = some record)
    (hidentity : record'.identity = record.identity)
    (hqueue : r ∈ registry.queue → record'.state = .queued)
    (hresult : record'.state ≠ .succeeded → record'.result = none) :
    Sound settings (registry.write r record') := by
  have hid : record'.id = record.id := congrArg Prod.fst hidentity
  -- Every record of the new registry stands for one of the old with the same identifier.
  have hback : ∀ {r' : JobRef} {other : JobRecord},
      (registry.write r record').records[r']? = some other →
      registry.At r' fun old => other.id = old.id := by
    intro r' other hother
    rcases getElem?_set_some hother with ⟨rfl, rfl⟩ | ⟨-, hother⟩
    · exact ⟨record, hr, hid⟩
    · exact ⟨other, hother, rfl⟩
  have hforth : ∀ {r' : JobRef} {p : JobRecord → Prop}, (∀ a b, a.id = b.id → p a → p b) →
      registry.At r' p → (registry.write r record').At r' p := by
    rintro r' p hp ⟨old, hold, hpold⟩
    by_cases hne : r = r'
    · subst hne
      obtain rfl := Option.some.inj (hr.symm.trans hold)
      exact ⟨record', records_write_self hr, hp _ _ hid.symm hpold⟩
    · exact ⟨old, (records_write_ne hne).trans hold, hpold⟩
  refine ⟨?_, ?_, ?_, ?_, h.queue_ascending, h.size_le, ?_⟩
  · intro r₁ r₂ record₁ record₂ h₁ h₂ hlt
    obtain ⟨old₁, hold₁, hid₁⟩ := hback h₁
    obtain ⟨old₂, hold₂, hid₂⟩ := hback h₂
    rw [hid₁, hid₂]
    exact h.ascending hold₁ hold₂ hlt
  · intro r₁ record₁ h₁
    obtain ⟨old₁, hold₁, hid₁⟩ := hback h₁
    rw [hid₁]
    exact h.issued hold₁
  · intro key r₁ hfind
    exact hforth (fun a b hab ha => hab ▸ ha) (h.keyed hfind)
  · intro r₁ hr₁
    obtain ⟨old, hold, hstate, hfind⟩ := h.queued r₁ hr₁
    by_cases hne : r = r₁
    · subst hne
      obtain rfl := Option.some.inj (hr.symm.trans hold)
      exact ⟨record', records_write_self hr, hqueue hr₁, by rw [hid]; exact hfind⟩
    · exact ⟨old, (records_write_ne hne).trans hold, hstate, hfind⟩
  · intro r₁ record₁ h₁
    rcases getElem?_set_some h₁ with ⟨rfl, rfl⟩ | ⟨-, h₁⟩
    · exact hresult
    · exact h.result_none h₁

/-- A critical section that publishes nothing. -/
theorem write_of_published_eq (h : Sound settings registry)
    (hr : registry.records[r]? = some record)
    (hfollows : record.Follows record') (hpublished : record'.published = record.published) :
    Sound settings (registry.write r record') := by
  have hstate : record'.state = record.state := congrArg Prod.fst hpublished
  have hresult : record'.result = record.result :=
    congrArg (fun published => published.2.2) hpublished
  refine h.write hr hfollows.identity ?_ ?_
  · intro hqueue
    exact hstate.trans ((h.queued r hqueue).of_some hr).1
  · rw [hstate, hresult]
    exact h.result_none hr

theorem pop (h : Sound settings registry) {queue : List JobRef}
    (hqueue : registry.queue = r :: queue) :
    Sound settings { registry with queue := queue } := by
  refine ⟨h.ascending, h.issued, h.keyed, ?_, ?_, h.size_le, h.result_none⟩
  · intro r' hr'
    exact h.queued r' (hqueue ▸ List.mem_cons_of_mem _ hr')
  · have hascending := h.queue_ascending
    rw [hqueue] at hascending
    exact (List.pairwise_cons.mp hascending).2

/-- The successor of an identifier is above it, or zero. -/
theorem lt_succ_of_ne_zero {n m : UInt64} (hm : m + 1 ≠ 0) (h : n ≤ m) : n < m + 1 := by
  rw [UInt64.lt_iff_toNat_lt]
  rw [UInt64.le_iff_toNat_le] at h
  have hne : (m + 1).toNat ≠ 0 := fun hzero => hm (UInt64.toNat_inj.mp hzero)
  rw [UInt64.toNat_add, UInt64.toNat_one] at hne ⊢
  have hlt := m.toNat_lt
  omega

theorem advance (h : Sound settings registry) (hnext : registry.nextId ≠ 0) :
    Sound settings { registry with nextId := registry.nextId + 1 } := by
  refine ⟨h.ascending, ?_, h.keyed, h.queued, h.queue_ascending, h.size_le, h.result_none⟩
  intro r record hr
  obtain ⟨hinstance, hne, hlt⟩ := h.issued hr
  exact ⟨hinstance, hne, fun hsucc => lt_succ_of_ne_zero hsucc (le_of_lt (hlt hnext))⟩

theorem enroll (h : Sound settings registry)
    (hbelow : ∀ {r : JobRef} {old : JobRecord}, registry.records[r]? = some old →
      old.id.value < record.id.value)
    (hissued : record.id.instance' = settings.instanceId ∧ record.id.value ≠ 0 ∧
      (registry.nextId ≠ 0 → record.id.value < registry.nextId))
    (hstate : record.state = .queued) (hresult : record.result = none)
    (hfind : registry.jobs.find? record.id.value = none)
    (hsize : registry.jobs.size < settings.config.maximumJobs.toNat) :
    Sound settings (registry.enroll record) := by
  have hnew : (registry.enroll record).records[registry.records.length]? = some record :=
    List.getElem?_concat_length
  have hlookup := OrderedMap.find?_emplace registry.records.length hfind
  have hmem : ∀ r' ∈ registry.queue, r' < registry.records.length :=
    fun r' hr' => (h.queued r' hr').lt
  refine ⟨?_, ?_, ?_, ?_, ?_, ?_, ?_⟩
  · intro r₁ r₂ record₁ record₂ h₁ h₂ hlt
    rcases getElem?_snoc h₁ with hold₁ | ⟨hr₁, -⟩ <;>
      rcases getElem?_snoc h₂ with hold₂ | ⟨hr₂, rfl⟩
    · exact h.ascending hold₁ hold₂ hlt
    · exact hbelow hold₁
    · have hlength := (List.getElem?_eq_some_iff.mp hold₂).1
      omega
    · omega
  · intro r₁ record₁ h₁
    rcases getElem?_snoc h₁ with h₁ | ⟨rfl, rfl⟩
    · exact h.issued h₁
    · exact hissued
  · intro key r₁ hkey
    change (registry.jobs.emplace _ _).1.find? key = some r₁ at hkey
    rw [hlookup] at hkey
    split at hkey
    · rename_i heq
      cases hkey
      exact ⟨record, hnew, heq.symm⟩
    · obtain ⟨old, hr, hid⟩ := h.keyed hkey
      exact ⟨old, records_enroll registry hr, hid⟩
  · intro r₁ hr₁
    rcases List.mem_append.mp hr₁ with hr₁ | hr₁
    · obtain ⟨old, hr, hqueued, hjobs⟩ := h.queued r₁ hr₁
      have hne : old.id.value ≠ record.id.value := ne_of_lt (hbelow hr)
      exact ⟨old, records_enroll registry hr, hqueued,
        by rw [Registry.enroll, hlookup, if_neg hne, hjobs]⟩
    · obtain rfl := List.mem_singleton.mp hr₁
      exact ⟨record, hnew, hstate, by rw [Registry.enroll, hlookup, if_pos rfl]⟩
  · refine List.pairwise_append.mpr ⟨h.queue_ascending, List.pairwise_singleton _ _, ?_⟩
    intro r₁ hr₁ r₂ hr₂
    obtain rfl := List.mem_singleton.mp hr₂
    exact hmem r₁ hr₁
  · change (registry.jobs.emplace _ _).1.size ≤ _
    rw [OrderedMap.size_emplace _ hfind]
    exact hsize
  · intro r₁ record₁ h₁
    rcases getElem?_snoc h₁ with h₁ | ⟨rfl, rfl⟩
    · exact h.result_none h₁
    · exact fun _ => hresult

theorem submit [Kernel] (h : Sound settings registry) (sessionId : SessionId)
    (graph : WorkflowDocument) (options : JobSubmitOptions) (fails : Fault → Bool) :
    Sound settings (registry.submit settings sessionId graph options fails).1 := by
  rcases submit_cases settings registry sessionId graph options fails with
    ⟨failure, heq⟩ | ⟨failure, heq, hnext, -⟩ | ⟨heq, hnext, hfind, hsize⟩
  · rwa [heq]
  · rw [heq]
    exact h.advance hnext
  · rw [heq]
    refine (h.advance hnext).enroll ?_ ⟨rfl, hnext, ?_⟩ rfl rfl hfind hsize
    · intro r old hr
      exact (h.issued hr).2.2 hnext
    · intro hsucc
      exact lt_succ_of_ne_zero hsucc (le_refl _)

theorem drain (h : Sound settings registry) {sessionId : SessionId} {left : Registry}
    {queued running : List JobRef} (hdrained : registry.Drained sessionId left queued running) :
    Sound settings left := by
  refine ⟨?_, ?_, ?_, ?_, ?_, hdrained.size.trans h.size_le, ?_⟩
  · rw [hdrained.records]
    exact h.ascending
  · rw [hdrained.records, hdrained.nextId]
    exact h.issued
  · intro key r hkey
    obtain ⟨record, hr, hid⟩ := h.keyed (hdrained.jobs.mp hkey).1
    exact ⟨record, hdrained.records ▸ hr, hid⟩
  · intro r hr
    rw [hdrained.queue, List.mem_filter] at hr
    obtain ⟨record, hrecord, hstate, hjobs⟩ := h.queued r hr.1
    exact ⟨record, hdrained.records ▸ hrecord, hstate,
      hdrained.jobs.mpr ⟨hjobs, by simpa using hr.2⟩⟩
  · rw [hdrained.queue]
    exact h.queue_ascending.filter _
  · rw [hdrained.records]
    exact h.result_none

/-- Erasing a terminal record. -/
theorem erase (h : Sound settings registry) {key : UInt64}
    (hfind : registry.jobs.find? key = some r)
    (hterminal : registry.At r fun record => terminal record.state = true) :
    Sound settings { registry with jobs := registry.jobs.erase key } := by
  refine ⟨h.ascending, h.issued, ?_, ?_, h.queue_ascending,
    (OrderedMap.size_removeIf_le _ _).trans h.size_le, h.result_none⟩
  · intro key' r' hkey
    change (registry.jobs.erase key).find? key' = some r' at hkey
    rw [OrderedMap.find?_erase] at hkey
    split at hkey
    · cases hkey
    · exact h.keyed hkey
  · intro r' hr'
    obtain ⟨record, hrecord, hstate, hjobs⟩ := h.queued r' hr'
    refine ⟨record, hrecord, hstate, ?_⟩
    have hne : record.id.value ≠ key := by
      rintro rfl
      obtain rfl := Option.some.inj (hfind.symm.trans hjobs)
      have hnot := hterminal.of_some hrecord
      rw [hstate] at hnot
      exact absurd hnot (by decide)
    change (registry.jobs.erase key).find? _ = some r'
    rw [OrderedMap.find?_erase, if_neg hne, hjobs]

end Sound

end Registry

end PhotospiderDaemon.Orchestration
