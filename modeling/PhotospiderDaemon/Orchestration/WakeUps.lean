import PhotospiderDaemon.Foundation.ConditionVariables
import PhotospiderDaemon.Orchestration.Accounting
import PhotospiderDaemon.Orchestration.Ownership

/-!
# Wake-ups

The service with its condition variables. A worker that finds the queue empty sleeps at
`ready_`, and `submit` notifies one worker for each record that it pushes. A close that finds a
record not ended sleeps at the `terminal_changed` of that record, and whoever ends the record
notifies all. So a notification could come too early, go to a worker that had other work, or be
left out when an exception leaves a critical section between the state change and the
notification.

* `idle_workers_cover_queue`: while a worker sleeps, there are as many idle workers awake as
  records in the queue.
* `sleeping_close_is_notified`: a close sleeps beside an ended record only while a worker is in
  the exception fence of that record, and every way out of the fence notifies.
-/

namespace PhotospiderDaemon.Orchestration

open Foundation Ipc

/-- The condition variables of the registry and of its records. -/
inductive Condition where
  | ready
  | terminalChanged (r : JobRef)
deriving DecidableEq

/-- The record has ended. -/
def Registry.endedAt (registry : Registry) (r : JobRef) : Bool :=
  match registry.records[r]? with
  | some record => terminal record.state
  | none => false

/-- The record in which a worker that goes back to its loop has published. -/
def Phase.announces : Phase → Notice Condition
  | free => .silent
  | popped r => .all (.terminalChanged r)
  | running r => .all (.terminalChanged r)
  | fenced r => .all (.terminalChanged r)

/-- The waits of `worker_loop` and `settle_close_records`, and the notifications of `submit`,
`settle_close_records` and of every publication that does not raise. -/
def monitor : Monitor Shared Thread Condition where
  waits
    | .worker .idle => some .ready
    | .call _ (.close (.waiting _ (r :: _))) => some (.terminalChanged r)
    | _ => none
  lockable shared
    | .worker .idle => !shared.terminated && shared.registryMutex.isNone
    | _ => !shared.terminated
  holds shared
    | .worker .idle => shared.registry.stopping || !shared.registry.queue.isEmpty
    | .call _ (.close (.waiting _ (r :: _))) => shared.registry.endedAt r
    | _ => true
  notifies
    | .call _ (.submit (.admitted _)), .call _ (.ended (.submitted _)) => .one .ready
    | .worker stage, .worker .idle => stage.phase.announces
    | .call _ (.close (.cancelling _ r _ _)), _ => .all (.terminalChanged r)
    | _, _ => .silent

variable [Kernel] {settings : Settings}

/-- The service carried out with its condition variables. -/
def monitoredService (settings : Settings) :
    Program (Waiting Shared Condition) Thread (Wake Choice) Request :=
  (service settings).monitored monitor

/-- The configurations that an interleaving of calls and workers can reach, with whatever sleep
and wake-ups there are. -/
def MonitoredReachable (settings : Settings) (c : Config (Waiting Shared Condition) Thread) :
    Prop :=
  (monitoredService settings).Leads (Wake.Allowed fun _ => True)
    ⟨⟨Shared.initial, []⟩, (initial settings).threads⟩ c

variable {c : Config (Waiting Shared Condition) Thread}

theorem MonitoredReachable.run {c' : Config (Waiting Shared Condition) Thread}
    (h : MonitoredReachable settings c) (acts : List (Act (Wake Choice) Request))
    (hrun : (monitoredService settings).run c acts = some c') : MonitoredReachable settings c' := by
  refine Program.Leads.trans h ⟨acts, fun act _ => ?_, hrun⟩
  cases act with
  | spawn request => trivial
  | move i choice => cases choice <;> trivial

theorem MonitoredReachable.guarded (h : MonitoredReachable settings c) :
    Reachable settings c.guarded :=
  Program.Leads.guarded h

theorem MonitoredReachable.queued (h : MonitoredReachable settings c) : Queued monitor c :=
  Program.Leads.queued h (Queued.of_no_waiters rfl)

/-! ## Workers -/

/-- The records for which `ready_` has been notified and which nobody has taken. -/
def backlog (shared : Shared) : Nat :=
  if shared.registry.stopping then 0 else shared.registry.queue.length

/-- What an idle worker does when it does not sleep. -/
theorem idle_step {shared shared' : Shared} {choice : Choice} {stage' : WorkerStage}
    (h : workerStep settings shared .idle choice = some (shared', stage')) :
    shared.registry.stopping = true ∧ shared' = shared ∧ stage' = .exited ∨
    shared.registry.stopping = false ∧ ∃ r queue, shared.registry.queue = r :: queue ∧
      shared' = { shared with registry := { shared.registry with queue := queue } } ∧
      stage' = .popped r := by
  cases choice with
  | go fails =>
    obtain ⟨-, h⟩ := locking_eq_some h
    split at h
    · rename_i hstopping
      cases h
      exact Or.inl ⟨hstopping, rfl, rfl⟩
    · rename_i hstopping
      split at h
      · cases h
      · rename_i r queue hqueue
        cases h
        exact Or.inr ⟨by simpa using hstopping, r, queue, hqueue, rfl, rfl⟩
  | _ => cases h

omit [Kernel] in
theorem waits_ready_iff {l : Thread} : monitor.waits l = some .ready ↔ l = .worker .idle := by
  constructor
  · intro h
    unfold monitor at h
    dsimp only at h
    split at h <;> cases h
    rfl
  · rintro rfl
    rfl

section Step

/-- A publication leads back to the queue or into the exception fence. -/
theorem WorkerStage.Publication.next {fails : Fault → Bool} {record record' : JobRecord}
    {stage stage' : WorkerStage} (h : stage.Publication fails record record' stage') :
    stage' = .idle ∨ ∃ r, stage.phase.owned = [r] ∧ stage'.phase = .fenced r := by
  cases h with
  | fallback => exact Or.inl rfl
  | _ =>
    split
    · exact Or.inr ⟨_, rfl, rfl⟩
    · exact Or.inl rfl

variable {c : Config Shared Thread} {i : Nat} {l l' : Thread} {choice : Choice} {shared' : Shared}

/-- An idle worker, as a step of the service. -/
theorem idle_moves (hmoves : (service settings).Moves c i (.worker .idle) choice shared' l') :
    c.shared.registry.stopping = true ∧ shared' = c.shared ∧ l' = .worker .exited ∨
    c.shared.registry.stopping = false ∧ ∃ r queue, c.shared.registry.queue = r :: queue ∧
      shared' = { c.shared with registry := { c.shared.registry with queue := queue } } ∧
      l' = .worker (.popped r) := by
  have hstep : threadStep settings i c.shared (.worker .idle) choice = some (shared', l') :=
    hmoves.step
  unfold threadStep at hstep
  split at hstep
  · cases hstep
  · obtain ⟨⟨_, stage'⟩, hworker, heq⟩ := Option.map_eq_some_iff.mp hstep
    cases heq
    rcases idle_step hworker with ⟨hstopping, rfl, rfl⟩ | ⟨hstopping, r, queue, hqueue, rfl, rfl⟩
    · exact Or.inl ⟨hstopping, rfl, rfl⟩
    · exact Or.inr ⟨hstopping, r, queue, hqueue, rfl, rfl⟩

/-- Apart from the idle workers, only a submit that notifies makes the queue longer. -/
theorem queue_growth (hmoves : (service settings).Moves c i l choice shared' l')
    (hl : l ≠ .worker .idle) :
    shared'.registry.stopping = c.shared.registry.stopping ∧
    (shared'.registry.queue.length ≤ c.shared.registry.queue.length ∨
      shared'.registry.queue.length = c.shared.registry.queue.length + 1 ∧
        monitor.notifies l l' = .one .ready) := by
  cases threadMove hmoves with
  | worker hmove =>
    cases hmove with
    | pop => exact absurd rfl hl
    | _ => exact ⟨rfl, Or.inl (Nat.le_refl _)⟩
  | @call request _ _ _ hmove =>
    cases hmove with
    | closeDrained _ => exact ⟨rfl, Or.inl (List.length_filter_le _ _)⟩
    | @submitEnded s session fails _ _ =>
      rcases Registry.submit_cases settings c.shared.registry session.id session.graph
        request.submitOptions fails with ⟨failure, heq⟩ | ⟨failure, heq, -⟩ | ⟨heq, -⟩ <;> rw [heq]
      · exact ⟨rfl, Or.inl (Nat.le_refl _)⟩
      · exact ⟨rfl, Or.inl (Nat.le_refl _)⟩
      · refine ⟨rfl, Or.inr ⟨?_, rfl⟩⟩
        simp only [Registry.enroll, List.length_append, List.length_singleton]
    | _ => exact ⟨rfl, Or.inl (Nat.le_refl _)⟩

/-- A worker leaves its loop only when the registry stops. -/
theorem exited_step (hmoves : (service settings).Moves c i l choice shared' (.worker .exited))
    (hc : (registryOutline settings True).Holds c) : c.shared.registry.stopping = true := by
  have hclaim := hc.thread hmoves.thread
  have hidle : l = .worker .idle := by
    cases threadMove hmoves with
    | worker hmove =>
      cases hmove with
      | unexpected hrecord hqueued =>
        exact absurd ((hclaim _ (List.mem_singleton_self _)).1.of_some hrecord) hqueued
      | advance _ _ hadvances =>
        cases hadvances
        rfl
      | publish _ _ _ _ hpublication =>
        obtain ⟨fails, -, hpublication⟩ := hpublication
        rcases hpublication.next with heq | ⟨r, -, hphase⟩
        · cases heq
        · cases hphase
  subst hidle
  rcases idle_moves hmoves with ⟨hstopping, -, -⟩ | ⟨-, r, queue, -, -, heq⟩
  · exact hstopping
  · cases heq

/-- Only a submit adds to the backlog, and it notifies. Only an idle worker takes from it. -/
theorem backlog_step (hmoves : (service settings).Moves c i l choice shared' l') :
    backlog shared' = 0 ∨
    backlog shared' + (if monitor.waits l = some .ready then 1 else 0) ≤
      backlog c.shared + (if monitor.waits l' = some .ready then 1 else 0) +
        if monitor.notifies l l' = .one .ready then 1 else 0 := by
  by_cases hl : l = .worker .idle
  · subst hl
    rcases idle_moves hmoves with ⟨hstopping, rfl, -⟩ | ⟨hstopping, r, queue, hqueue, rfl, -⟩
    · exact Or.inl (if_pos hstopping)
    · refine Or.inr ?_
      simp only [backlog, hstopping, hqueue, List.length_cons, waits_ready_iff]
      simp only [if_true, Bool.false_eq_true, if_false]
      omega
  · obtain ⟨hstopping, hqueue⟩ := queue_growth hmoves hl
    rw [if_neg (mt waits_ready_iff.mp hl)]
    unfold backlog
    rw [hstopping]
    refine Or.inr ?_
    split
    · omega
    · rcases hqueue with hle | ⟨hlength, hnotifies⟩
      · omega
      · rw [if_pos hnotifies]
        omega

end Step

/-- Nobody stops the registry while calls may be made. -/
theorem stopping_of_reachable {c : Config Shared Thread} (h : Reachable settings c) :
    c.shared.registry.stopping = false := by
  refine Program.Leads.induct (motive := fun c => c.shared.registry.stopping = false) h rfl ?_ ?_
  · intro c₁ request _ ih
    exact ih
  · intro c₁ i l choice shared' l' _ ih _ hmoves
    by_cases hl : l = .worker .idle
    · subst hl
      rcases idle_moves hmoves with ⟨hstopping, -, -⟩ | ⟨-, r, queue, -, rfl, -⟩
      · rw [ih] at hstopping
        cases hstopping
      · exact ih
    · exact (queue_growth hmoves hl).1.trans ih

/-- So no worker leaves its loop either. -/
theorem not_exited_of_reachable {c : Config Shared Thread} (h : Reachable settings c) :
    ∀ l ∈ c.threads, l ≠ .worker .exited := by
  refine Program.Leads.forall_threads (motive := fun _ l => l ≠ .worker .exited) h ?_ ?_ ?_ ?_
  · intro l hl
    obtain ⟨i, hi⟩ := List.getElem?_of_mem hl
    rw [eq_idle_of_initial hi]
    nofun
  · intro c₁ request _
    nofun
  · rintro c₁ i l choice shared' l' hc₁ - hmoves - rfl
    have hstopping := exited_step hmoves (registryOutline_holds hc₁)
    rw [stopping_of_reachable hc₁] at hstopping
    cases hstopping
  · intro c₁ i l choice shared' l' m _ _ _ hm
    exact hm

theorem MonitoredReachable.conserved (h : MonitoredReachable settings c) :
    Conserved monitor .ready backlog c := by
  refine Program.Leads.conserved h (fun _ _ hmoves => backlog_step hmoves) ?_
    (Queued.of_no_waiters rfl) ?_
  · intro shared l hwaits hfalse
    obtain rfl := waits_ready_iff.mp hwaits
    have hempty : shared.registry.stopping = false ∧ shared.registry.queue = [] := by
      simpa [monitor] using hfalse
    simp [backlog, hempty.1, hempty.2]
  · intro hpositive
    cases hpositive

/-- A worker in its loop. -/
def Thread.isIdle : Thread → Bool
  | worker .idle => true
  | _ => false

omit [Kernel] in
theorem waiting_ready (threads : List Thread) :
    monitor.waiting .ready threads = threads.countP Thread.isIdle := by
  refine List.countP_congr fun l _ => ?_
  rw [decide_eq_true_eq, waits_ready_iff]
  constructor
  · rintro rfl
    rfl
  · intro h
    unfold Thread.isIdle at h
    split at h
    · rfl
    · cases h

theorem backlog_of_reachable {c : Config Shared Thread} (h : Reachable settings c) :
    backlog c.shared = c.shared.registry.queue.length := by
  simp [backlog, stopping_of_reachable h]

/-- A worker sleeps at `ready_` or not at all. -/
theorem sleepers_pos (h : MonitoredReachable settings c) {i : Nat} {stage : WorkerStage}
    (hi : c.threads[i]? = some (.worker stage)) (hasleep : c.shared.asleep i = true) :
    0 < c.shared.sleepers .ready := by
  obtain ⟨k, hmem⟩ := Waiting.asleep_iff.mp hasleep
  obtain ⟨l, hl, hwaits⟩ := h.queued.waits hmem
  cases hi.symm.trans hl
  have hk : k = .ready := by
    unfold monitor at hwaits
    dsimp only at hwaits
    split at hwaits <;> simp_all
  exact List.countP_pos_iff.mpr ⟨(i, k), hmem, by simpa using hk⟩

theorem MonitoredReachable.cover (h : MonitoredReachable settings c)
    (hpositive : 0 < c.shared.sleepers .ready) :
    c.shared.shared.registry.queue.length + c.shared.sleepers .ready ≤
      c.threads.countP Thread.isIdle := by
  have hle := h.conserved hpositive
  rwa [waiting_ready, show backlog c.shared.shared = _ from backlog_of_reachable h.guarded] at hle

theorem MonitoredReachable.exists_awake_worker (h : MonitoredReachable settings c)
    (hqueue : c.shared.shared.registry.queue ≠ []) :
    ∃ i stage, c.threads[i]? = some (.worker stage) ∧ stage ≠ .exited ∧
      c.shared.asleep i = false := by
  have hlength := List.length_pos_iff.mpr hqueue
  by_cases hpositive : 0 < c.shared.sleepers .ready
  · have hle := h.cover hpositive
    obtain ⟨i, l, hi, hwaits, hawake⟩ := h.queued.exists_awake (k := .ready)
      (by rw [waiting_ready]; omega)
    exact ⟨i, .idle, waits_ready_iff.mp hwaits ▸ hi, nofun, hawake⟩
  · -- There are workers, and none of them sleeps.
    have hcount : 0 < c.threads.countP Thread.isWorker := by
      rw [show c.threads.countP Thread.isWorker = _ from countP_isWorker h.guarded]
      exact Nat.pos_of_ne_zero fun hzero =>
        settings.maximumConcurrency_ne (UInt32.toNat_inj.mp hzero)
    obtain ⟨l, hl, hworker⟩ := List.countP_pos_iff.mp hcount
    obtain ⟨i, hi⟩ := List.getElem?_of_mem hl
    cases l with
    | call request stage => cases hworker
    | worker stage =>
      refine ⟨i, stage, hi, ?_, ?_⟩
      · rintro rfl
        exact not_exited_of_reachable h.guarded _ hl rfl
      · rw [Bool.eq_false_iff]
        exact fun hasleep => hpositive (sleepers_pos h hi hasleep)

/-- No wake-up of a worker is lost. While some worker sleeps, there are at least as many idle
workers awake as records in the queue, however `notify_one` chooses and whatever wakes up for no
reason. So while a job is queued, some worker is awake: an idle one that is about to take it, or
a busy one that comes back to the queue before it can sleep. -/
theorem idle_workers_cover_queue (h : MonitoredReachable settings c) :
    (0 < c.shared.sleepers .ready →
      c.shared.shared.registry.queue.length + c.shared.sleepers .ready ≤
        c.threads.countP Thread.isIdle) ∧
    (c.shared.shared.registry.queue ≠ [] →
      ∃ i stage, c.threads[i]? = some (.worker stage) ∧ stage ≠ .exited ∧
        c.shared.asleep i = false) :=
  ⟨h.cover, h.exists_awake_worker⟩

omit [Kernel] in
/-- Thread `i` makes a step in which nothing fails, and wakes `chosen` if it has to choose. -/
def plainWake {R : Type} (i chosen : Nat) : Act (Wake Choice) R :=
  .move i (.step (.go fun _ => false) chosen)

/-- Both workers of `sampleSettings` fall asleep; then the first session is created and its first
job is submitted, which wakes one of them. -/
def sampleWakes (chosen : Nat) : List (Act (Wake Choice) Request) :=
  [.move 0 .sleep, .move 1 .sleep, .spawn (sampleRequest .sessionCreate), plainWake 2 0,
    plainWake 2 0, .move 2 (.step (.compile (.value ())) 0), plainWake 2 0,
    .spawn (sampleRequest .jobSubmit), plainWake 3 0, plainWake 3 0, plainWake 3 chosen]

omit [Kernel] in
/-- The second worker was notified of the only job, and the first one sleeps. -/
theorem idle_workers_cover_queue_notified :
    ∃ c, @MonitoredReachable sampleKernel sampleSettings c ∧ c.shared.asleep 0 = true ∧
      c.shared.shared.registry.queue.length = 1 ∧
      1 + c.shared.sleepers .ready ≤ c.threads.countP Thread.isIdle ∧
      ∃ i stage, c.threads[i]? = some (.worker stage) ∧ stage ≠ .exited ∧
        c.shared.asleep i = false := by
  let _ : Kernel := sampleKernel
  have hreachable : MonitoredReachable sampleSettings _ :=
    MonitoredReachable.run (Program.Leads.refl _) (sampleWakes 1) rfl
  have hcover := idle_workers_cover_queue hreachable
  exact ⟨_, hreachable, rfl, rfl, hcover.1 (by decide), hcover.2 nofun⟩

/-! ## Closes -/

/-- The worker is in the exception fence of the record. -/
def Thread.Fences (r : JobRef) : Thread → Prop
  | worker stage => stage.phase = .fenced r
  | call _ _ => False

section Ended

variable {registry : Registry} {r r' : JobRef} {record record' : JobRecord}

omit [Kernel]

theorem Registry.endedAt_iff :
    registry.endedAt r = true ↔ registry.At r fun record => terminal record.state = true := by
  unfold Registry.endedAt Registry.At
  cases registry.records[r]? <;> simp

/-- A critical section on a record ends no other record. -/
theorem Registry.endedAt_write (hr' : registry.records[r']? = some record)
    (h : (registry.write r' record').endedAt r = true) :
    registry.endedAt r = true ∨ r = r' ∧ terminal record'.state = true := by
  obtain ⟨ended, hended, hterminal⟩ := Registry.endedAt_iff.mp h
  by_cases hr : r' = r
  · subst hr
    cases hended.symm.trans (Registry.records_write_self hr')
    exact Or.inr ⟨rfl, hterminal⟩
  · rw [Registry.records_write_ne hr] at hended
    exact Or.inl (Registry.endedAt_iff.mpr ⟨ended, hended, hterminal⟩)

/-- A critical section that publishes nothing ends no record. -/
theorem Registry.endedAt_unpublished (hr' : registry.records[r']? = some record)
    (hpublished : record'.published = record.published)
    (h : (registry.write r' record').endedAt r = true) : registry.endedAt r = true := by
  rcases Registry.endedAt_write hr' h with hended | ⟨rfl, hterminal⟩
  · exact hended
  · have hstate : record'.state = record.state := congrArg Prod.fst hpublished
    rw [hstate] at hterminal
    exact Registry.endedAt_iff.mpr ⟨record, hr', hterminal⟩

/-- A new record has not ended. -/
theorem Registry.endedAt_enroll (hstate : record.state = .queued)
    (h : (registry.enroll record).endedAt r = true) : registry.endedAt r = true := by
  obtain ⟨ended, hended, hterminal⟩ := Registry.endedAt_iff.mp h
  rcases getElem?_snoc hended with hold | ⟨-, rfl⟩
  · exact Registry.endedAt_iff.mpr ⟨ended, hold, hterminal⟩
  · rw [hstate] at hterminal
    cases hterminal

end Ended

section Step

variable {c : Config Shared Thread} {i : Nat} {l l' : Thread} {choice : Choice} {shared' : Shared}
  {r : JobRef}

omit [Kernel] in
theorem Phase.announces_of_owned {phase : Phase} (h : phase.owned = [r]) :
    phase.announces = .all (.terminalChanged r) := by
  cases phase <;> cases h <;> rfl

/-- Whoever ends a record notifies, or an exception has taken him into the fence before he
could. -/
theorem ended_step (hmoves : (service settings).Moves c i l choice shared' l')
    (hc : (registryOutline settings True).Holds c)
    (hbefore : c.shared.registry.endedAt r = false)
    (hafter : shared'.registry.endedAt r = true) :
    monitor.notifies l l' = .all (.terminalChanged r) ∨ l'.Fences r := by
  have hclaim := hc.thread hmoves.thread
  have hnew : ¬ c.shared.registry.endedAt r = true := by simp [hbefore]
  cases threadMove hmoves with
  | worker hmove =>
    cases hmove with
    | pop => exact absurd hafter hnew
    | begin hrecord _ =>
      rcases Registry.endedAt_write hrecord hafter with hold | ⟨-, hterminal⟩
      · exact absurd hold hnew
      · cases hterminal
    | unexpected hrecord hqueued =>
      exact absurd ((hclaim _ (List.mem_singleton_self _)).1.of_some hrecord) hqueued
    | advance => exact absurd hafter hnew
    | publish hphase hrecord _ _ hpublication =>
      obtain ⟨fails, -, hpublication⟩ := hpublication
      obtain ⟨rfl, -⟩ := (Registry.endedAt_write hrecord hafter).resolve_left hnew
      rcases hpublication.next with rfl | ⟨r', howned, hfenced⟩
      · refine Or.inl (Phase.announces_of_owned ?_)
        rcases hphase with hphase | hphase <;> rw [hphase] <;> rfl
      · rcases hphase with hphase | hphase <;> rw [hphase] at howned <;> cases howned <;>
          exact Or.inr hfenced
  | @call request _ _ _ hmove =>
    cases hmove with
    | closeSettled hrecord =>
      obtain ⟨rfl, -⟩ := (Registry.endedAt_write hrecord hafter).resolve_left hnew
      exact Or.inl rfl
    | @closeCancelling _ _ _ _ record hrecord =>
      have hpublished : record.cancel.published = record.published := rfl
      exact absurd (Registry.endedAt_unpublished hrecord hpublished hafter) hnew
    | @closeRequested _ _ _ _ record hrecord =>
      exact absurd (Registry.endedAt_unpublished hrecord
        record.published_cancelUnlessTerminal hafter)
        hnew
    | @lookupFinished kind _ record fails _ hrecord =>
      exact absurd
        (Registry.endedAt_unpublished hrecord (kind.finish_follows record fails).2 hafter) hnew
    | @submitEnded s session fails _ _ =>
      rcases Registry.submit_cases settings c.shared.registry session.id session.graph
        request.submitOptions fails with ⟨failure, heq⟩ | ⟨failure, heq, -⟩ | ⟨heq, -⟩ <;>
        rw [heq] at hafter
      · exact absurd hafter hnew
      · exact absurd hafter hnew
      · exact absurd (Registry.endedAt_enroll rfl hafter) hnew
    | _ => exact absurd hafter hnew

/-- Every way out of the fence notifies. -/
theorem fences_step (hmoves : (service settings).Moves c i l choice shared' l')
    (h : l.Fences r) : monitor.notifies l l' = .all (.terminalChanged r) ∨ l'.Fences r := by
  cases threadMove hmoves with
  | call => exact absurd h id
  | worker hmove =>
    change WorkerStage.phase _ = _ at h
    cases hmove with
    | pop => cases h
    | begin => cases h
    | unexpected => cases h
    | advance hphase =>
      rcases hphase with hphase | ⟨r', hphase, -⟩
      · exact Or.inr (hphase.trans h)
      · rw [h] at hphase
        cases hphase
    | publish _ _ _ _ hpublication =>
      obtain ⟨fails, -, hpublication⟩ := hpublication
      rcases hpublication.next with rfl | ⟨r', howned, hfenced⟩
      · exact Or.inl (Phase.announces_of_owned (by rw [h]; rfl))
      · rw [h] at howned
        cases howned
        exact Or.inr hfenced

end Step

omit [Kernel] in
theorem waits_terminalChanged_iff {l : Thread} {r : JobRef} :
    monitor.waits l = some (.terminalChanged r) ↔
      ∃ request s running, l = .call request (.close (.waiting s (r :: running))) := by
  constructor
  · intro h
    unfold monitor at h
    dsimp only at h
    split at h <;> cases h
    exact ⟨_, _, _, rfl⟩
  · rintro ⟨request, s, running, rfl⟩
    rfl

theorem MonitoredReachable.announced (h : MonitoredReachable settings c) :
    Announced monitor (· ≠ .ready) (fun l k => ∃ r, k = .terminalChanged r ∧ l.Fences r) c := by
  refine Program.Leads.announced h ?_ (Queued.of_no_waiters rfl) ?_
  · intro c₁ i l choice shared' l' m k hc₁ _ hmoves hwaits hk hreason
    cases k with
    | ready => exact absurd rfl hk
    | terminalChanged r =>
      obtain ⟨request, s, running, rfl⟩ := waits_terminalChanged_iff.mp hwaits
      have hdone : monitor.notifies l l' = .all (.terminalChanged r) ∨ l'.Fences r := by
        rcases hreason with ⟨r', heq, hfences⟩ | ⟨hbefore, hafter⟩
        · cases heq
          exact fences_step hmoves hfences
        · exact ended_step hmoves (registryOutline_holds hc₁) hbefore hafter
      exact hdone.imp_right fun hfences => ⟨r, rfl, hfences⟩
  · intro i k l hmem
    cases hmem

omit [Kernel] in
theorem waits_of_fences {l : Thread} {r : JobRef} (h : l.Fences r) : monitor.waits l = none := by
  cases l with
  | call => exact absurd h id
  | worker stage =>
    cases stage with
    | idle => cases h
    | _ => rfl

theorem MonitoredReachable.exists_fence (h : MonitoredReachable settings c) {i : Nat} {r : JobRef}
    (hasleep : (i, .terminalChanged r) ∈ c.shared.waiters)
    (hended : c.shared.shared.registry.endedAt r = true) :
    ∃ j l, c.threads[j]? = some l ∧ l.Fences r ∧ c.shared.asleep j = false := by
  obtain ⟨m, hm, hwaits⟩ := h.queued.waits hasleep
  obtain ⟨request, s, running, rfl⟩ := waits_terminalChanged_iff.mp hwaits
  obtain ⟨l, hl, r', heq, hfences⟩ := h.announced hasleep nofun hm hended
  cases heq
  obtain ⟨j, hj⟩ := List.getElem?_of_mem hl
  refine ⟨j, l, hj, hfences, ?_⟩
  rw [Bool.eq_false_iff]
  intro hasleep'
  obtain ⟨k, hmem⟩ := Waiting.asleep_iff.mp hasleep'
  obtain ⟨l', hl', hwaits'⟩ := h.queued.waits hmem
  cases hj.symm.trans hl'
  rw [waits_of_fences hfences] at hwaits'
  cases hwaits'

/-- No wake-up of a close is lost. A close that sleeps at a record that has ended is going to be
notified: a worker that was thrown out of the publication of this record before it could notify
is awake in its exception fence, and every step out of the fence notifies. -/
theorem sleeping_close_is_notified (h : MonitoredReachable settings c) {i : Nat} {r : JobRef}
    (hasleep : (i, .terminalChanged r) ∈ c.shared.waiters)
    (hended : c.shared.shared.registry.endedAt r = true) :
    ∃ j l, c.threads[j]? = some l ∧ l.Fences r ∧ c.shared.asleep j = false ∧
      ∀ choice waiting' l', (monitoredService settings).Moves c j l choice waiting' l' →
        l'.Fences r ∨ (i, .terminalChanged r) ∉ waiting'.waiters := by
  obtain ⟨j, l, hj, hfences, hawake⟩ := h.exists_fence hasleep hended
  refine ⟨j, l, hj, hfences, hawake, ?_⟩
  intro choice waiting' l' hmoves
  cases hmoves.monitored with
  | @step choice₀ chosen shared' _ _ hstep =>
    refine (fences_step (c := c.guarded) ⟨hj, hstep⟩ hfences).symm.imp_right ?_
    intro hnotifies
    rw [hnotifies]
    exact Notice.not_mem_wake_all chosen
  | sleep _ hwaits' =>
    rw [waits_of_fences hfences] at hwaits'
    cases hwaits'
  | spurious hasleep' =>
    rw [hawake] at hasleep'
    cases hasleep'

omit [Kernel] in
/-- The only worker that is awake moves the job to `Running`. The session is closed and the close
falls asleep. The worker finds the job cancelled, and memory runs out in its publication. -/
theorem sleeping_close_is_notified_fenced :
    ∃ c, @MonitoredReachable sampleKernel sampleSettings c ∧
      (4, .terminalChanged 0) ∈ c.shared.waiters ∧ c.shared.shared.registry.endedAt 0 = true ∧
      ∃ j l, c.threads[j]? = some l ∧ l.Fences 0 ∧ c.shared.asleep j = false := by
  let _ : Kernel := sampleKernel
  let acts := sampleWakes 1 ++
    [plainWake 1 0, plainWake 1 0, .spawn (sampleRequest .sessionClose)] ++
    List.replicate 6 (plainWake 4 0) ++
    [.move 4 .sleep, plainWake 1 0, .move 1 (.step (.go fun _ => true) 0)]
  have hrun : ((monitoredService sampleSettings).run
      ⟨⟨Shared.initial, []⟩, (initial sampleSettings).threads⟩ acts).any (fun c =>
        (4, Condition.terminalChanged 0) ∈ c.shared.waiters ∧
          c.shared.shared.registry.endedAt 0 = true) = true := by decide +kernel
  obtain ⟨c, hc, hasleep⟩ := (Option.any_eq_true _ _).mp hrun
  obtain ⟨hasleep, hended⟩ := of_decide_eq_true hasleep
  have hreachable : MonitoredReachable sampleSettings c :=
    MonitoredReachable.run (Program.Leads.refl _) acts hc
  obtain ⟨j, l, hj, hfences, hawake, -⟩ := sleeping_close_is_notified hreachable hasleep hended
  exact ⟨c, hreachable, hasleep, hended, j, l, hj, hfences, hawake⟩

end PhotospiderDaemon.Orchestration
