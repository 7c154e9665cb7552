import PhotospiderDaemon.Orchestration.Termination

/-!
# The end of a registry

`JobRegistry::stop`, which the destructor runs, and which the constructor runs when one of its
workers cannot be started. It raises `stopping_` and requests the cancellation of every job that
is retained, wakes the workers, joins them, and drops what is left.

No call is in flight then, so the participants are the workers and the thread that stops them.
The workers make the steps that they make in the service. The cancellation tokens are atomic and
are not guarded by the registry mutex, so each of them is one step.

* `Retirable`: when a registry may be stopped. `MonitoredReachable.retirable` is the destructor,
  `retirable_of_started` a constructor that has started some of its workers.
* `Retires`: the invariant.
* `stop_retires_registry`: `stop` returns, whatever the schedule is, and what is left then.
* `stop_starts_nothing`: no job starts once the flag is up.
-/

namespace PhotospiderDaemon.Orchestration

open Foundation Ipc

/-! ## The program -/

/-- What `stop` does next. -/
inductive StopStage where
  | entered
  | cancelling (todo : List JobRef)
  | flagged
  | joining (workers : List Nat)
  | clearing
  | returned

inductive Participant where
  | thread (l : Thread)
  | owner (stage : StopStage)

/-- The service, and the threads whose function has returned. -/
structure Retiring where
  shared : Shared
  exited : List Nat

/-- `JobRegistry::stop`, run by thread `i`. `workers_` holds the given threads. -/
def ownerStep (workers : List Nat) (i : Nat) (retiring : Retiring) :
    StopStage → Option (Retiring × StopStage)
  | .entered =>
    locking retiring.shared.registryMutex <|
      if retiring.shared.registry.stopping then some (retiring, .returned)
      else
        some ({ retiring with shared :=
            { retiring.shared with
              registryMutex := some i
              registry := { retiring.shared.registry with stopping := true } } },
          .cancelling (retiring.shared.registry.jobs.entries.map (·.2)))
  | .cancelling (r :: todo) =>
    (retiring.shared.onRecord r fun record => (record.cancel, ())).map fun result =>
      ({ retiring with shared := result.1 }, .cancelling todo)
  | .cancelling [] =>
    some ({ retiring with shared := { retiring.shared with registryMutex := none } }, .flagged)
  | .flagged => some (retiring, .joining workers)
  | .joining (worker :: rest) =>
    if worker ∈ retiring.exited then some (retiring, .joining rest) else none
  | .joining [] => some (retiring, .clearing)
  | .clearing =>
    locking retiring.shared.registryMutex <|
      some ({ retiring with shared :=
          { retiring.shared with
            registry := { retiring.shared.registry with queue := [], jobs := OrderedMap.empty } } },
        .returned)
  | .returned => none

/-- The function of the thread has returned. -/
def Thread.hasExited : Thread → Bool
  | worker .exited => true
  | _ => false

/-- A worker, or a call that has returned. -/
def Thread.Settled : Thread → Prop
  | worker _ => True
  | call _ stage => stage.isReturned = true

instance decidableSettled : DecidablePred Thread.Settled
  | .worker _ => inferInstanceAs (Decidable True)
  | .call _ stage => inferInstanceAs (Decidable (stage.isReturned = true))

theorem Thread.Settled.returned {request : Request} {stage : CallStage}
    (h : (Thread.call request stage).Settled) :
    ∃ ending response, stage = .returned ending response := by
  cases stage with
  | returned ending response => exact ⟨ending, response, rfl⟩
  | _ => cases h

theorem eq_exited_of_hasExited {stage : WorkerStage} (h : (Thread.worker stage).hasExited = true) :
    stage = .exited := by
  cases stage <;> first | rfl | cases h

variable [Kernel] {settings : Settings}

/-- The workers and the thread that stops them. Nobody else starts. -/
def teardown (settings : Settings) (workers : List Nat) :
    Program Retiring Participant Choice Empty where
  start := nofun
  step i retiring participant choice :=
    match participant with
    | .thread l =>
      (threadStep settings i retiring.shared l choice).map fun result =>
        (⟨result.1, if result.2.hasExited then i :: retiring.exited else retiring.exited⟩,
          .thread result.2)
    | .owner stage =>
      (ownerStep workers i retiring stage).map fun result => (result.1, .owner result.2)

omit [Kernel] in
/-- The waits and notifications of the service, and `ready_.notify_all()` in `stop`. -/
def teardownMonitor : Monitor Retiring Participant Condition where
  waits
    | .thread l => monitor.waits l
    | .owner _ => none
  lockable retiring
    | .thread l => monitor.lockable retiring.shared l
    | .owner _ => true
  holds retiring
    | .thread l => monitor.holds retiring.shared l
    | .owner _ => true
  notifies
    | .thread l, .thread l' => monitor.notifies l l'
    | .owner .flagged, .owner (.joining _) => .all .ready
    | _, _ => .silent

/-- The teardown carried out with the condition variables. -/
def monitoredTeardown (settings : Settings) (workers : List Nat) :
    Program (Waiting Retiring Condition) Participant (Wake Choice) Empty :=
  (teardown settings workers).monitored teardownMonitor

omit [Kernel] in
/-- The thread that is going to stop the registry comes last. -/
def retire (c : Config (Waiting Shared Condition) Thread) :
    Config (Waiting Retiring Condition) Participant :=
  ⟨⟨⟨c.shared.shared, []⟩, c.shared.waiters⟩, c.threads.map .thread ++ [.owner .entered]⟩

/-- When a registry may be stopped: no call is in flight. -/
structure Retirable (settings : Settings) (c : Config (Waiting Shared Condition) Thread) :
    Prop where
  outline : (registryOutline settings True).Holds c.guarded
  settled : ∀ l ∈ c.threads, l.Settled
  terminated : c.shared.shared.terminated = false
  unlocked : c.shared.shared.registryMutex = none
  stopping : c.shared.shared.registry.stopping = false
  running : ∀ l ∈ c.threads, l.hasExited = false
  queued : Queued monitor c
  held : ∀ {r : JobRef},
    (c.shared.shared.registry.At r fun record => terminal record.state = false) →
    r ∈ c.shared.shared.registry.queue ∨ ∃ l ∈ c.threads, r ∈ l.owned

theorem MonitoredReachable.retirable {c : Config (Waiting Shared Condition) Thread}
    (h : MonitoredReachable settings c) (hsettled : ∀ l ∈ c.threads, l.Settled) :
    Retirable settings c where
  outline := registryOutline_holds h.guarded
  settled := hsettled
  terminated := (sessionOutline_holds h.guarded).shared.2
  unlocked := by
    by_contra howned
    obtain ⟨l, hl, hholds⟩ := registryMutex_held h.guarded howned
    cases l with
    | worker stage => exact hholds
    | call request stage =>
      obtain ⟨ending, response, rfl⟩ := (hsettled _ hl).returned
      exact hholds
  stopping := stopping_of_reachable h.guarded
  running := by
    intro l hl
    unfold Thread.hasExited
    split
    · exact absurd rfl (not_exited_of_reachable h.guarded _ hl)
    · rfl
  queued := h.queued
  held hlive := held_of_reachable h.guarded _ hlive

omit [Kernel] in
/-- The constructor has started some workers, and some of these sleep already. -/
theorem retirable_of_started (settings : Settings) (started : Nat) {sleepers : List Nat}
    (hnodup : sleepers.Nodup) (hstarted : ∀ i ∈ sleepers, i < started) :
    Retirable settings ⟨⟨Shared.initial, sleepers.map fun i => (i, .ready)⟩,
      List.replicate started (.worker .idle)⟩ where
  outline :=
    { shared := Registry.Sound.initial settings
      thread := by
        intro i l hi
        rw [List.eq_of_mem_replicate (List.mem_of_getElem? hi)]
        nofun
      pair := by
        intro i j l m _ hi _
        rw [List.eq_of_mem_replicate (List.mem_of_getElem? hi)]
        nofun }
  settled l hl := by
    rw [List.eq_of_mem_replicate hl]
    trivial
  terminated := rfl
  unlocked := rfl
  stopping := rfl
  running l hl := by
    rw [List.eq_of_mem_replicate hl]
    rfl
  queued :=
    { waits := by
        intro i k hmem
        obtain ⟨j, hj, heq⟩ := List.mem_map.mp hmem
        obtain ⟨rfl, rfl⟩ := Prod.mk.inj heq
        exact ⟨.worker .idle, by simp [hstarted j hj], rfl⟩
      nodup := by
        simpa [List.map_map, Function.comp_def] using hnodup }
  held := by
    rintro r ⟨record, hr, -⟩
    simp [Shared.initial, Registry.initial] at hr

/-! ## The invariant -/

/-- The workers that are still to be joined. -/
def StopStage.pending (workers : List Nat) : StopStage → List Nat
  | joining rest => rest
  | clearing => []
  | returned => []
  | _ => workers

/-- The jobs whose cancellation is still to be requested. -/
def StopStage.uncancelled (jobs : List JobRef) : StopStage → List JobRef
  | entered => jobs
  | cancelling todo => todo
  | _ => []

/-- The invariant of the teardown: of the service, of its threads and of the thread that stops
them, where `base` is the registry as it was found. -/
structure Retires (settings : Settings) (base : Registry) (workers : List Nat)
    (retiring : Retiring) (ls : List Thread) (stage : StopStage) : Prop where
  outline : (registryOutline settings True).Holds ⟨retiring.shared, ls⟩
  settled : ∀ l ∈ ls, l.Settled
  terminated : retiring.shared.terminated = false
  locked : retiring.shared.registryMutex ≠ none → ∃ todo, stage = .cancelling todo
  stopping : retiring.shared.registry.stopping = true ↔ stage ≠ .entered
  exited : ∀ {i : Nat} {l : Thread}, ls[i]? = some l → (l.hasExited = true ↔ i ∈ retiring.exited)
  isWorker : ∀ {i : Nat} {l : Thread}, ls[i]? = some l → (l.isWorker = true ↔ i ∈ workers)
  pending : stage.pending workers ⊆ workers
  joined : ∀ w ∈ workers, w ∈ stage.pending workers ∨ w ∈ retiring.exited
  jobs : stage ≠ .returned → retiring.shared.registry.jobs = base.jobs
  held : ∀ {r : JobRef},
    (retiring.shared.registry.At r fun record => terminal record.state = false) →
    r ∈ retiring.shared.registry.queue ∨ (∃ l ∈ ls, r ∈ l.owned) ∨
      stage = .returned ∧ retiring.shared.registry.At r fun record => record.state = .queued
  follows : ∀ {r : JobRef} {record : JobRecord}, base.records[r]? = some record →
    retiring.shared.registry.At r record.Follows
  todo : stage.uncancelled (base.jobs.entries.map (·.2)) ⊆ base.jobs.entries.map (·.2)
  requested : ∀ r ∈ base.jobs.entries.map (·.2),
    r ∈ stage.uncancelled (base.jobs.entries.map (·.2)) ∨
      retiring.shared.registry.At r fun record => record.cancelled = true
  cleared : stage = .returned →
    retiring.shared.registry.queue = [] ∧ retiring.shared.registry.jobs = OrderedMap.empty

section Threads

variable {shared shared' : Shared} {choice : Choice} {stage stage' : WorkerStage}

/-- What a worker leaves alone. -/
theorem WorkerMove.frame (h : WorkerMove shared choice stage shared' stage') :
    shared'.registryMutex = shared.registryMutex ∧ shared'.terminated = shared.terminated ∧
      shared'.registry.stopping = shared.registry.stopping ∧
      shared'.registry.jobs = shared.registry.jobs := by
  cases h <;> exact ⟨rfl, rfl, rfl, rfl⟩

/-- Only workers move. -/
theorem settled_move {c : Config Shared Thread} {i : Nat} {l l' : Thread}
    (hmoves : (service settings).Moves c i l choice shared' l') (h : l.Settled) :
    ∃ stage stage', l = .worker stage ∧ l' = .worker stage' ∧ stage ≠ .exited ∧
      WorkerMove c.shared choice stage shared' stage' := by
  cases threadMove hmoves with
  | @worker stage stage' _ hmove =>
    refine ⟨stage, stage', rfl, rfl, ?_, hmove⟩
    rintro rfl
    have hstep : threadStep settings i c.shared (.worker .exited) choice = some (shared', _) :=
      hmoves.step
    unfold threadStep at hstep
    cases choice <;> simp [workerStep] at hstep
  | call hmove =>
    obtain ⟨ending, response, rfl⟩ := h.returned
    cases hmove

omit [Kernel] in
theorem Thread.RegistryClaim.settled {registry registry' : Registry} {i : Nat}
    {mutex mutex' : Option Nat} {l : Thread} (h : l.RegistryClaim True i mutex registry)
    (hsettled : l.Settled) (hevolves : registry.Evolves [] registry') :
    l.RegistryClaim True i mutex' registry' := by
  have hfree : l.RegistryClaim True i none registry := by
    cases l with
    | worker stage => exact h
    | call request stage =>
      obtain ⟨ending, response, rfl⟩ := hsettled.returned
      exact h
  exact hfree.other hevolves (List.disjoint_nil_left _) (fun _ _ => List.not_mem_nil) nofun

omit [Kernel] in
/-- What the thread that stops the registry does to the outline. -/
theorem outline_owner {ls : List Thread} (h : (registryOutline settings True).Holds ⟨shared, ls⟩)
    (hsettled : ∀ l ∈ ls, l.Settled) (hevolves : shared.registry.Evolves [] shared'.registry)
    (hsound : shared'.registry.Sound settings) :
    (registryOutline settings True).Holds ⟨shared', ls⟩ where
  shared := hsound
  thread hi := Thread.RegistryClaim.settled (h.thread hi)
    (hsettled _ (List.mem_of_getElem? hi)) hevolves
  pair := h.pair

end Threads

section Invariant

variable {base : Registry} {workers : List Nat} {retiring : Retiring} {ls : List Thread}
  {stage : StopStage} {i : Nat}

omit [Kernel] in
theorem Retires.at_of_base (h : Retires settings base workers retiring ls stage) {r : JobRef}
    (hr : base.At r fun _ => True) : retiring.shared.registry.At r fun _ => True := by
  obtain ⟨record, hrecord, -⟩ := hr
  exact (h.follows hrecord).imp fun _ _ => trivial

/-- A step of a worker. -/
theorem Retires.thread (h : Retires settings base workers retiring ls stage) {l l' : Thread}
    {choice : Choice} {shared' : Shared}
    (hmoves : (service settings).Moves ⟨retiring.shared, ls⟩ i l choice shared' l') :
    Retires settings base workers
      ⟨shared', if l'.hasExited then i :: retiring.exited else retiring.exited⟩
        (ls.set i l') stage := by
  have hl : ls[i]? = some l := hmoves.thread
  obtain ⟨before, after, rfl, rfl, hrunning, hmove⟩ :=
    settled_move hmoves (h.settled l (List.mem_of_getElem? hl))
  obtain ⟨hmutex, hterminated, hstopping, hjobs⟩ := hmove.frame
  have hevolves := registry_evolves hmoves h.outline
  have hi : i ∈ workers := (h.isWorker hl).mp rfl
  have hnot : i ∉ retiring.exited := by
    rw [← h.exited hl]
    exact fun hexited => hrunning (eq_exited_of_hasExited hexited)
  -- Some worker is still in its loop, so `stop` has not returned.
  have hstage : stage ≠ .returned := by
    rintro rfl
    exact (h.joined i hi).elim List.not_mem_nil hnot
  have hset : ∀ {j : Nat} {m : Thread}, (ls.set i (.worker after))[j]? = some m →
      i = j ∧ m = .worker after ∨ i ≠ j ∧ ls[j]? = some m := getElem?_set_some
  refine
    { outline :=
        (registryOutline_preserves settings True).move (Or.inl trivial) hmoves trivial h.outline
      settled := ?_
      terminated := hterminated.trans h.terminated
      locked := fun hlocked => h.locked (by rwa [hmutex] at hlocked)
      stopping := by
        rw [hstopping]
        exact h.stopping
      exited := ?_
      isWorker := ?_
      pending := h.pending
      joined := ?_
      jobs := fun hne => hjobs.trans (h.jobs hne)
      held := ?_
      follows := ?_
      todo := h.todo
      requested := ?_
      cleared := fun hreturned => absurd hreturned hstage }
  · intro m hm
    rcases List.mem_or_eq_of_mem_set hm with hm | rfl
    · exact h.settled m hm
    · trivial
  · intro j m hm
    rcases hset hm with ⟨rfl, rfl⟩ | ⟨hne, hj⟩
    · by_cases hexited : (Thread.worker after).hasExited = true
      · simp [hexited]
      · simp [hexited, hnot]
    · rw [h.exited hj]
      split
      · rw [List.mem_cons, or_iff_right (Ne.symm hne)]
      · exact Iff.rfl
  · intro j m hm
    rcases hset hm with ⟨rfl, rfl⟩ | ⟨-, hj⟩
    · exact ⟨fun _ => hi, fun _ => rfl⟩
    · exact h.isWorker hj
  · intro w hw
    refine (h.joined w hw).imp_right fun hexited => ?_
    split
    · exact List.mem_cons_of_mem i hexited
    · exact hexited
  · intro r hlive
    have hlt := (List.getElem?_eq_some_iff.mp hl).1
    rcases handover hmoves h.outline hlive with hqueue | howned | ⟨hold, hqueue, howned⟩
    · exact Or.inl hqueue
    · exact Or.inr (Or.inl ⟨_, List.mem_set hlt _, howned⟩)
    · obtain ⟨m, hm, hmowned⟩ := ((h.held hold).resolve_left hqueue).resolve_right
        fun hreturned => hstage hreturned.1
      obtain ⟨j, hj⟩ := List.getElem?_of_mem hm
      have hne : i ≠ j := by
        rintro rfl
        exact howned (Option.some.inj (hl.symm.trans hj) ▸ hmowned)
      exact Or.inr (Or.inl
        ⟨m, List.mem_of_getElem? (by rw [List.getElem?_set_ne hne, hj]), hmowned⟩)
  · intro r record hr
    obtain ⟨record', hr', hfollows⟩ := h.follows hr
    exact (hevolves.record hr').imp fun _ hnext => hfollows.trans hnext.1
  · intro r hr
    refine (h.requested r hr).imp_right ?_
    rintro ⟨record, hrecord, hcancelled⟩
    exact (hevolves.record hrecord).imp fun _ hnext => hnext.1.cancelled hcancelled

omit [Kernel] in
/-- A step of the thread that stops the registry, which writes no more than a cancellation. -/
theorem Retires.evolve (h : Retires settings base workers retiring ls stage)
    {registry' : Registry} (hevolves : retiring.shared.registry.Evolves [] registry') :
    (∀ {r : JobRef} {record : JobRecord}, base.records[r]? = some record →
      registry'.At r record.Follows) ∧
    ∀ {r : JobRef}, (retiring.shared.registry.At r fun record => record.cancelled = true) →
      registry'.At r fun record => record.cancelled = true := by
  constructor
  · intro r record hr
    obtain ⟨record', hr', hfollows⟩ := h.follows hr
    exact (hevolves.record hr').imp fun _ hnext => hfollows.trans hnext.1
  · rintro r ⟨record, hrecord, hcancelled⟩
    exact (hevolves.record hrecord).imp fun _ hnext => hnext.1.cancelled hcancelled

omit [Kernel] in
/-- `stopping_ = true`. -/
theorem Retires.flag (h : Retires settings base workers retiring ls .entered) :
    Retires settings base workers
      { retiring with shared :=
        { retiring.shared with
          registryMutex := some i
          registry := { retiring.shared.registry with stopping := true } } } ls
      (.cancelling (retiring.shared.registry.jobs.entries.map (·.2))) := by
  have hevolves : retiring.shared.registry.Evolves []
      { retiring.shared.registry with stopping := true } := .of_records_eq rfl id id
  have hjobs : retiring.shared.registry.jobs = base.jobs := h.jobs nofun
  have hsound : retiring.shared.registry.Sound settings := h.outline.shared
  have hevolved := h.evolve hevolves
  exact
    { outline := outline_owner h.outline h.settled hevolves
        ⟨hsound.ascending, hsound.issued, hsound.keyed, hsound.queued, hsound.queue_ascending,
          hsound.size_le, hsound.result_none⟩
      settled := h.settled
      terminated := h.terminated
      locked := fun _ => ⟨_, rfl⟩
      stopping := ⟨fun _ => nofun, fun _ => rfl⟩
      exited := h.exited
      isWorker := h.isWorker
      pending := h.pending
      joined := h.joined
      jobs := fun _ => hjobs
      held := fun hlive => (h.held hlive).imp_right
        (Or.imp_right fun hreturned => nomatch hreturned.1)
      follows := hevolved.1
      todo := by rw [hjobs]; exact List.Subset.refl _
      requested := fun r hr => Or.inl (by rw [hjobs]; exact hr)
      cleared := nofun }

omit [Kernel] in
/-- One more cancellation is requested. -/
theorem Retires.cancel {r : JobRef} {todo : List JobRef} {record : JobRecord}
    (h : Retires settings base workers retiring ls (.cancelling (r :: todo)))
    (hr : retiring.shared.registry.records[r]? = some record) :
    Retires settings base workers
      { retiring with shared := retiring.shared.write r record.cancel } ls (.cancelling todo) := by
  have hevolves : retiring.shared.registry.Evolves []
      (retiring.shared.registry.write r record.cancel) :=
    .write hr (JobRecord.follows_cancel _) fun _ => rfl
  have hevolved := h.evolve hevolves
  have hstate : ∀ {r' : JobRef} {p : JobState → Prop},
      (retiring.shared.registry.write r record.cancel).At r' (fun record => p record.state) →
      retiring.shared.registry.At r' fun record => p record.state := by
    rintro r' p ⟨record', hr', hp⟩
    by_cases hne : r = r'
    · subst hne
      cases hr'.symm.trans (Registry.records_write_self hr)
      exact ⟨record, hr, hp⟩
    · rw [Registry.records_write_ne hne] at hr'
      exact ⟨record', hr', hp⟩
  have hsound : retiring.shared.registry.Sound settings := h.outline.shared
  exact
    { outline := outline_owner h.outline h.settled hevolves
        (hsound.write_of_published_eq hr (JobRecord.follows_cancel _) rfl)
      settled := h.settled
      terminated := h.terminated
      locked := fun _ => ⟨_, rfl⟩
      stopping := ⟨fun _ => nofun, fun _ => h.stopping.mpr nofun⟩
      exited := h.exited
      isWorker := h.isWorker
      pending := h.pending
      joined := h.joined
      jobs := fun _ => h.jobs nofun
      held := fun hlive =>
        (h.held (hstate (p := fun state => terminal state = false) hlive)).imp_right
        (Or.imp_right fun hreturned => nomatch hreturned.1)
      follows := hevolved.1
      todo := fun _ hmem => h.todo (List.mem_cons_of_mem r hmem)
      requested := by
        intro r' hr'
        rcases h.requested r' hr' with htodo | hcancelled
        · rcases List.mem_cons.mp htodo with rfl | htodo
          · exact Or.inr ⟨record.cancel, Registry.records_write_self hr, rfl⟩
          · exact Or.inl htodo
        · exact Or.inr (hevolved.2 hcancelled)
      cleared := nofun }

omit [Kernel] in
/-- The registry mutex is released. -/
theorem Retires.unlock (h : Retires settings base workers retiring ls (.cancelling [])) :
    Retires settings base workers
      { retiring with shared := { retiring.shared with registryMutex := none } } ls .flagged :=
  { outline := outline_owner h.outline h.settled (.refl _ _) h.outline.shared
    settled := h.settled
    terminated := h.terminated
    locked := absurd rfl
    stopping := ⟨fun _ => nofun, fun _ => h.stopping.mpr nofun⟩
    exited := h.exited
    isWorker := h.isWorker
    pending := h.pending
    joined := h.joined
    jobs := fun _ => h.jobs nofun
    held := fun hlive => (h.held hlive).imp_right
      (Or.imp_right fun hreturned => nomatch hreturned.1)
    follows := h.follows
    todo := h.todo
    requested := h.requested
    cleared := nofun }

omit [Kernel] in
/-- The workers are notified, or one of them is joined, or all have been. -/
theorem Retires.proceed {stage' : StopStage} (h : Retires settings base workers retiring ls stage)
    (hbefore : stage = .flagged ∨ ∃ rest, stage = .joining rest)
    (hafter : (∃ rest, stage' = .joining rest) ∨ stage' = .clearing)
    (hpending : stage'.pending workers ⊆ workers)
    (hjoined : ∀ w ∈ workers, w ∈ stage'.pending workers ∨ w ∈ retiring.exited) :
    Retires settings base workers retiring ls stage' := by
  have hbusy : stage ≠ .entered ∧ stage ≠ .returned ∧ (∀ todo, stage ≠ .cancelling todo) ∧
      ∀ jobs, stage.uncancelled jobs = [] := by
    rcases hbefore with rfl | ⟨rest, rfl⟩ <;> exact ⟨nofun, nofun, nofun, fun _ => rfl⟩
  have hbusy' : stage' ≠ .entered ∧ stage' ≠ .returned ∧ ∀ jobs, stage'.uncancelled jobs = [] := by
    rcases hafter with ⟨rest, rfl⟩ | rfl <;> exact ⟨nofun, nofun, fun _ => rfl⟩
  exact
    { outline := h.outline
      settled := h.settled
      terminated := h.terminated
      locked := fun hlocked => by
        obtain ⟨todo, htodo⟩ := h.locked hlocked
        exact absurd htodo (hbusy.2.2.1 todo)
      stopping := ⟨fun _ => hbusy'.1, fun _ => h.stopping.mpr hbusy.1⟩
      exited := h.exited
      isWorker := h.isWorker
      pending := hpending
      joined := hjoined
      jobs := fun _ => h.jobs hbusy.2.1
      held := fun hlive => (h.held hlive).imp_right
        (Or.imp_right fun hreturned => absurd hreturned.1 hbusy.2.1)
      follows := h.follows
      todo := by rw [hbusy'.2.2]; exact List.nil_subset _
      requested := fun r hr => Or.inr ((h.requested r hr).resolve_left
        (by rw [hbusy.2.2.2]; exact List.not_mem_nil))
      cleared := fun hreturned => absurd hreturned hbusy'.2.1 }

omit [Kernel] in
/-- `queue_.clear()` and `jobs_.clear()`. What was never popped is left as it was. -/
theorem Retires.clear (h : Retires settings base workers retiring ls .clearing) :
    Retires settings base workers
      { retiring with shared :=
        { retiring.shared with
          registry := { retiring.shared.registry with queue := [], jobs := OrderedMap.empty } } } ls
      .returned := by
  have hevolves : retiring.shared.registry.Evolves []
      { retiring.shared.registry with queue := [], jobs := OrderedMap.empty } :=
    .of_records_eq rfl nofun nofun
  have hsound : retiring.shared.registry.Sound settings := h.outline.shared
  have hevolved := h.evolve hevolves
  exact
    { outline := outline_owner h.outline h.settled hevolves
        ⟨hsound.ascending, hsound.issued, nofun, nofun, List.Pairwise.nil, Nat.zero_le _,
          hsound.result_none⟩
      settled := h.settled
      terminated := h.terminated
      locked := fun hlocked => nomatch (h.locked hlocked).choose_spec
      stopping := ⟨fun _ => nofun, fun _ => h.stopping.mpr nofun⟩
      exited := h.exited
      isWorker := h.isWorker
      pending := h.pending
      joined := h.joined
      jobs := absurd rfl
      held := by
        intro r hlive
        rcases h.held hlive with hqueue | howned | ⟨hreturned, -⟩
        · exact Or.inr (Or.inr ⟨rfl, (hsound.queued r hqueue).imp fun _ hrecord => hrecord.1⟩)
        · exact Or.inr (Or.inl howned)
        · cases hreturned
      follows := hevolved.1
      todo := h.todo
      requested := h.requested
      cleared := fun _ => ⟨rfl, rfl⟩ }

omit [Kernel] in
/-- A step of the thread that stops the registry. -/
theorem Retires.owner (h : Retires settings base workers retiring ls stage) {retiring' : Retiring}
    {stage' : StopStage} (hstep : ownerStep workers i retiring stage = some (retiring', stage')) :
    Retires settings base workers retiring' ls stage' := by
  cases stage with
  | entered =>
    obtain ⟨-, hstep⟩ := locking_eq_some hstep
    split at hstep
    · rename_i hstopping
      exact absurd rfl (h.stopping.mp hstopping)
    · cases hstep
      exact h.flag
  | cancelling todo =>
    cases todo with
    | nil =>
      cases hstep
      exact h.unlock
    | cons r todo =>
      obtain ⟨⟨shared', _⟩, hwrite, heq⟩ := Option.map_eq_some_iff.mp hstep
      cases heq
      obtain ⟨record, hr, rfl, -⟩ := Shared.onRecord_eq_some hwrite
      exact h.cancel hr
  | flagged =>
    cases hstep
    exact h.proceed (Or.inl rfl) (Or.inl ⟨_, rfl⟩) (List.Subset.refl _) h.joined
  | joining rest =>
    cases rest with
    | nil =>
      cases hstep
      exact h.proceed (Or.inr ⟨_, rfl⟩) (Or.inr rfl) h.pending h.joined
    | cons worker rest =>
      simp only [ownerStep] at hstep
      split at hstep
      · rename_i hexited
        cases hstep
        refine h.proceed (Or.inr ⟨_, rfl⟩) (Or.inl ⟨_, rfl⟩)
          (fun _ hmem => h.pending (List.mem_cons_of_mem worker hmem)) fun w hw => ?_
        rcases h.joined w hw with hpending | hdone
        · rcases List.mem_cons.mp hpending with rfl | hpending
          · exact Or.inr hexited
          · exact Or.inl hpending
        · exact Or.inr hdone
      · cases hstep
  | clearing =>
    obtain ⟨-, hstep⟩ := locking_eq_some hstep
    cases hstep
    exact h.clear
  | returned => cases hstep

end Invariant

/-! ## Runs -/

section Runs

variable {base : Registry} {workers : List Nat} {d : Config Retiring Participant}
  {ls : List Thread} {stage : StopStage}

/-- A step of the teardown is a step of the service or of `stop`. -/
theorem teardown_move {i : Nat} {p p' : Participant} {choice : Choice} {retiring' : Retiring}
    (hthreads : d.threads = ls.map .thread ++ [.owner stage])
    (hmoves : (teardown settings workers).Moves d i p choice retiring' p') :
    (∃ l l' shared', p = .thread l ∧ p' = .thread l' ∧
      (service settings).Moves ⟨d.shared.shared, ls⟩ i l choice shared' l' ∧
      retiring' = ⟨shared', if l'.hasExited then i :: d.shared.exited else d.shared.exited⟩ ∧
      d.threads.set i p' = (ls.set i l').map .thread ++ [.owner stage]) ∨
    ∃ stage', p = .owner stage ∧ p' = .owner stage' ∧
      ownerStep workers i d.shared stage = some (retiring', stage') ∧
      d.threads.set i p' = ls.map .thread ++ [.owner stage'] := by
  have hp := hmoves.thread
  rw [hthreads] at hp ⊢
  have hstep := hmoves.step
  rcases Nat.lt_or_ge i ls.length with hi | hi
  · rw [List.getElem?_append_left (by simpa using hi), List.getElem?_map] at hp
    obtain ⟨l, hl, rfl⟩ := Option.map_eq_some_iff.mp hp
    obtain ⟨⟨shared', l'⟩, hthread, heq⟩ := Option.map_eq_some_iff.mp hstep
    cases heq
    refine Or.inl ⟨l, l', shared', rfl, rfl, ⟨hl, hthread⟩, rfl, ?_⟩
    rw [List.set_append_left _ _ (by simpa using hi), List.map_set]
  · rcases getElem?_snoc hp with hp | ⟨rfl, rfl⟩
    · have hlt := (List.getElem?_eq_some_iff.mp hp).1
      rw [List.length_map] at hlt
      omega
    · obtain ⟨⟨_, stage'⟩, howner, heq⟩ := Option.map_eq_some_iff.mp hstep
      cases heq
      exact Or.inr ⟨stage', rfl, rfl, howner, by simp⟩

/-- The invariant, for the threads of a configuration. -/
def InRetirement (settings : Settings) (base : Registry) (workers : List Nat) (n : Nat)
    (d : Config Retiring Participant) : Prop :=
  ∃ ls stage, d.threads = ls.map .thread ++ [.owner stage] ∧ ls.length = n ∧
    Retires settings base workers d.shared ls stage

theorem InRetirement.of_leads {n : Nat} {d' : Config Retiring Participant}
    (h : InRetirement settings base workers n d)
    (hleads : (teardown settings workers).Leads (fun _ => True) d d') :
    InRetirement settings base workers n d' := by
  refine hleads.induct (motive := InRetirement settings base workers n) h ?_ ?_
  · intro d₁ request
    cases request
  · rintro d₁ i p choice retiring' p' - ⟨ls, stage, hthreads, hlength, hretires⟩ - hmoves
    rcases teardown_move hthreads hmoves with
      ⟨l, l', shared', rfl, rfl, hservice, rfl, hset⟩ | ⟨stage', rfl, rfl, howner, hset⟩
    · exact ⟨ls.set i l', stage, hset, by rw [List.length_set, hlength], hretires.thread hservice⟩
    · exact ⟨ls, stage', hset, hlength, hretires.owner howner⟩

omit [Kernel] in
theorem Retirable.inRetirement {c : Config (Waiting Shared Condition) Thread}
    (h : Retirable settings c) :
    InRetirement settings c.shared.shared.registry (positions Thread.isWorker c.threads)
      c.threads.length (retire c).guarded := by
  refine ⟨c.threads, .entered, rfl, rfl, ?_⟩
  exact
    { outline := h.outline
      settled := h.settled
      terminated := h.terminated
      locked := fun hlocked => absurd h.unlocked hlocked
      stopping := ⟨fun hstopping => absurd (h.stopping.symm.trans hstopping)
        (by decide), absurd rfl⟩
      exited := by
        intro i l hi
        rw [h.running l (List.mem_of_getElem? hi)]
        exact ⟨nofun, nofun⟩
      isWorker := by
        intro i l hi
        rw [mem_positions]
        refine ⟨fun hworker => ⟨l, hi, hworker⟩, ?_⟩
        rintro ⟨l', hi', hworker⟩
        exact Option.some.inj (hi'.symm.trans hi) ▸ hworker
      pending := List.Subset.refl _
      joined := fun w hw => Or.inl hw
      jobs := fun _ => rfl
      held := fun hlive => (h.held hlive).imp_right Or.inl
      follows := fun hr => ⟨_, hr, .refl _⟩
      todo := List.Subset.refl _
      requested := fun r hr => Or.inl hr
      cleared := nofun }

/-! ## Ending -/

omit [Kernel] in
/-- The steps that `stop` has still to make, for so many retained jobs and workers. -/
def StopStage.rank (jobs workers : Nat) : StopStage → Nat
  | entered => jobs + workers + 6
  | cancelling todo => todo.length + workers + 5
  | flagged => workers + 4
  | joining rest => rest.length + 2
  | clearing => 1
  | returned => 0

omit [Kernel] in
def Participant.rank (jobs workers : Nat) : Participant → Nat
  | thread l => l.rank
  | owner stage => stage.rank jobs workers

omit [Kernel] in
/-- What is left to do in a teardown. -/
def teardownWork (jobs workers : Nat) (d : Config Retiring Participant) : Nat :=
  (d.threads.map (Participant.rank jobs workers)).sum +
    10 * d.shared.shared.registry.queue.length + 2 * d.shared.shared.registry.jobs.size

omit [Kernel] in
theorem ownerStep_rank {i : Nat} {retiring retiring' : Retiring} {stage' : StopStage}
    (h : Retires settings base workers retiring ls stage)
    (hstep : ownerStep workers i retiring stage = some (retiring', stage')) :
    stage'.rank base.jobs.size workers.length + 10 * retiring'.shared.registry.queue.length +
        2 * retiring'.shared.registry.jobs.size <
      stage.rank base.jobs.size workers.length + 10 * retiring.shared.registry.queue.length +
        2 * retiring.shared.registry.jobs.size := by
  cases stage with
  | entered =>
    obtain ⟨-, hstep⟩ := locking_eq_some hstep
    split at hstep
    · cases hstep
      simp only [StopStage.rank]
      omega
    · cases hstep
      have hjobs : (retiring.shared.registry.jobs.entries.map (·.2)).length = base.jobs.size := by
        rw [List.length_map, h.jobs nofun]
        rfl
      simp only [StopStage.rank, hjobs]
      omega
  | cancelling todo =>
    cases todo with
    | nil =>
      cases hstep
      simp only [StopStage.rank, List.length_nil]
      omega
    | cons r todo =>
      obtain ⟨⟨shared', _⟩, hwrite, heq⟩ := Option.map_eq_some_iff.mp hstep
      cases heq
      obtain ⟨record, hr, rfl, -⟩ := Shared.onRecord_eq_some hwrite
      simp only [StopStage.rank, List.length_cons, Shared.write, Registry.write]
      omega
  | flagged =>
    cases hstep
    simp only [StopStage.rank]
    omega
  | joining rest =>
    cases rest with
    | nil =>
      cases hstep
      simp only [StopStage.rank, List.length_nil]
      omega
    | cons worker rest =>
      simp only [ownerStep] at hstep
      split at hstep <;> cases hstep
      simp only [StopStage.rank, List.length_cons]
      omega
  | clearing =>
    obtain ⟨-, hstep⟩ := locking_eq_some hstep
    cases hstep
    have hempty : (OrderedMap.empty : OrderedMap UInt64 JobRef).size = 0 := rfl
    simp only [StopStage.rank, List.length_nil, hempty]
    omega
  | returned => cases hstep

/-- Every step of a teardown lowers what is left to do. -/
theorem teardownWork_step {n i : Nat} {p p' : Participant} {choice : Choice} {retiring' : Retiring}
    (h : InRetirement settings base workers n d)
    (hmoves : (teardown settings workers).Moves d i p choice retiring' p') :
    teardownWork base.jobs.size workers.length ⟨retiring', d.threads.set i p'⟩ <
      teardownWork base.jobs.size workers.length d := by
  obtain ⟨ls, stage, hthreads, -, hretires⟩ := h
  have hsum := sum_set_add (Participant.rank base.jobs.size workers.length) p' hmoves.thread
  rcases teardown_move hthreads hmoves with
    ⟨l, l', shared', rfl, rfl, hservice, rfl, -⟩ | ⟨stage', rfl, rfl, howner, -⟩
  · have hrank := rank_step hservice hretires.outline (hretires.thread hservice).terminated
    simp only [teardownWork, Participant.rank] at hsum hrank ⊢
    omega
  · have hrank := ownerStep_rank hretires howner
    simp only [teardownWork, Participant.rank] at hsum ⊢
    omega

/-! ## Nobody sleeps through the end -/

omit [Kernel] in
/-- The workers have been notified. -/
def StopStage.roused : StopStage → Bool
  | joining _ => true
  | clearing => true
  | returned => true
  | _ => false

omit [Kernel] in
theorem owner_eq {stage' : StopStage}
    (h : Participant.owner stage' ∈ ls.map Participant.thread ++ [.owner stage]) :
    stage' = stage := by
  rcases List.mem_append.mp h with hmem | hmem
  · obtain ⟨l, -, heq⟩ := List.mem_map.mp hmem
    cases heq
  · cases List.mem_singleton.mp hmem
    rfl

omit [Kernel] in
/-- While no call is in flight, everybody who sleeps is an idle worker. -/
theorem Retires.waits {e : Config (Waiting Retiring Condition) Participant}
    (h : Retires settings base workers e.shared.shared ls stage)
    (hthreads : e.threads = ls.map .thread ++ [.owner stage]) (hqueued : Queued teardownMonitor e)
    {j : Nat} {k : Condition} (hmem : (j, k) ∈ e.shared.waiters) : k = .ready := by
  obtain ⟨p, hp, hwaits⟩ := hqueued.waits hmem
  have hp := List.mem_of_getElem? hp
  rw [hthreads] at hp
  rcases List.mem_append.mp hp with hp | hp
  · obtain ⟨l, hl, rfl⟩ := List.mem_map.mp hp
    cases k with
    | ready => rfl
    | terminalChanged r =>
      obtain ⟨request, s, running, rfl⟩ := waits_terminalChanged_iff.mp hwaits
      obtain ⟨ending, response, heq⟩ := (h.settled _ hl).returned
      cases heq
  · rw [List.mem_singleton.mp hp] at hwaits
    cases hwaits

omit [Kernel] in
/-- The step that rouses the workers. -/
theorem ownerStep_roused {i : Nat} {retiring retiring' : Retiring} {next : StopStage}
    (h : Retires settings base workers retiring ls stage)
    (hstep : ownerStep workers i retiring stage = some (retiring', next))
    (hbefore : ¬ stage.roused = true) (hafter : next.roused = true) :
    stage = .flagged ∧ next = .joining workers := by
  cases stage with
  | entered =>
    obtain ⟨-, hstep⟩ := locking_eq_some hstep
    split at hstep
    · rename_i hstopping
      exact absurd rfl (h.stopping.mp hstopping)
    · cases hstep
      cases hafter
  | cancelling todo =>
    cases todo with
    | nil =>
      cases hstep
      cases hafter
    | cons r todo =>
      obtain ⟨result, -, heq⟩ := Option.map_eq_some_iff.mp hstep
      cases heq
      cases hafter
  | flagged =>
    cases hstep
    exact ⟨rfl, rfl⟩
  | _ => exact absurd rfl hbefore

/-- Once the workers have been notified, nobody sleeps. A worker that was asleep has been woken,
and one that comes to its wait finds the flag up. -/
theorem roused_of_leads {n : Nat} {e e' : Config (Waiting Retiring Condition) Participant}
    (h : InRetirement settings base workers n e.guarded) (hqueued : Queued teardownMonitor e)
    (hleads : (monitoredTeardown settings workers).Leads (Wake.Allowed fun _ => True) e e')
    (he : ∀ stage, Participant.owner stage ∈ e.threads → stage.roused = true →
      e.shared.waiters = []) :
    ∀ stage, Participant.owner stage ∈ e'.threads → stage.roused = true →
      e'.shared.waiters = [] := by
  refine hleads.induct (motive := fun e' => ∀ stage, Participant.owner stage ∈ e'.threads →
    stage.roused = true → e'.shared.waiters = []) he ?_ ?_
  · intro e₁ request
    cases request
  · intro e₁ i p choice waiting' p' he₁ ih _ hmoves stage' hstage' hroused
    obtain ⟨ls, stage, hthreads, -, hretires⟩ := h.of_leads (Program.Leads.guarded he₁)
    have hqueued₁ := Program.Leads.queued he₁ hqueued
    have hthreads : e₁.threads = ls.map .thread ++ [.owner stage] := hthreads
    cases hmoves.monitored with
    | @step choice₀ chosen retiring' _ hawake hstep =>
      have hsub := Notice.wake_sublist (teardownMonitor.notifies p p') chosen e₁.shared.waiters
      have hmoves₀ : (teardown settings workers).Moves e₁.guarded i p choice₀ retiring' p' :=
        ⟨hmoves.thread, hstep⟩
      have hmem : Participant.owner stage ∈ e₁.threads := by simp [hthreads]
      have hguarded : e₁.guarded.threads = ls.map .thread ++ [.owner stage] := hthreads
      rcases teardown_move hguarded hmoves₀ with
        ⟨l, l', shared', rfl, rfl, -, -, hset⟩ | ⟨next, rfl, rfl, howner, hset⟩
      · rw [show e₁.threads.set i _ = _ from hset] at hstage'
        rw [owner_eq hstage'] at hroused
        exact List.sublist_nil.mp (ih stage hmem hroused ▸ hsub)
      · rw [show e₁.threads.set i _ = _ from hset] at hstage'
        rw [owner_eq hstage'] at hroused
        by_cases hbefore : stage.roused = true
        · exact List.sublist_nil.mp (ih stage hmem hbefore ▸ hsub)
        · -- The workers are notified in this very step.
          obtain ⟨rfl, rfl⟩ := ownerStep_roused hretires howner hbefore hroused
          refine List.eq_nil_iff_forall_not_mem.mpr ?_
          rintro ⟨j, k⟩ hwaiter
          have hk := hretires.waits hthreads hqueued₁ (hsub.subset hwaiter)
          subst hk
          exact Notice.not_mem_wake_all chosen hwaiter
    | sleep hawake hwaits hlockable hfalse =>
      rw [set_self hmoves.thread] at hstage'
      have hp := List.mem_of_getElem? hmoves.thread
      rw [hthreads] at hstage' hp
      rw [owner_eq hstage'] at hroused
      rcases List.mem_append.mp hp with hp | hp
      · obtain ⟨l, hl, rfl⟩ := List.mem_map.mp hp
        have hstopping : e₁.shared.shared.shared.registry.stopping = true :=
          hretires.stopping.mpr (by rintro rfl; cases hroused)
        cases l with
        | worker before =>
          cases before with
          | idle => simp [teardownMonitor, monitor, hstopping] at hfalse
          | _ => cases hwaits
        | call request before =>
          obtain ⟨ending, response, rfl⟩ := (hretires.settled _ hl).returned
          cases hwaits
      · rw [List.mem_singleton.mp hp] at hwaits
        cases hwaits
    | spurious hasleep =>
      rw [set_self hmoves.thread] at hstage'
      simp [ih stage' hstage' hroused]

end Runs

/-! ## What is left -/

/-- No participant can go on, unless one wakes up for no reason. -/
def TeardownStuck (settings : Settings) (workers : List Nat)
    (e : Config (Waiting Retiring Condition) Participant) : Prop :=
  ∀ i choice, choice.Eager → (monitoredTeardown settings workers).next e (.move i choice) = none

/-- What `stop` leaves of a service: no worker, no waiter, no retained job. Each record is as
execution has left it, and has ended or was never popped; if it was retained, its cancellation
was requested. -/
structure Retired (c : Config (Waiting Shared Condition) Thread)
    (e : Config (Waiting Retiring Condition) Participant) : Prop where
  returned : e.threads[c.threads.length]? = some (.owner .returned)
  exited : ∀ {i : Nat} {stage : WorkerStage}, e.threads[i]? = some (.thread (.worker stage)) →
    stage = .exited
  waiters : e.shared.waiters = []
  empty : e.shared.shared.shared.registry.queue = [] ∧
    e.shared.shared.shared.registry.jobs = OrderedMap.empty
  records : ∀ {r : JobRef} {record : JobRecord},
    c.shared.shared.registry.records[r]? = some record →
    e.shared.shared.shared.registry.At r fun record' => record.Follows record' ∧
      (terminal record'.state = true ∨ record'.state = .queued) ∧
      ((∃ key, c.shared.shared.registry.jobs.find? key = some r) → record'.cancelled = true)

section Stuck

variable {workers : List Nat} {e : Config (Waiting Retiring Condition) Participant}
  {base : Registry} {ls : List Thread} {stage : StopStage}

theorem TeardownStuck.thread (h : TeardownStuck settings workers e) {i : Nat} {l : Thread}
    (hl : e.threads[i]? = some (.thread l)) (hwaiters : e.shared.waiters = []) :
    ¬ Enabled settings i e.shared.shared.shared l := by
  rintro ⟨choice, hsome⟩
  have hnone := h i (.step choice 0) trivial
  obtain ⟨result, hresult⟩ := Option.isSome_iff_exists.mp hsome
  have hawake : e.shared.asleep i = false := by simp [Waiting.asleep, hwaiters]
  simp [monitoredTeardown, Program.next, Program.monitored, hl, hawake, teardown, hresult] at hnone

theorem TeardownStuck.owner (h : TeardownStuck settings workers e)
    (hqueued : Queued teardownMonitor e) {i : Nat} (hl : e.threads[i]? = some (.owner stage)) :
    ownerStep workers i e.shared.shared stage = none := by
  have hawake : e.shared.asleep i = false := by
    rw [Bool.eq_false_iff]
    intro hasleep
    obtain ⟨k, hmem⟩ := Waiting.asleep_iff.mp hasleep
    obtain ⟨p, hp, hwaits⟩ := hqueued.waits hmem
    cases hl.symm.trans hp
    cases hwaits
  have hnone := h i (.step (.go fun _ => false) 0) trivial
  simpa [monitoredTeardown, Program.next, Program.monitored, hl, hawake, teardown] using hnone

/-- A worker that has been notified does not stop before it has left its loop. -/
theorem Retires.worker_moves (h : Retires settings base workers e.shared.shared ls stage)
    (hroused : stage.roused = true) {i : Nat} {before : WorkerStage}
    (hl : ls[i]? = some (.worker before)) (hrunning : before ≠ .exited) :
    Enabled settings i e.shared.shared.shared (.worker before) := by
  have hmutex : e.shared.shared.shared.registryMutex = none := by
    by_contra hlocked
    obtain ⟨todo, rfl⟩ := h.locked hlocked
    cases hroused
  have hstopping : e.shared.shared.shared.registry.stopping = true :=
    h.stopping.mpr (by rintro rfl; cases hroused)
  have hclaim : (Thread.worker before).RegistryClaim True i e.shared.shared.shared.registryMutex
      e.shared.shared.shared.registry := h.outline.thread hl
  have hnamed : ∀ r ∈ before.phase.owned, e.shared.shared.shared.registry.At r fun _ => True :=
    fun r hr => (hclaim r hr).1.imp fun _ _ => trivial
  refine (enabled_worker h.terminated hmutex hnamed).resolve_right fun hresting => ?_
  cases before with
  | idle => exact absurd (hstopping.symm.trans hresting.1) (by decide)
  | exited => exact hrunning rfl
  | _ => exact hresting

/-- `stop` stops nowhere but at its end. -/
theorem TeardownStuck.returned (h : TeardownStuck settings workers e)
    (hretires : Retires settings base workers e.shared.shared ls stage)
    (hthreads : e.threads = ls.map .thread ++ [.owner stage]) (hqueued : Queued teardownMonitor e)
    (hwaiters : stage.roused = true → e.shared.waiters = [])
    (hbase : base.Sound settings) (hworkers : ∀ w ∈ workers, w < ls.length) :
    stage = .returned := by
  have hlast : e.threads[ls.length]? = some (.owner stage) := by simp [hthreads]
  have hnone := h.owner hqueued hlast
  have hunlocked : (∀ todo, stage ≠ .cancelling todo) →
      e.shared.shared.shared.registryMutex = none := by
    intro hstage
    by_contra hlocked
    obtain ⟨todo, heq⟩ := hretires.locked hlocked
    exact hstage todo heq
  cases stage with
  | entered =>
    have hstopping : e.shared.shared.shared.registry.stopping = false := by
      rw [Bool.eq_false_iff]
      exact fun hstopping => absurd rfl (hretires.stopping.mp hstopping)
    have hfree := hunlocked (by simp)
    simp [ownerStep, locking, hfree, hstopping] at hnone
  | cancelling todo =>
    cases todo with
    | nil => cases hnone
    | cons r todo =>
      obtain ⟨⟨key, _⟩, hentry, rfl⟩ := List.mem_map.mp (hretires.todo (List.mem_cons_self ..))
      have hat := hbase.keyed ((OrderedMap.mem_entries_iff_find? ..).mp hentry)
      obtain ⟨record, hr, -⟩ := hretires.at_of_base (hat.imp fun _ _ => trivial)
      simp [ownerStep, Shared.onRecord, hr] at hnone
  | flagged => cases hnone
  | joining rest =>
    cases rest with
    | nil => cases hnone
    | cons worker rest =>
      have hexited : worker ∉ e.shared.shared.exited := by
        intro hexited
        simp [ownerStep, hexited] at hnone
      have hworker := hretires.pending (List.mem_cons_self ..)
      obtain ⟨l, hl⟩ : ∃ l, ls[worker]? = some l :=
        ⟨_, List.getElem?_eq_getElem (hworkers worker hworker)⟩
      rw [← hretires.exited hl] at hexited
      have hkind := (hretires.isWorker hl).mpr hworker
      cases l with
      | call request before => cases hkind
      | worker before =>
        have hi : e.threads[worker]? = some (.thread (.worker before)) := by
          rw [hthreads, List.getElem?_append_left (by simpa using hworkers worker hworker),
            List.getElem?_map, hl]
          rfl
        refine absurd (hretires.worker_moves rfl hl ?_) (h.thread hi (hwaiters rfl))
        rintro rfl
        exact hexited rfl
  | clearing =>
    have hfree := hunlocked (by simp)
    simp [ownerStep, locking, hfree] at hnone
  | returned => rfl

omit [Kernel] in
/-- When `stop` has returned, this is what is left. -/
theorem Retires.retired {c : Config (Waiting Shared Condition) Thread} {workers : List Nat}
    {ls : List Thread}
    (h : Retires settings c.shared.shared.registry workers e.shared.shared ls .returned)
    (hthreads : e.threads = ls.map .thread ++ [.owner .returned])
    (hlength : ls.length = c.threads.length) (hwaiters : e.shared.waiters = []) : Retired c e where
  returned := by simp [hthreads, ← hlength]
  exited := by
    intro i before hi
    rw [hthreads] at hi
    rcases getElem?_snoc hi with hi | ⟨-, heq⟩
    · rw [List.getElem?_map] at hi
      obtain ⟨l, hl, heq⟩ := Option.map_eq_some_iff.mp hi
      cases heq
      have hexited := (h.joined i ((h.isWorker hl).mp rfl)).resolve_left List.not_mem_nil
      rw [← h.exited hl] at hexited
      exact eq_exited_of_hasExited hexited
    · cases heq
  waiters := hwaiters
  empty := h.cleared rfl
  records := by
    intro r record hr
    obtain ⟨record', hr', hfollows⟩ := h.follows hr
    refine ⟨record', hr', hfollows, ?_, ?_⟩
    · cases hterminal : terminal record'.state with
      | true => exact Or.inl rfl
      | false =>
        refine Or.inr ?_
        rcases h.held ⟨record', hr', hterminal⟩ with hqueue | ⟨l, hl, howned⟩ | ⟨-, hqueued⟩
        · rw [(h.cleared rfl).1] at hqueue
          cases hqueue
        · -- A worker that has left its loop holds nothing.
          obtain ⟨i, hi⟩ := List.getElem?_of_mem hl
          cases l with
          | call request before =>
            obtain ⟨ending, response, rfl⟩ := (h.settled _ hl).returned
            cases howned
          | worker before =>
            have hexited := (h.joined i ((h.isWorker hi).mp rfl)).resolve_left List.not_mem_nil
            rw [← h.exited hi] at hexited
            obtain rfl := eq_exited_of_hasExited hexited
            cases howned
        · exact hqueued.of_some hr'
    · rintro ⟨key, hfind⟩
      have hmem : r ∈ c.shared.shared.registry.jobs.entries.map (·.2) :=
        List.mem_map.mpr ⟨(key, r), (OrderedMap.mem_entries_iff_find? ..).mpr hfind, rfl⟩
      exact ((h.requested r hmem).resolve_left List.not_mem_nil).of_some hr'

end Stuck

omit [Kernel] in
theorem Retirable.queued_retire {c : Config (Waiting Shared Condition) Thread}
    (h : Retirable settings c) : Queued teardownMonitor (retire c) where
  waits := by
    intro i k hmem
    obtain ⟨l, hl, hwaits⟩ := h.queued.waits hmem
    have hi := (List.getElem?_eq_some_iff.mp hl).1
    refine ⟨.thread l, ?_, hwaits⟩
    rw [retire, List.getElem?_append_left (by simpa using hi), List.getElem?_map, hl]
    rfl
  nodup := h.queued.nodup

/-- `stop` returns, and every worker has been joined by then. However the workers and the thread
that stops them are scheduled, and wherever the workers were when it began, there are at most so
many steps if no thread wakes up for no reason, and the only place where they come to a stop is
the end of `stop`: every worker has left its loop, nobody sleeps, the queue and the map are empty,
every job has ended or was never started, and each job that was retained was cancelled. -/
theorem stop_retires_registry {c : Config (Waiting Shared Condition) Thread}
    (h : Retirable settings c) {acts : List (Act (Wake Choice) Empty)}
    {e : Config (Waiting Retiring Condition) Participant}
    (hacts : ∀ act ∈ acts, ∃ i choice, act = .move i choice ∧ choice.Eager)
    (hrun : (monitoredTeardown settings (positions Thread.isWorker c.threads)).run (retire c) acts =
      some e) :
    acts.length ≤ effort (teardownWork c.shared.shared.registry.jobs.size
      (positions Thread.isWorker c.threads).length) (retire c) ∧
    (TeardownStuck settings (positions Thread.isWorker c.threads) e → Retired c e) := by
  have hbound := length_le_effort
    (teardownWork c.shared.shared.registry.jobs.size
      (positions Thread.isWorker c.threads).length)
    hacts hrun h.queued_retire fun hleads hmoves =>
      teardownWork_step (h.inRetirement.of_leads hleads) hmoves
  have hleads : (monitoredTeardown settings (positions Thread.isWorker c.threads)).Leads
      (Wake.Allowed fun _ => True) (retire c) e := by
    refine ⟨acts, fun act hact => ?_, hrun⟩
    obtain ⟨i, choice, rfl, -⟩ := hacts act hact
    cases choice <;> trivial
  refine ⟨by omega, fun hstuck => ?_⟩
  have hqueued := Program.Leads.queued hleads h.queued_retire
  obtain ⟨ls, stage, hthreads, hlength, hretires⟩ :=
    h.inRetirement.of_leads (Program.Leads.guarded hleads)
  have hthreads : e.threads = ls.map .thread ++ [.owner stage] := hthreads
  have hroused : stage.roused = true → e.shared.waiters = [] := by
    refine roused_of_leads h.inRetirement h.queued_retire hleads ?_ stage (by simp [hthreads])
    intro stage' hstage' hroused'
    rw [show stage' = .entered from owner_eq hstage'] at hroused'
    cases hroused'
  have hworkers : ∀ w ∈ positions Thread.isWorker c.threads, w < ls.length := by
    intro w hw
    obtain ⟨l, hl, -⟩ := mem_positions.mp hw
    rw [hlength]
    exact (List.getElem?_eq_some_iff.mp hl).1
  obtain rfl := hstuck.returned hretires hthreads hqueued hroused h.outline.shared hworkers
  exact hretires.retired hthreads hlength (hroused rfl)

omit [Kernel] in
/-- The participant has come to its end. -/
def Participant.isOver : Participant → Bool
  | thread l => l.isOver
  | owner .returned => true
  | owner _ => false

theorem teardownStuck_of_rests {workers : List Nat}
    {e : Config (Waiting Retiring Condition) Participant}
    (h : e.rests Participant.isOver = true) : TeardownStuck settings workers e := by
  refine fun i _ heager => next_eq_none_of_rests ?_ ?_ h i heager
  · intro i retiring participant choice hover
    cases participant with
    | thread l => simp [teardown, threadStep_of_isOver i retiring.shared choice hover]
    | owner stage =>
      cases stage with
      | returned => rfl
      | _ => cases hover
  · intro participant hover
    cases participant with
    | thread l => exact waits_of_isOver hover
    | owner stage => rfl

omit [Kernel] in
/-- The second thread of a constructor could not be started while the first worker already sleeps;
the registry comes down in seven steps. And a service comes down while one worker sleeps and the
other was notified of a job. -/
theorem stop_retires_registry_unstarted :
    (∃ e : Config (Waiting Retiring Condition) Participant,
      e.threads = [.thread (.worker .exited), .owner .returned] ∧
        Retired ⟨⟨Shared.initial, [(0, .ready)]⟩, [.worker .idle]⟩ e) ∧
    ∃ c e, @MonitoredReachable sampleKernel sampleSettings c ∧
      c.shared.shared.registry.queue = [0] ∧ c.shared.waiters = [(0, .ready)] ∧
      e.shared.shared.exited = [0, 1] ∧ Retired c e := by
  let _ : Kernel := sampleKernel
  refine ⟨?_, ?_⟩
  · let acts : List (Act (Wake Choice) Empty) :=
      List.replicate 3 (plainWake 1 0) ++ [plainWake 0 0] ++ List.replicate 3 (plainWake 1 0)
    have hacts : ∀ act ∈ acts, ∃ i choice, act = .move i choice ∧ choice.Eager := by
      simp [acts, plainWake, Wake.Eager]
    have hstarted : Retirable sampleSettings ⟨⟨Shared.initial, [(0, .ready)]⟩, [.worker .idle]⟩ :=
      retirable_of_started sampleSettings 1 (show [0].Nodup by simp) (by simp)
    have hrun : (monitoredTeardown sampleSettings [0]).run
        (retire ⟨⟨Shared.initial, [(0, .ready)]⟩, [.worker .idle]⟩) acts = some _ := rfl
    obtain ⟨-, hretired⟩ := stop_retires_registry hstarted hacts hrun
    exact ⟨_, rfl, hretired (teardownStuck_of_rests rfl)⟩
  · let acts : List (Act (Wake Choice) Empty) :=
      List.replicate 4 (plainWake 4 0) ++ [plainWake 1 0, plainWake 0 0] ++
        List.replicate 4 (plainWake 4 0)
    have hacts : ∀ act ∈ acts, ∃ i choice, act = .move i choice ∧ choice.Eager := by
      simp [acts, plainWake, Wake.Eager]
    have htest : ((monitoredService sampleSettings).run
        ⟨⟨Shared.initial, []⟩, (initial sampleSettings).threads⟩
        (sampleWakes 1 ++ [plainWake 2 0, plainWake 3 0])).any (fun c =>
          ((∀ l ∈ c.threads, l.Settled) ∧ c.shared.shared.registry.queue = [0] ∧
            c.shared.waiters = [(0, .ready)]) ∧
          ((monitoredTeardown sampleSettings (positions Thread.isWorker c.threads)).run (retire c)
            acts).any (fun e => e.shared.shared.exited = [0, 1] ∧ e.rests Participant.isOver)) =
        true := by decide +kernel
    obtain ⟨c, hc, htest⟩ := (Option.any_eq_true _ _).mp htest
    obtain ⟨⟨hsettled, hqueue, hwaiters⟩, htest⟩ := of_decide_eq_true htest
    obtain ⟨e, he, htest⟩ := (Option.any_eq_true _ _).mp htest
    obtain ⟨hexited, hrests⟩ := of_decide_eq_true htest
    have hreachable : MonitoredReachable sampleSettings c :=
      MonitoredReachable.run (Program.Leads.refl _) _ hc
    obtain ⟨-, hretired⟩ := stop_retires_registry (hreachable.retirable hsettled) hacts he
    exact ⟨c, e, hreachable, hqueue, hwaiters, hexited, hretired (teardownStuck_of_rests hrests)⟩

/-! ## Nothing starts -/

section Unstarted

variable {base : Registry} {workers : List Nat} {r : JobRef}

/-- The flag is up, and the record is queued and in no one's hands. -/
structure Unstarted (r : JobRef) (d : Config Retiring Participant) : Prop where
  stopping : d.shared.shared.registry.stopping = true
  queued : d.shared.shared.registry.At r fun record => record.state = .queued
  free : ∀ l, Participant.thread l ∈ d.threads → r ∉ l.owned

/-- A worker does not take up a record while the flag is up. -/
theorem owned_of_stopping {c : Config Shared Thread} {i : Nat} {l l' : Thread} {choice : Choice}
    {shared' : Shared} (hmoves : (service settings).Moves c i l choice shared' l')
    (hsettled : l.Settled) (hstopping : c.shared.registry.stopping = true) (hr : r ∈ l'.owned) :
    r ∈ l.owned := by
  obtain ⟨before, after, rfl, rfl, -, hmove⟩ := settled_move hmoves hsettled
  cases hmove with
  | pop =>
    rcases idle_moves hmoves with ⟨-, -, heq⟩ | ⟨hnot, -⟩
    · cases heq
    · exact absurd (hstopping.symm.trans hnot) (by decide)
  | begin => exact hr
  | unexpected _ _ _ _ _ hphase =>
    rcases hphase with hphase | hphase <;> simp_all [Thread.owned, Phase.owned, WorkerStage.phase]
  | advance hphase =>
    rcases hphase with hphase | ⟨r', hphase, hphase'⟩ <;> simp_all [Thread.owned, Phase.owned]
  | publish hphase _ _ hphase' =>
    rcases hphase' with hphase' | ⟨hphase', -⟩
    · simp [Thread.owned, hphase', Phase.owned] at hr
    · simp only [Thread.owned, hphase', Phase.owned, List.mem_singleton] at hr
      exact hr ▸ mem_owned_of_phase hphase

omit [Kernel] in
/-- `stop` does not take its flag back, and publishes in no record. -/
theorem ownerStep_frame {i : Nat} {retiring retiring' : Retiring} {stage stage' : StopStage}
    (hstep : ownerStep workers i retiring stage = some (retiring', stage')) :
    (retiring.shared.registry.stopping = true → retiring'.shared.registry.stopping = true) ∧
      retiring.shared.registry.Evolves [] retiring'.shared.registry := by
  cases stage with
  | entered =>
    obtain ⟨-, hstep⟩ := locking_eq_some hstep
    split at hstep <;> cases hstep
    · exact ⟨id, .refl _ _⟩
    · exact ⟨fun _ => rfl, .of_records_eq rfl id id⟩
  | cancelling todo =>
    cases todo with
    | nil =>
      cases hstep
      exact ⟨id, .refl _ _⟩
    | cons r todo =>
      obtain ⟨⟨shared', _⟩, hwrite, heq⟩ := Option.map_eq_some_iff.mp hstep
      cases heq
      obtain ⟨record, hr, rfl, -⟩ := Shared.onRecord_eq_some hwrite
      exact ⟨id, .write hr (JobRecord.follows_cancel _) fun _ => rfl⟩
  | flagged =>
    cases hstep
    exact ⟨id, .refl _ _⟩
  | joining rest =>
    cases rest with
    | nil =>
      cases hstep
      exact ⟨id, .refl _ _⟩
    | cons worker rest =>
      simp only [ownerStep] at hstep
      split at hstep <;> cases hstep
      exact ⟨id, .refl _ _⟩
  | clearing =>
    obtain ⟨-, hstep⟩ := locking_eq_some hstep
    cases hstep
    exact ⟨id, .of_records_eq rfl nofun nofun⟩
  | returned => cases hstep

theorem Unstarted.of_leads {n : Nat} {d d' : Config Retiring Participant}
    (hd : InRetirement settings base workers n d) (h : Unstarted r d)
    (hleads : (teardown settings workers).Leads (fun _ => True) d d') : Unstarted r d' := by
  refine hleads.induct (motive := Unstarted r) h ?_ ?_
  · intro d₁ request
    cases request
  · intro d₁ i p choice retiring' p' hd₁ ih _ hmoves
    obtain ⟨ls, stage, hthreads, -, hretires⟩ := hd.of_leads hd₁
    rcases teardown_move hthreads hmoves with
      ⟨l, l', shared', rfl, rfl, hservice, rfl, hset⟩ | ⟨stage', rfl, rfl, howner, hset⟩
    · have hl : ls[i]? = some l := hservice.thread
      have hsettled := hretires.settled l (List.mem_of_getElem? hl)
      have howned : r ∉ l.owned := ih.free l (List.mem_of_getElem? hmoves.thread)
      obtain ⟨before, after, rfl, rfl, -, hmove⟩ := settled_move hservice hsettled
      refine ⟨hmove.frame.2.2.1.trans ih.stopping, ?_, ?_⟩
      · refine (registry_evolves hservice hretires.outline).at_unowned howned ih.queued ?_
        intro record record' _ hpublished hstate
        exact (congrArg Prod.fst hpublished).trans hstate
      · intro m hm
        rcases List.mem_or_eq_of_mem_set hm with hm | heq
        · exact ih.free m hm
        · cases heq
          exact fun hr => howned (owned_of_stopping hservice hsettled ih.stopping hr)
    · obtain ⟨hstopping, hevolves⟩ := ownerStep_frame howner
      refine ⟨hstopping ih.stopping, ?_, ?_⟩
      · refine hevolves.at_unowned List.not_mem_nil ih.queued ?_
        intro record record' _ hpublished hstate
        exact (congrArg Prod.fst hpublished).trans hstate
      · intro m hm
        rcases List.mem_or_eq_of_mem_set hm with hm | heq
        · exact ih.free m hm
        · cases heq

end Unstarted

/-- No job starts once the flag is up. Whatever is queued then stays queued: no worker takes it,
now or later, and `stop` drops it as it is. -/
theorem stop_starts_nothing {c : Config (Waiting Shared Condition) Thread}
    (h : Retirable settings c) {e e' : Config (Waiting Retiring Condition) Participant}
    (he : (monitoredTeardown settings (positions Thread.isWorker c.threads)).Leads
      (Wake.Allowed fun _ => True) (retire c) e)
    (hstopping : e.shared.shared.shared.registry.stopping = true)
    (he' : (monitoredTeardown settings (positions Thread.isWorker c.threads)).Leads
      (Wake.Allowed fun _ => True) e e') :
    ∀ r ∈ e.shared.shared.shared.registry.queue,
      (e'.shared.shared.shared.registry.At r fun record => record.state = .queued) ∧
        ∀ stage, Participant.thread (.worker stage) ∈ e'.threads → r ∉ stage.phase.owned := by
  intro r hr
  have hretirement := h.inRetirement.of_leads (Program.Leads.guarded he)
  have hunstarted : Unstarted r e.guarded := by
    obtain ⟨ls, stage, hthreads, -, hretires⟩ := hretirement
    have hsound : e.shared.shared.shared.registry.Sound settings := hretires.outline.shared
    refine ⟨hstopping, (hsound.queued r hr).imp fun _ hrecord => hrecord.1, fun l hl howned => ?_⟩
    rw [hthreads] at hl
    rcases List.mem_append.mp hl with hl | hl
    · obtain ⟨l', hl', heq⟩ := List.mem_map.mp hl
      cases heq
      obtain ⟨i, hi⟩ := List.getElem?_of_mem hl'
      have hclaim : l.RegistryClaim True i e.shared.shared.shared.registryMutex
          e.shared.shared.shared.registry := hretires.outline.thread hi
      exact (hclaim.apart howned).2 hr
    · cases List.mem_singleton.mp hl
  have hlater := hunstarted.of_leads hretirement (Program.Leads.guarded he')
  exact ⟨hlater.queued, fun stage hstage => hlater.free (.worker stage) hstage⟩

omit [Kernel] in
/-- The worker that was notified of the only job finds the stopping flag and exits. -/
theorem stop_starts_nothing_notified :
    ∃ c e e', Retirable sampleSettings c ∧
      (@monitoredTeardown sampleKernel sampleSettings (positions Thread.isWorker c.threads)).Leads
        (Wake.Allowed fun _ => True) (retire c) e ∧
      (@monitoredTeardown sampleKernel sampleSettings (positions Thread.isWorker c.threads)).Leads
        (Wake.Allowed fun _ => True) e e' ∧
      e.shared.shared.shared.registry.queue = [0] ∧ e'.shared.shared.exited = [1] ∧
      e'.shared.shared.shared.registry.At 0 fun record => record.state = .queued := by
  let _ : Kernel := sampleKernel
  let stop (c : Config (Waiting Shared Condition) Thread) :=
    monitoredTeardown sampleSettings (positions Thread.isWorker c.threads)
  have htest : ((monitoredService sampleSettings).run
      ⟨⟨Shared.initial, []⟩, (initial sampleSettings).threads⟩
      (sampleWakes 1 ++ [plainWake 2 0, plainWake 3 0])).any (fun c =>
        (∀ l ∈ c.threads, l.Settled) ∧
          ((stop c).run (retire c) (List.replicate 3 (plainWake 4 0))).any (fun e =>
            (e.shared.shared.shared.registry.stopping = true ∧
              e.shared.shared.shared.registry.queue = [0]) ∧
            ((stop c).run e [plainWake 1 0]).any fun e' =>
              e'.shared.shared.exited = [1])) = true := by decide +kernel
  obtain ⟨c, hc, htest⟩ := (Option.any_eq_true _ _).mp htest
  obtain ⟨hsettled, htest⟩ := of_decide_eq_true htest
  obtain ⟨e, he, htest⟩ := (Option.any_eq_true _ _).mp htest
  obtain ⟨⟨hstopping, hqueue⟩, htest⟩ := of_decide_eq_true htest
  obtain ⟨e', he', hexited⟩ := (Option.any_eq_true _ _).mp htest
  have hretirable : Retirable sampleSettings c :=
    MonitoredReachable.retirable (MonitoredReachable.run (Program.Leads.refl _) _ hc) hsettled
  have hleads : (stop c).Leads (Wake.Allowed fun _ => True) (retire c) e :=
    ⟨List.replicate 3 (plainWake 4 0), by simp [plainWake, Act.Allowed, Wake.Allowed], he⟩
  have hleads' : (stop c).Leads (Wake.Allowed fun _ => True) e e' :=
    ⟨[plainWake 1 0], by simp [plainWake, Act.Allowed, Wake.Allowed], he'⟩
  have hqueued := stop_starts_nothing hretirable hleads hstopping hleads' 0 (by simp [hqueue])
  exact ⟨c, e, e', hretirable, hleads, hleads', hqueue, of_decide_eq_true hexited, hqueued.1⟩

end PhotospiderDaemon.Orchestration
