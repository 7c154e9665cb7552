import PhotospiderDaemon.Orchestration.Moves

/-!
# Who holds a job record

A record that has not ended is in the queue, or a worker has popped it, or a close has taken
it out of the queue to settle it; never two of these. Whoever holds a record is the only
thread that publishes in it.

* `registryOutline`, `registryOutline_preserves`: the invariant and its one-step proof.
* `held_of_reachable`: every record that has not ended is in the queue or held.
* `registry_ownership`: what follows for every reachable configuration.
-/

namespace PhotospiderDaemon.Orchestration

open Foundation Ipc

/-! ## What threads hold -/

def Phase.owned : Phase → List JobRef
  | free => []
  | popped r => [r]
  | running r => [r]
  | fenced r => [r]

/-- The records taken from the queue that a close has not settled yet. -/
def CloseStage.settling : CloseStage → List JobRef
  | settlingQueued _ queued _ => queued
  | cancelling _ r queued _ => r :: queued
  | _ => []

/-- The records in which a thread may publish. -/
def Thread.owned : Thread → List JobRef
  | worker stage => stage.phase.owned
  | call _ (.close stage) => stage.settling
  | _ => []

/-- The record that a worker holds. -/
def Thread.held : Thread → List JobRef
  | worker stage => stage.phase.owned
  | call _ _ => []

def Thread.isWorker : Thread → Bool
  | worker _ => true
  | call _ _ => false

/-- A record that is not in the queue is in a state of one kind. -/
def Registry.Apart (registry : Registry) (r : JobRef) (p : JobState → Prop) : Prop :=
  (registry.At r fun record => p record.state) ∧ r ∉ registry.queue

/-- The state of the record that a worker holds. Only a failed allocation takes it into the
exception fence after its record was moved to `Cancelled`. -/
def Phase.Expects (faulty : Prop) : Phase → JobState → Prop
  | free, _ => True
  | popped _, state => state = .queued
  | running _, state => state = .running
  | fenced _, state => state = .running ∨ faulty ∧ state = .cancelled

/-- What a thread may rely on about the registry. -/
def Thread.RegistryClaim (faulty : Prop) (i : Nat) (mutex : Option Nat) (registry : Registry) :
    Thread → Prop
  | worker stage => ∀ r ∈ stage.phase.owned, registry.Apart r (stage.phase.Expects faulty)
  | call _ (.close stage) => stage.settling.Nodup ∧ ∀ r ∈ stage.settling,
      registry.Apart r (· = .queued) ∧ ∀ key, registry.jobs.find? key ≠ some r
  | call request (.lookup _ (.found r)) => registry.At r fun record => record.id = request.jobId
  | call request (.release (.found r)) =>
      mutex = some i ∧ registry.jobs.find? request.jobId.value = some r
  | call request (.release (.erasing r)) =>
      mutex = some i ∧ registry.jobs.find? request.jobId.value = some r ∧
        registry.At r fun record => terminal record.state = true
  | call request stage => ∀ value, stage.ending? = some (.produced value) →
      ∃ r, registry.At r fun record =>
        record.id = request.jobId ∧ record.state = .succeeded ∧ record.result = some value

/-- The proof outline of the registry. -/
def registryOutline (settings : Settings) (faulty : Prop) : Outline Shared Thread where
  shared shared := shared.registry.Sound settings
  thread i shared := Thread.RegistryClaim faulty i shared.registryMutex shared.registry
  pair l m := l.owned.Disjoint m.owned

/-! ## Claims under the steps of others -/

section Claims

variable {faulty : Prop} {i : Nat} {mutex mutex' : Option Nat} {registry registry' : Registry}
  {owned : List JobRef} {r : JobRef} {m : Thread}

/-- A record that a thread does not own keeps what it has published. -/
theorem Registry.Evolves.at_unowned {p q : JobRecord → Prop} (h : registry.Evolves owned registry')
    (hr : r ∉ owned) (hp : registry.At r p)
    (hpq : ∀ record record', record.Follows record' → record'.published = record.published →
      p record → q record') : registry'.At r q := by
  obtain ⟨record, hrecord, hp⟩ := hp
  obtain ⟨record', hrecord', hfollows, hpublished⟩ := h.record hrecord
  exact ⟨record', hrecord', hpq record record' hfollows (hpublished hr) hp⟩

theorem Registry.Evolves.at_id {id : JobId} (h : registry.Evolves owned registry')
    (hid : registry.At r fun record => record.id = id) :
    registry'.At r fun record => record.id = id := by
  obtain ⟨record, hrecord, hid⟩ := hid
  obtain ⟨record', hrecord', hfollows, -⟩ := h.record hrecord
  exact ⟨record', hrecord', hfollows.id_eq.trans hid⟩

theorem Registry.Evolves.apart {p : JobState → Prop} (h : registry.Evolves owned registry')
    (hr : r ∉ owned) (hapart : registry.Apart r p) : registry'.Apart r p := by
  obtain ⟨hat, hqueue⟩ := hapart
  refine ⟨h.at_unowned hr hat fun record record' _ hpublished hp => ?_, ?_⟩
  · rwa [show record'.state = record.state from congrArg Prod.fst hpublished]
  · intro hqueue'
    rcases h.queue hqueue' with hold | hnew
    · exact hqueue hold
    · exact absurd hnew (Nat.ne_of_lt hat.lt)

theorem Registry.Apart.imp {p q : JobState → Prop} (h : registry.Apart r p)
    (hpq : ∀ state, p state → q state) : registry.Apart r q :=
  ⟨h.1.imp fun record => hpq record.state, h.2⟩

/-- Whatever a thread owns has not ended, or its end is still being published. -/
theorem Thread.RegistryClaim.apart (h : m.RegistryClaim faulty i mutex registry)
    (hr : r ∈ m.owned) :
    registry.Apart r fun state =>
      state = .queued ∨ state = .running ∨ faulty ∧ state = .cancelled := by
  cases m with
  | worker stage =>
    refine (h r hr).imp fun state hstate => ?_
    change r ∈ stage.phase.owned at hr
    cases hphase : stage.phase with
    | free =>
      rw [hphase] at hr
      cases hr
    | popped r' =>
      rw [hphase] at hstate
      exact Or.inl hstate
    | running r' =>
      rw [hphase] at hstate
      exact Or.inr (Or.inl hstate)
    | fenced r' =>
      rw [hphase] at hstate
      exact Or.inr hstate
  | call request stage =>
    cases stage with
    | close stage => exact (h.2 r hr).1.imp fun state => Or.inl
    | _ => cases hr

/-- What a step of another thread does to a claim. -/
theorem Thread.RegistryClaim.other (h : m.RegistryClaim faulty i mutex registry)
    (hevolves : registry.Evolves owned registry') (hdisjoint : owned.Disjoint m.owned)
    (hsucceeded : ∀ r, registry.At r (fun record => record.state = .succeeded) → r ∉ owned)
    (hmutex : mutex = some i → mutex' = some i ∧ registry'.jobs = registry.jobs) :
    m.RegistryClaim faulty i mutex' registry' := by
  have hproduced : ∀ {request : Request} {stage : CallStage},
      (∀ value, stage.ending? = some (.produced value) → ∃ r, registry.At r fun record =>
        record.id = request.jobId ∧ record.state = .succeeded ∧ record.result = some value) →
      ∀ value, stage.ending? = some (.produced value) → ∃ r, registry'.At r fun record =>
        record.id = request.jobId ∧ record.state = .succeeded ∧ record.result = some value := by
    intro request stage hclaim value hending
    obtain ⟨r, hr⟩ := hclaim value hending
    refine ⟨r, hevolves.at_unowned (hsucceeded r (hr.imp fun _ h => h.2.1)) hr ?_⟩
    rintro record record' hfollows hpublished ⟨hid, hstate, hresult⟩
    have hstate' : record'.state = record.state := congrArg Prod.fst hpublished
    have hresult' : record'.result = record.result :=
      congrArg (fun published => published.2.2) hpublished
    exact ⟨hfollows.id_eq.trans hid, hstate'.trans hstate, hresult'.trans hresult⟩
  cases m with
  | worker stage => exact fun r hr => hevolves.apart (fun hmem => hdisjoint hmem hr) (h r hr)
  | call request stage =>
    cases stage with
    | close stage =>
      refine ⟨h.1, fun r hr => ?_⟩
      obtain ⟨hapart, hjobs⟩ := h.2 r hr
      refine ⟨hevolves.apart (fun hmem => hdisjoint hmem hr) hapart, fun key hkey => ?_⟩
      rcases hevolves.jobs hkey with hold | hnew
      · exact hjobs key hold
      · exact absurd hnew (Nat.ne_of_lt hapart.1.lt)
    | lookup kind stage =>
      cases stage with
      | entered => exact hproduced h
      | found r => exact hevolves.at_id h
    | release stage =>
      cases stage with
      | entered => exact hproduced h
      | found r =>
        obtain ⟨hown, hfind⟩ := h
        obtain ⟨hown', hjobs⟩ := hmutex hown
        exact ⟨hown', hjobs ▸ hfind⟩
      | erasing r =>
        obtain ⟨hown, hfind, record, hr, hterminal⟩ := h
        obtain ⟨hown', hjobs⟩ := hmutex hown
        obtain ⟨record', hr', hfollows, -⟩ := hevolves.record hr
        exact ⟨hown', hjobs ▸ hfind, record', hr', hfollows.terminal hterminal⟩
    | _ => exact hproduced h

/-- A result call that has succeeded has seen a record in `Succeeded`. -/
theorem Thread.RegistryClaim.produced {request : Request} {stage : CallStage}
    {value : ExecutionResult}
    (h : (Thread.call request stage).RegistryClaim faulty i mutex registry)
    (hending : stage.ending? = some (.produced value)) :
    ∃ r, registry.At r fun record =>
      record.id = request.jobId ∧ record.state = .succeeded ∧ record.result = some value := by
  cases stage with
  | ended ending => exact h value hending
  | returned ending response => exact h value hending
  | _ => cases hending

theorem Thread.RegistryClaim.ended {request : Request} {ending : Ending}
    (h : ∀ value, ending ≠ .produced value) :
    (Thread.call request (.ended ending)).RegistryClaim faulty i mutex registry :=
  fun value hproduced => absurd (Option.some.inj hproduced) (h value)

end Claims

/-! ## The invariant of one step -/

variable [Kernel] {settings : Settings}

section Step

variable {faulty : Prop} {c : Config Shared Thread} {i : Nat} {l l' : Thread} {choice : Choice}
  {shared' : Shared}

omit [Kernel] in
theorem mem_owned_of_phase {stage : WorkerStage} {r : JobRef}
    (h : stage.phase = .running r ∨ stage.phase = .fenced r) : r ∈ (Thread.worker stage).owned := by
  rcases h with h | h <;> simp [Thread.owned, h, Phase.owned]

theorem registry_evolves (hmoves : (service settings).Moves c i l choice shared' l')
    (hc : (registryOutline settings faulty).Holds c) :
    c.shared.registry.Evolves l.owned shared'.registry := by
  have hsound := hc.shared
  have hclaim := hc.thread hmoves.thread
  cases threadMove hmoves with
  | worker hmove =>
    cases hmove with
    | pop _ hqueue =>
      exact .of_records_eq rfl (fun h => h) fun h => hqueue ▸ List.mem_cons_of_mem _ h
    | begin hr hqueued =>
      exact .write hr (JobRecord.follows_begin hqueued) (absurd (List.mem_singleton_self _))
    | unexpected hr hqueued =>
      exact absurd ((hclaim _ (List.mem_singleton_self _)).1.of_some hr) hqueued
    | advance _ _ => exact .refl _ _
    | publish hphase hr hpublishes _ =>
      exact .write hr hpublishes.follows (absurd (mem_owned_of_phase hphase))
  | @call request _ _ _ hmove =>
    cases hmove with
    | closeDrained _ =>
      have hdrained := Registry.drain_spec hsound.keyed request.sessionId
      exact .of_records_eq rfl (fun h => (hdrained.jobs.mp h).1) fun h => (List.mem_filter.mp h).1
    | closeCancelling hr => exact .write hr (JobRecord.follows_cancel _) fun _ => rfl
    | closeSettled hr =>
      exact .write hr (JobRecord.follows_settle _) (absurd (List.mem_cons_self ..))
    | closeRequested hr =>
      exact .write hr (JobRecord.follows_cancelUnlessTerminal _) fun _ =>
        JobRecord.published_cancelUnlessTerminal _
    | submitEnded _ _ => exact .submit _ _ _ _ _ _ _
    | @lookupFinished kind r record fails _ hr =>
      obtain ⟨hfollows, hpublished⟩ := kind.finish_follows record fails
      exact .write hr hfollows fun _ => hpublished
    | releaseErased =>
      refine .of_records_eq rfl (fun {key r} h => ?_) fun h => h
      change (c.shared.registry.jobs.erase _).find? key = some r at h
      rw [OrderedMap.find?_erase] at h
      split at h
      · cases h
      · exact h
    | _ => exact .refl _ _

theorem registry_sound (hmoves : (service settings).Moves c i l choice shared' l')
    (hc : (registryOutline settings faulty).Holds c) : shared'.registry.Sound settings := by
  have hsound : c.shared.registry.Sound settings := hc.shared
  have hclaim : l.RegistryClaim faulty i c.shared.registryMutex c.shared.registry :=
    hc.thread hmoves.thread
  -- A record that its thread may publish in is not in the queue.
  have hapart : ∀ {r}, r ∈ l.owned → r ∉ c.shared.registry.queue := fun hr => (hclaim.apart hr).2
  cases threadMove hmoves with
  | worker hmove =>
    cases hmove with
    | pop _ hqueue => exact hsound.pop hqueue
    | @begin r record hr hqueued =>
      have hresult : record.result = none := hsound.result_none hr (by simp [hqueued])
      exact hsound.write hr rfl (fun h => absurd h (hapart (List.mem_singleton_self _)))
        fun _ => hresult
    | unexpected hr hqueued =>
      exact absurd ((hclaim _ (List.mem_singleton_self _)).1.of_some hr) hqueued
    | advance _ _ => exact hsound
    | publish hphase hr hpublishes _ =>
      have howned := mem_owned_of_phase hphase
      refine hsound.write hr hpublishes.identity (fun h => absurd h (hapart howned))
        fun hstate => ?_
      refine hpublishes.result hstate (hsound.result_none hr ?_)
      rcases (hclaim.apart howned).1.of_some hr with h | h | ⟨-, h⟩ <;> simp [h]
  | @call request _ _ _ hmove =>
    cases hmove with
    | closeDrained _ => exact hsound.drain (Registry.drain_spec hsound.keyed request.sessionId)
    | closeCancelling hr =>
      exact hsound.write_of_published_eq hr (JobRecord.follows_cancel _) rfl
    | closeSettled hr =>
      exact hsound.write hr rfl (fun h => absurd h (hapart (List.mem_cons_self ..))) fun _ => rfl
    | closeRequested hr =>
      exact hsound.write_of_published_eq hr (JobRecord.follows_cancelUnlessTerminal _)
        (JobRecord.published_cancelUnlessTerminal _)
    | submitEnded _ _ => exact hsound.submit _ _ _ _
    | @lookupFinished kind r record fails _ hr =>
      obtain ⟨hfollows, hpublished⟩ := kind.finish_follows record fails
      exact hsound.write_of_published_eq hr hfollows hpublished
    | releaseErased =>
      obtain ⟨-, hfind, hterminal⟩ := hclaim
      exact hsound.erase hfind hterminal
    | _ => exact hsound

/-- A release that owns the registry mutex keeps it, and the map with it. -/
theorem registry_kept (hmoves : (service settings).Moves c i l choice shared' l')
    (hc : (registryOutline settings faulty).Holds c) {j : Nat} (hne : i ≠ j)
    (hj : c.shared.registryMutex = some j) :
    shared'.registryMutex = some j ∧ shared'.registry.jobs = c.shared.registry.jobs := by
  have hclaim := hc.thread hmoves.thread
  have hfree : c.shared.registryMutex ≠ none := by simp [hj]
  cases threadMove hmoves with
  | worker hmove =>
    cases hmove with
    | pop hmutex _ => exact absurd hmutex hfree
    | _ => exact ⟨hj, rfl⟩
  | call hmove =>
    cases hmove with
    | closeDrained hmutex => exact absurd hmutex hfree
    | submitEnded hmutex _ => exact absurd hmutex hfree
    | releaseFound hmutex _ => exact absurd hmutex hfree
    | releaseRefused _ _ _ => exact absurd (Option.some.inj (hclaim.1.symm.trans hj)) hne
    | releaseErased => exact absurd (Option.some.inj (hclaim.1.symm.trans hj)) hne
    | _ => exact ⟨hj, rfl⟩

/-- A step owns what its thread owned, or takes it from the queue. -/
theorem owned_step (hmoves : (service settings).Moves c i l choice shared' l') {r : JobRef}
    (hr : r ∈ l'.owned) : r ∈ l.owned ∨ r ∈ c.shared.registry.queue := by
  cases threadMove hmoves with
  | worker hmove =>
    cases hmove with
    | pop _ hqueue =>
      obtain rfl := List.mem_singleton.mp hr
      exact Or.inr (hqueue ▸ List.mem_cons_self ..)
    | begin _ _ => exact Or.inl hr
    | unexpected _ _ _ _ _ hphase =>
      rcases hphase with hphase | hphase <;> simp_all [Thread.owned, Phase.owned, WorkerStage.phase]
    | advance hphase _ =>
      rcases hphase with hphase | ⟨r', hphase, hphase'⟩ <;> simp_all [Thread.owned, Phase.owned]
    | publish hphase _ _ hphase' =>
      rcases hphase' with hphase' | ⟨hphase', -⟩
      · simp [Thread.owned, hphase', Phase.owned] at hr
      · simp only [Thread.owned, hphase', Phase.owned, List.mem_singleton] at hr
        exact Or.inl (hr ▸ mem_owned_of_phase hphase)
  | @call request _ _ _ hmove =>
    cases hmove with
    | enter => cases hmethod : request.method <;> rw [hmethod] at hr <;> cases hr
    | closeDrained _ => exact Or.inr (List.mem_filter.mp hr).1
    | closeSettled _ => exact Or.inl (List.mem_cons_of_mem _ hr)
    | closeCancelling _ => exact Or.inl hr
    | _ => cases hr

omit [Kernel] in
/-- What the owner of a record has published in it. -/
theorem apart_write {registry : Registry} {r : JobRef} {record record' : JobRecord}
    {p q : JobState → Prop} (hr : registry.records[r]? = some record) (h : registry.Apart r p)
    (hp : q record'.state) : (registry.write r record').Apart r q :=
  ⟨⟨record', Registry.records_write_self hr, hp⟩, h.2⟩

theorem registry_own (hchoice : faulty ∨ choice.Quiet)
    (hmoves : (service settings).Moves c i l choice shared' l')
    (hc : (registryOutline settings faulty).Holds c) :
    l'.RegistryClaim faulty i shared'.registryMutex shared'.registry := by
  have hsound : c.shared.registry.Sound settings := hc.shared
  have hclaim := hc.thread hmoves.thread
  cases threadMove hmoves with
  | worker hmove =>
    intro r hr
    cases hmove with
    | @pop r' queue _ hqueue =>
      obtain rfl := List.mem_singleton.mp hr
      refine ⟨(hsound.queued r (hqueue ▸ List.mem_cons_self ..)).imp fun _ h => h.1, fun hmem => ?_⟩
      have hascending := hsound.queue_ascending
      rw [hqueue] at hascending
      exact Nat.lt_irrefl _ ((List.pairwise_cons.mp hascending).1 r hmem)
    | begin hrecord _ =>
      obtain rfl := List.mem_singleton.mp hr
      exact apart_write hrecord (hclaim r (List.mem_singleton_self _)) rfl
    | unexpected hrecord hqueued =>
      exact absurd ((hclaim _ (List.mem_singleton_self _)).1.of_some hrecord) hqueued
    | advance hphase _ =>
      rcases hphase with hphase | ⟨r', hphase, hphase'⟩
      · rw [hphase] at hr ⊢
        exact hclaim r hr
      · rw [hphase'] at hr ⊢
        refine (hclaim r (by rwa [hphase])).imp fun state hstate => ?_
        rw [hphase] at hstate
        exact Or.inl hstate
    | publish hphase hrecord _ hphase' =>
      rcases hphase' with hphase' | ⟨hphase', hraised, hquiet⟩
      · rw [hphase'] at hr
        cases hr
      · rw [hphase'] at hr ⊢
        obtain rfl := List.mem_singleton.mp hr
        exact apart_write hrecord (hclaim r (mem_owned_of_phase hphase))
          (Or.inr ⟨hchoice.resolve_right hquiet, congrArg JobRecord.state hraised⟩)
  | @call request _ _ _ hmove =>
    cases hmove with
    | enter =>
      cases request.method with
      | sessionClose => exact ⟨List.nodup_nil, nofun⟩
      | _ => nofun
    | respond _ => exact hclaim
    | closeDrained _ =>
      have hdrained := Registry.drain_spec hsound.keyed request.sessionId
      refine ⟨(hsound.queue_ascending.imp fun h => Nat.ne_of_lt h).filter _, fun r hr => ?_⟩
      obtain ⟨hqueue, hbelongs⟩ := List.mem_filter.mp hr
      refine ⟨⟨(hsound.queued r hqueue).imp fun _ h => h.1, fun hmem => ?_⟩, fun key hkey => ?_⟩
      · have hnot := (List.mem_filter.mp hmem).2
        rw [hbelongs] at hnot
        cases hnot
      · exact absurd (hbelongs.symm.trans (hdrained.jobs.mp hkey).2) (by decide)
    | closeCancelling hrecord =>
      refine ⟨hclaim.1, fun r' hr' => ?_⟩
      obtain ⟨hapart, hjobs⟩ := hclaim.2 r' hr'
      have hevolves := Registry.Evolves.write hrecord (JobRecord.follows_cancel _)
        (show _ ∉ [] → _ from fun _ => rfl)
      exact ⟨hevolves.apart List.not_mem_nil hapart, hjobs⟩
    | @closeSettled s r queued running record hrecord =>
      obtain ⟨hnodup, hclaim⟩ := hclaim
      obtain ⟨hnot, hnodup⟩ := List.nodup_cons.mp hnodup
      refine ⟨hnodup, fun r' hr' => ?_⟩
      obtain ⟨hapart, hjobs⟩ := hclaim r' (List.mem_cons_of_mem _ hr')
      have hevolves := Registry.Evolves.write hrecord (JobRecord.follows_settle _)
        (show r ∉ [r] → _ from absurd (List.mem_singleton_self r))
      exact ⟨hevolves.apart (fun hmem => hnot (List.mem_singleton.mp hmem ▸ hr')) hapart, hjobs⟩
    | lookupFound hfind => exact (hsound.find?_at hfind).2
    | @lookupFinished kind r record fails _ hr =>
      rcases kind.finish_cases record fails with ⟨failure, heq⟩ | ⟨status, -, -, heq⟩ |
        ⟨-, heq⟩ | ⟨value, rfl, hanswer, heq⟩ <;> rw [heq]
      · exact .ended nofun
      · exact .ended nofun
      · exact .ended nofun
      · intro value' hvalue'
        cases hvalue'
        obtain ⟨hstate, hresult⟩ := JobRecord.answer_eq_ok hanswer
        have hid : record.id = request.jobId := hclaim.of_some hr
        exact ⟨r, record, Registry.records_write_self hr, hid, hstate, hresult⟩
    | releaseFound _ hfind => exact ⟨rfl, (hsound.find?_at hfind).1⟩
    | releaseChecked hr hterminal =>
      obtain ⟨hown, hfind⟩ := hclaim
      exact ⟨hown, hfind, _, hr, hterminal⟩
    | submitEnded _ _ => exact .ended fun _ => Ending.ofResult_ne nofun nofun
    | _ => first | exact ⟨List.nodup_nil, nofun⟩ | exact .ended nofun | nofun

end Step

/-- One step keeps the outline. Without failing allocations no worker enters its exception
fence with a record that has ended. -/
theorem registryOutline_preserves (settings : Settings) (faulty : Prop) :
    (service settings).Preserves (fun choice => faulty ∨ choice.Quiet) (fun _ => True)
      (registryOutline settings faulty) where
  symm h r hm hl := h hl hm
  start request _ _ := nofun
  start_pair request l := nofun
  own hchoice hmoves _ hc := ⟨registry_sound hmoves hc, registry_own hchoice hmoves hc⟩
  other := by
    intro c i l choice shared' l' j m _ hmoves _ hc hne hj
    have hclaim : l.RegistryClaim faulty i c.shared.registryMutex c.shared.registry :=
      hc.thread hmoves.thread
    have hclaim' : m.RegistryClaim faulty j c.shared.registryMutex c.shared.registry := hc.thread hj
    have hpair : l.owned.Disjoint m.owned := hc.pair hne hmoves.thread hj
    refine ⟨hclaim'.other (registry_evolves hmoves hc) hpair ?_ (registry_kept hmoves hc hne), ?_⟩
    · rintro r ⟨record, hr, hstate⟩ howned
      rcases (hclaim.apart howned).1.of_some hr with h | h | ⟨-, h⟩ <;> simp [hstate] at h
    · intro r hr' hr
      rcases owned_step hmoves hr' with hold | hqueue
      · exact hpair hold hr
      · exact (hclaim'.apart hr).2 hqueue

omit [Kernel] in
theorem registryOutline_initial (settings : Settings) (faulty : Prop) :
    (registryOutline settings faulty).Holds (initial settings) where
  shared := Registry.Sound.initial settings
  thread := by
    intro i l hi
    obtain rfl := eq_idle_of_initial hi
    nofun
  pair := by
    intro i j l m _ hi _
    obtain rfl := eq_idle_of_initial hi
    nofun

/-- The outline holds in every reachable configuration. -/
theorem registryOutline_holds {c : Config Shared Thread} (h : Reachable settings c) :
    (registryOutline settings True).Holds c :=
  (registryOutline_preserves settings True).holds (fun _ => trivial)
    (registryOutline_initial settings True) (h.mono fun _ _ => Or.inl trivial)

/-! ## Every record that has not ended is held -/

section Handover

variable {c : Config Shared Thread} {i : Nat} {l l' : Thread} {choice : Choice} {shared' : Shared}

/-- Only a successful submit publishes a record. -/
theorem records_step (hmoves : (service settings).Moves c i l choice shared' l') :
    shared'.registry.records.length = c.shared.registry.records.length ∨
    ∃ request s session, l = .call request (.submit (.admitted s)) ∧
      c.shared.table.records[s]? = some session ∧
      l' = .call request
        (.ended (.submitted ⟨settings.instanceId, c.shared.registry.nextId⟩)) ∧
      c.shared.registry.nextId ≠ 0 ∧ shared'.table = c.shared.table ∧
      shared'.registry = { c.shared.registry with nextId := c.shared.registry.nextId + 1 }.enroll
        (Registry.newRecord settings c.shared.registry session.id session.graph
          request.submitOptions) := by
  cases threadMove hmoves with
  | worker hmove => cases hmove <;> simp [Shared.write, Registry.write]
  | @call request _ _ _ hmove =>
    cases hmove with
    | @submitEnded s session fails _ hs =>
      rcases Registry.submit_cases settings c.shared.registry session.id session.graph
        request.submitOptions fails with ⟨failure, heq⟩ | ⟨failure, heq, -⟩ | ⟨heq, hnext, -⟩
      · exact Or.inl (by rw [heq])
      · exact Or.inl (by rw [heq])
      · exact Or.inr ⟨request, s, session, rfl, hs, by rw [heq]; rfl, hnext, rfl, by rw [heq]⟩
    | closeDrained _ => exact Or.inl rfl
    | _ => simp [Shared.write, Registry.write]

/-- What a step takes from the queue, its thread holds. -/
theorem queue_step (hmoves : (service settings).Moves c i l choice shared' l') {r : JobRef}
    (hr : r ∈ c.shared.registry.queue) : r ∈ shared'.registry.queue ∨ r ∈ l'.owned := by
  cases threadMove hmoves with
  | worker hmove =>
    cases hmove with
    | pop _ hqueue =>
      rw [hqueue] at hr
      rcases List.mem_cons.mp hr with rfl | hr
      · exact Or.inr (List.mem_singleton_self r)
      · exact Or.inl hr
    | _ => exact Or.inl hr
  | @call request _ _ _ hmove =>
    cases hmove with
    | closeDrained _ =>
      cases hbelongs : c.shared.registry.belongs request.sessionId r with
      | true => exact Or.inr (List.mem_filter.mpr ⟨hr, hbelongs⟩)
      | false => exact Or.inl (List.mem_filter.mpr ⟨hr, by simp [hbelongs]⟩)
    | @submitEnded s session fails _ _ =>
      refine Or.inl ?_
      rcases Registry.submit_cases settings c.shared.registry session.id session.graph
        request.submitOptions fails with ⟨failure, heq⟩ | ⟨failure, heq, -⟩ | ⟨heq, -⟩ <;> rw [heq]
      · exact hr
      · exact hr
      · exact List.mem_append_left _ hr
    | _ => exact Or.inl hr

/-- A thread lets go of a record only when the record has ended. -/
theorem owned_kept (hmoves : (service settings).Moves c i l choice shared' l') {r : JobRef}
    (hr : r ∈ l.owned)
    (hlive : shared'.registry.At r fun record => terminal record.state = false) : r ∈ l'.owned := by
  -- The record that the step has written has not ended.
  have hwritten : ∀ {r' : JobRef} {record record' : JobRecord},
      c.shared.registry.records[r']? = some record →
      shared'.registry = c.shared.registry.write r' record' →
      terminal record'.state = true → r ≠ r' := by
    rintro r' record record' hrecord heq hterminal rfl
    rw [heq] at hlive
    exact absurd (hterminal.symm.trans (hlive.of_some (Registry.records_write_self hrecord)))
      (by decide)
  cases threadMove hmoves with
  | worker hmove =>
    cases hmove with
    | pop _ _ => cases hr
    | begin _ _ => exact hr
    | unexpected hrecord _ _ _ hterminal _ =>
      exact absurd (List.mem_singleton.mp hr) (hwritten hrecord rfl hterminal)
    | advance hphase _ =>
      rcases hphase with hphase | ⟨r', hphase, hphase'⟩
      · simpa [Thread.owned, hphase] using hr
      · simpa [Thread.owned, hphase, hphase', Phase.owned] using hr
    | publish hphase hrecord hpublishes _ =>
      refine absurd ?_ (hwritten hrecord rfl hpublishes.terminal)
      rcases hphase with hphase | hphase <;>
        simpa [Thread.owned, hphase, Phase.owned] using hr
  | call hmove =>
    cases hmove with
    | closeCancelling _ => exact hr
    | closeSettled hrecord =>
      exact (List.mem_cons.mp hr).resolve_left (hwritten hrecord rfl rfl)
    | _ => cases hr

/-- A record that has not ended had not ended before, or it is new in the queue and in the map. -/
theorem live_step (hmoves : (service settings).Moves c i l choice shared' l')
    (hc : (registryOutline settings True).Holds c) {r : Nat}
    (hlive : shared'.registry.At r fun record => terminal record.state = false) :
    (c.shared.registry.At r fun record => terminal record.state = false) ∨
      r ∈ shared'.registry.queue ∧ ∃ key, shared'.registry.jobs.find? key = some r := by
  by_cases hlt : r < c.shared.registry.records.length
  · have hold := List.getElem?_eq_getElem hlt
    obtain ⟨record', hr', hfollows, -⟩ := (registry_evolves hmoves hc).record hold
    refine Or.inl ⟨_, hold, ?_⟩
    have hterminal := mt hfollows.terminal
    rw [Bool.not_eq_true, Bool.not_eq_true] at hterminal
    exact hterminal (hlive.of_some hr')
  · have hlength := hlive.lt
    rcases records_step hmoves with heq | ⟨request, s, session, -, -, -, -, -, heq⟩
    · omega
    · have hr : r = c.shared.registry.records.length := by
        rw [heq] at hlength
        simp only [Registry.enroll, List.length_append, List.length_singleton] at hlength
        omega
      have hqueue : r ∈ shared'.registry.queue := by
        rw [heq, hr]
        exact List.mem_append_right _ (List.mem_singleton_self _)
      obtain ⟨record, -, -, hfind⟩ := (registry_sound hmoves hc).queued r hqueue
      exact Or.inr ⟨hqueue, record.id.value, hfind⟩

theorem handover (hmoves : (service settings).Moves c i l choice shared' l')
    (hc : (registryOutline settings True).Holds c) {r : Nat}
    (hlive : shared'.registry.At r fun record => terminal record.state = false) :
    r ∈ shared'.registry.queue ∨ r ∈ l'.owned ∨
      (c.shared.registry.At r fun record => terminal record.state = false) ∧
        r ∉ c.shared.registry.queue ∧ r ∉ l.owned := by
  by_cases hqueue : r ∈ c.shared.registry.queue
  · exact (queue_step hmoves hqueue).imp_right Or.inl
  by_cases howned : r ∈ l.owned
  · exact Or.inr (Or.inl (owned_kept hmoves howned hlive))
  rcases live_step hmoves hc hlive with hold | ⟨hnew, -⟩
  · exact Or.inr (Or.inr ⟨hold, hqueue, howned⟩)
  · exact Or.inl hnew

end Handover

/-- Every record that has not ended is in the queue or held by a thread. -/
theorem held_of_reachable {c : Config Shared Thread} (h : Reachable settings c) :
    Program.Covered
      (fun shared r => shared.registry.At r fun record => terminal record.state = false)
      (fun shared r => r ∈ shared.registry.queue) (fun l r => r ∈ l.owned) c := by
  refine Program.Leads.covered h (fun hleads _ hmoves r hlive => ?_) ?_
  · exact handover hmoves (registryOutline_holds hleads) hlive
  · rintro r ⟨record, hr, -⟩
    simp [initial, Shared.initial, Registry.initial] at hr

/-! ## Ownership -/

section Ownership

variable {c c' : Config Shared Thread}

theorem isWorker_step {i : Nat} {l l' : Thread} {choice : Choice} {shared' : Shared}
    (hmoves : (service settings).Moves c i l choice shared' l') : l'.isWorker = l.isWorker := by
  cases threadMove hmoves <;> rfl

/-- The number of workers is fixed. -/
theorem countP_isWorker (h : Reachable settings c) :
    c.threads.countP Thread.isWorker = settings.config.maximumConcurrency.toNat := by
  refine (Program.Leads.countP_eq h (fun _ => settings.config.maximumConcurrency.toNat)
    Thread.isWorker (fun _ => rfl) (fun _ _ hmoves _ => ?_) ?_).symm
  · rw [isWorker_step hmoves]
  · simp [initial, List.countP_replicate, Thread.isWorker]

omit [Kernel] in
theorem Thread.mem_owned_of_held {l : Thread} {r : JobRef} (h : r ∈ l.held) : r ∈ l.owned := by
  cases l with
  | worker stage => exact h
  | call request stage => cases h

omit [Kernel] in
/-- What a thread holds of the records in the map, it holds as a worker. -/
theorem held_of_owned {i : Nat} {l : Thread} {key : UInt64} {r : JobRef}
    (hc : (registryOutline settings True).Holds c) (hi : c.threads[i]? = some l) (hr : r ∈ l.owned)
    (hkey : c.shared.registry.jobs.find? key = some r) : r ∈ l.held := by
  have hclaim := hc.thread hi
  cases l with
  | worker stage => exact hr
  | call request stage =>
    cases stage with
    | close stage => exact absurd hkey ((hclaim.2 r hr).2 key)
    | _ => cases hr

/-- A submit succeeds in the step in which it publishes its record. -/
theorem submitted_step {i : Nat} {l l' : Thread} {choice : Choice} {shared' : Shared} {id : JobId}
    (hmoves : (service settings).Moves c i l choice shared' l')
    (hsubmitted : l'.ending? = some (.submitted id)) :
    l.ending? = some (.submitted id) ∨ c.shared.registry.nextId ≠ 0 ∧
      ∃ request s, l = .call request (.submit (.admitted s)) := by
  cases threadMove hmoves with
  | worker hmove => cases hsubmitted
  | @call request _ _ _ hmove =>
    cases hmove with
    | enter => cases hmethod : request.method <;> rw [hmethod] at hsubmitted <;> cases hsubmitted
    | respond _ => exact Or.inl hsubmitted
    | @submitEnded s session fails _ _ =>
      rcases Registry.submit_cases settings c.shared.registry session.id session.graph
        request.submitOptions fails with ⟨failure, heq⟩ | ⟨failure, heq, -⟩ | ⟨-, hnext, -⟩
      · rw [heq] at hsubmitted
        cases hsubmitted
      · rw [heq] at hsubmitted
        cases hsubmitted
      · exact Or.inr ⟨hnext, request, s, rfl⟩
    | @lookupFinished kind r record fails _ _ =>
      rcases kind.finish_cases record fails with ⟨failure, heq⟩ | ⟨status, -, -, heq⟩ |
        ⟨-, heq⟩ | ⟨result, -, -, heq⟩ <;> rw [heq] at hsubmitted <;> cases hsubmitted
    | _ => cases hsubmitted

theorem nextId_step {i : Nat} {l l' : Thread} {choice : Choice} {shared' : Shared}
    (hmoves : (service settings).Moves c i l choice shared' l')
    (hnext : c.shared.registry.nextId = 0) : shared'.registry.nextId = 0 := by
  cases threadMove hmoves with
  | worker hmove => cases hmove <;> exact hnext
  | @call request _ _ _ hmove =>
    cases hmove with
    | @submitEnded s session fails _ _ =>
      rcases Registry.submit_cases settings c.shared.registry session.id session.graph
        request.submitOptions fails with ⟨failure, heq⟩ | ⟨failure, -, hnot, -⟩ | ⟨-, hnot, -⟩
      · rwa [heq]
      · exact absurd hnext hnot
      · exact absurd hnext hnot
    | _ => exact hnext

omit [Kernel] in
/-- Of the submits of one kind, each that has succeeded in the second configuration had
succeeded in the first. -/
def NoNewSubmit (kind : Request → Prop) (c c' : Config Shared Thread) : Prop :=
  ∀ (i : Nat) (request : Request) (stage' : CallStage) (id : JobId),
    c'.threads[i]? = some (.call request stage') → kind request →
    stage'.ending? = some (.submitted id) →
    ∃ stage, c.threads[i]? = some (.call request stage) ∧ stage.ending? = some (.submitted id)

/-- If no submit of one kind can be about to publish, none of them succeeds. -/
theorem noNewSubmit_of_leads {kind : Request → Prop}
    (hleads : (service settings).Leads (fun _ => True) c c')
    (hblocked : ∀ {c₁ : Config Shared Thread} {i : Nat} {request : Request} {s : SessionRef},
      (service settings).Leads (fun _ => True) c c₁ → kind request →
      c₁.threads[i]? = some (.call request (.submit (.admitted s))) →
      c₁.shared.registry.nextId = 0) : NoNewSubmit kind c c' := by
  refine hleads.induct (motive := NoNewSubmit kind c) ?_ ?_ ?_
  · exact fun i request stage id hi _ hending => ⟨stage, hi, hending⟩
  · intro c₁ request' _ ih i request stage' id hi hkind hending
    rcases getElem?_snoc hi with hi | ⟨-, hstart⟩
    · exact ih i request stage' id hi hkind hending
    · cases hstart
      cases hending
  · intro c₁ j l choice shared' l' hc₁ ih _ hmoves i request stage' id hi hkind hending
    rcases getElem?_set_some hi with ⟨rfl, rfl⟩ | ⟨-, hi⟩
    · have hstep := submitted_step hmoves hending
      cases threadMove hmoves with
      | call hmove =>
        rcases hstep with hold | ⟨hnext, request', s, hl⟩
        · exact ih j request _ id hmoves.thread hkind hold
        · cases hl
          exact absurd (hblocked hc₁ hkind hmoves.thread) hnext
    · exact ih i request stage' id hi hkind hending

/-- Once the identifiers are used up, no submit succeeds any more. -/
theorem noNewSubmit_of_exhausted (hnext : c.shared.registry.nextId = 0)
    (hleads : (service settings).Leads (fun _ => True) c c') :
    NoNewSubmit (fun _ => True) c c' := by
  refine noNewSubmit_of_leads hleads fun hc₁ _ _ => ?_
  refine hc₁.induct (motive := fun c₁ => c₁.shared.registry.nextId = 0) hnext ?_ ?_
  · exact fun _ _ _ ih => ih
  · exact fun _ _ _ _ _ _ _ ih _ hmoves => nextId_step hmoves ih

/-- A running record is held by a worker. -/
theorem running_held (h : Reachable settings c) {r : JobRef} {record : JobRecord}
    (hr : c.shared.registry.records[r]? = some record) (hstate : record.state = .running) :
    ∃ l ∈ c.threads, r ∈ l.held := by
  have hc := registryOutline_holds h
  have hsound : c.shared.registry.Sound settings := hc.shared
  rcases held_of_reachable h r ⟨record, hr, by simp [hstate, terminal]⟩ with hqueue |
    ⟨l, hl, howned⟩
  · exact absurd (((hsound.queued r hqueue).of_some hr).1.symm.trans hstate) (by decide)
  · obtain ⟨i, hi⟩ := List.getElem?_of_mem hl
    refine ⟨l, hl, ?_⟩
    have hclaim := hc.thread hi
    cases l with
    | worker stage => exact howned
    | call request stage =>
      cases stage with
      | close stage =>
        have hqueued := (hclaim.2 r howned).1.1.of_some hr
        exact absurd (hqueued.symm.trans hstate) (by decide)
      | _ => cases howned

theorem countP_running_le (h : Reachable settings c) :
    c.shared.registry.records.countP (fun record => record.state = .running) ≤
      settings.config.maximumConcurrency.toNat := by
  rw [← countP_isWorker h]
  refine Program.countP_le_countP_of_held _ _ Thread.held ?_ ?_
  · intro l _
    cases l with
    | worker stage =>
      simp only [Thread.held, Thread.isWorker, if_true]
      cases stage.phase <;> simp [Phase.owned]
    | call request stage => simp [Thread.held]
  · intro r record hr hstate
    exact running_held h hr (by simpa using hstate)

end Ownership

/-- What the registry owns in one configuration, and what its workers own. -/
structure RegistryOwnership (settings : Settings) (c : Config Shared Thread) : Prop where
  /-- Queued records are in the map under their own identifier, in state `Queued`. -/
  queued : ∀ r ∈ c.shared.registry.queue, c.shared.registry.At r fun record =>
    record.state = .queued ∧ c.shared.registry.jobs.find? record.id.value = some r
  queue_nodup : c.shared.registry.queue.Nodup
  /-- A record of the map that has not ended is in the queue or has exactly one worker. -/
  held : ∀ key r, c.shared.registry.jobs.find? key = some r →
    (c.shared.registry.At r fun record => terminal record.state = false) →
    r ∈ c.shared.registry.queue ∨ ∃! i : Nat, ∃ l : Thread, c.threads[i]? = some l ∧ r ∈ l.held
  /-- No record is both in the queue and held by a worker. -/
  apart : ∀ r ∈ c.shared.registry.queue, ∀ l ∈ c.threads, r ∉ l.held
  size_le : c.shared.registry.jobs.size ≤ settings.config.maximumJobs.toNat
  /-- Keys are identifiers that were handed out before the next one. -/
  keys : ∀ key r, c.shared.registry.jobs.find? key = some r →
    key ≠ 0 ∧ (key < c.shared.registry.nextId ∨ c.shared.registry.nextId = 0)
  /-- When the identifiers are used up, no submit succeeds any more. -/
  exhausted : c.shared.registry.nextId = 0 →
    ∀ c', (service settings).Leads (fun _ => True) c c' → NoNewSubmit (fun _ => True) c c'
  running_le : c.shared.registry.records.countP (fun record => record.state = .running) ≤
    settings.config.maximumConcurrency.toNat
  /-- A worker never meets a record that has left `Queued` behind its back. -/
  expected : ∀ r, .worker (.popped r) ∈ c.threads →
    c.shared.registry.At r fun record => record.state = .queued
  /-- A submit never meets its identifier in the map. -/
  fresh : c.shared.registry.nextId ≠ 0 →
    c.shared.registry.jobs.find? c.shared.registry.nextId = none

/-- The ownership invariant holds in every reachable configuration. -/
theorem registry_ownership {c : Config Shared Thread} (h : Reachable settings c) :
    RegistryOwnership settings c := by
  have hc := registryOutline_holds h
  have hsound : c.shared.registry.Sound settings := hc.shared
  have hclaim : ∀ {i : Nat} {l : Thread}, c.threads[i]? = some l →
      l.RegistryClaim True i c.shared.registryMutex c.shared.registry := fun hi => hc.thread hi
  refine ⟨hsound.queued, hsound.queue_ascending.imp fun hlt => Nat.ne_of_lt hlt, ?_, ?_,
    hsound.size_le, ?_, fun hnext c' => noNewSubmit_of_exhausted hnext,
    countP_running_le h, ?_, hsound.find?_nextId⟩
  · intro key r hkey hlive
    refine (held_of_reachable h r hlive).imp_right ?_
    rintro ⟨l, hl, howned⟩
    obtain ⟨i, hi⟩ := List.getElem?_of_mem hl
    refine ⟨i, ⟨l, hi, held_of_owned hc hi howned hkey⟩, ?_⟩
    rintro j ⟨m, hj, hheld⟩
    by_contra hne
    have hdisjoint : m.owned.Disjoint l.owned := hc.pair hne hj hi
    exact hdisjoint (Thread.mem_owned_of_held hheld) howned
  · intro r hr l hl hheld
    obtain ⟨i, hi⟩ := List.getElem?_of_mem hl
    exact ((hclaim hi).apart (Thread.mem_owned_of_held hheld)).2 hr
  · intro key r hkey
    obtain ⟨record, hr, rfl⟩ := hsound.keyed hkey
    obtain ⟨-, hne, hlt⟩ := hsound.issued hr
    by_cases hnext : c.shared.registry.nextId = 0
    · exact ⟨hne, Or.inr hnext⟩
    · exact ⟨hne, Or.inl (hlt hnext)⟩
  · intro r hr
    obtain ⟨i, hi⟩ := List.getElem?_of_mem hr
    exact (hclaim hi r (List.mem_singleton_self r)).1

omit [Kernel] in
/-- The first of two workers runs the only job. -/
theorem registry_ownership_running :
    ∃ c, @Reachable sampleKernel sampleSettings c ∧
      c.shared.registry.records.countP (fun record => record.state = .running) = 1 ∧
      @RegistryOwnership sampleKernel sampleSettings c := by
  let _ : Kernel := sampleKernel
  have hreachable := reachable_sampleConfig.run [plainMove 0, plainMove 0] rfl
  exact ⟨_, hreachable, rfl, registry_ownership hreachable⟩

end PhotospiderDaemon.Orchestration
