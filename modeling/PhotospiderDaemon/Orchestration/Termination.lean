import PhotospiderDaemon.Orchestration.WakeUps

/-!
# Every call returns

Without new calls and without spurious wake-ups, the service comes to rest, whatever the schedule
is, as long as the calls into the kernel come back.

* `work_step`: a potential that every step lowers. A queued record counts for the steps of its
  worker, and a record of the map for the steps that a close makes on its behalf; so a close may
  take any number of records out of them.
* `Stuck.atRest`: where no thread can go on, nobody waits for anything that is still to come.
* `calls_return`: both together.
-/

namespace PhotospiderDaemon.Orchestration

open Foundation Ipc

/-! ## The potential -/

/-- The steps that a worker has still to make for the record that it holds. -/
def WorkerStage.rank : WorkerStage → Nat
  | exited => 0
  | idle => 1
  | fallingBack _ _ => 2
  | fencing _ _ => 3
  | finishingCancelled _ _ => 4
  | finishingFailure _ _ => 4
  | publishing _ _ => 4
  | executionFailed _ _ => 5
  | executing _ _ => 6
  | compiled _ => 7
  | compiling _ _ => 8
  | running _ => 9
  | popped _ => 10

def CreateStage.rank : CreateStage → Nat
  | entered => 5
  | reserved => 4
  | validated => 3
  | rollingBack _ => 2

def CloseStage.rank : CloseStage → Nat
  | entered => 6
  | marked _ => 5
  | reopening _ _ => 2
  | settlingQueued _ queued running => 4 + 2 * queued.length + 2 * running.length
  | cancelling _ _ queued running => 5 + 2 * queued.length + 2 * running.length
  | settlingRunning _ todo running => 3 + todo.length + running.length
  | waiting _ running => 2 + running.length

/-- A submit has to pay for the record that it adds to the queue and to the map. -/
def CallStage.rank : CallStage → Nat
  | begun => 16
  | create stage => stage.rank
  | close stage => stage.rank
  | submit .entered => 15
  | submit (.admitted _) => 14
  | lookup _ .entered => 3
  | lookup _ (.found _) => 2
  | release .entered => 4
  | release (.found _) => 3
  | release (.erasing _) => 2
  | info .entered => 3
  | info (.counted _) => 2
  | shutdown => 2
  | ended _ => 1
  | returned _ _ => 0

def Thread.rank : Thread → Nat
  | worker stage => stage.rank
  | call _ stage => stage.rank

/-- What is left to do. -/
def work (c : Config Shared Thread) : Nat :=
  (c.threads.map Thread.rank).sum + 10 * c.shared.registry.queue.length +
    2 * c.shared.registry.jobs.size

/-- The records that a close takes out of the map were in the map. -/
theorem Registry.length_running_le (registry : Registry) (id : SessionId) :
    (registry.drain id).2.2.length + (registry.drain id).1.jobs.size ≤ registry.jobs.size := by
  let queued := registry.queue.filter (registry.belongs id)
  have hle : (queued.foldl registry.eraseRecord registry.jobs).size ≤ registry.jobs.size :=
    Registry.size_foldl_eraseRecord_le registry queued registry.jobs
  refine Nat.le_trans (Nat.le_of_eq ?_) hle
  simp only [Registry.drain, List.length_map, OrderedMap.size, OrderedMap.removeIf]
  exact List.length_eq_length_filter_add _ |>.symm

theorem CallStage.rank_enter (method : Method) : (CallStage.enter method).rank ≤ 15 := by
  cases method <;> decide

variable [Kernel] {settings : Settings}

section Step

variable {c : Config Shared Thread} {i : Nat} {l l' : Thread} {choice : Choice} {shared' : Shared}

theorem WorkerStage.Advances.rank_lt {stage stage' : WorkerStage}
    (h : stage.Advances choice stage') : stage'.rank < stage.rank := by
  cases h with
  | stops hstage => rcases hstage with rfl | rfl <;> simp [rank]
  | raises hstage => rcases hstage with rfl | rfl | ⟨status, rfl⟩ <;> simp [rank]
  | _ => simp [rank]

theorem WorkerStage.Publication.rank_lt {fails : Fault → Bool} {record record' : JobRecord}
    {stage stage' : WorkerStage} (h : stage.Publication fails record record' stage') :
    stage'.rank < stage.rank := by
  cases h with
  | fallback => simp [rank]
  | _ => split <;> simp [rank]

theorem rank_step (hmoves : (service settings).Moves c i l choice shared' l')
    (hc : (registryOutline settings True).Holds c) (hterminated : shared'.terminated = false) :
    l'.rank + 10 * shared'.registry.queue.length + 2 * shared'.registry.jobs.size <
      l.rank + 10 * c.shared.registry.queue.length + 2 * c.shared.registry.jobs.size := by
  have hclaim := hc.thread hmoves.thread
  cases threadMove hmoves with
  | worker hmove =>
    cases hmove with
    | pop _ hqueue =>
      simp only [hqueue, List.length_cons, Thread.rank, WorkerStage.rank]
      omega
    | begin => simp only [Thread.rank, WorkerStage.rank, Shared.write, Registry.write]; omega
    | unexpected hrecord hqueued =>
      exact absurd ((hclaim _ (List.mem_singleton_self _)).1.of_some hrecord) hqueued
    | advance _ _ hadvances =>
      have hless := hadvances.rank_lt
      simp only [Thread.rank]
      omega
    | publish _ _ _ _ hpublication =>
      obtain ⟨fails, -, hpublication⟩ := hpublication
      have hless := hpublication.rank_lt
      simp only [Thread.rank, Shared.write, Registry.write]
      omega
  | @call request _ _ _ hmove =>
    cases hmove with
    | enter =>
      have hle := CallStage.rank_enter request.method
      change (CallStage.enter request.method).rank + _ + _ < 16 + _ + _
      omega
    | createAbandoned hstage =>
      rcases hstage with rfl | rfl <;>
        simp only [Thread.rank, CallStage.rank, CreateStage.rank] <;> omega
    | createTerminated => cases hterminated
    | closeTerminated => cases hterminated
    | closeDrained =>
      have hmap := c.shared.registry.length_running_le request.sessionId
      have hqueue := List.length_eq_length_filter_add (l := c.shared.registry.queue)
        (c.shared.registry.belongs request.sessionId)
      simp only [Thread.rank, CallStage.rank, CloseStage.rank]
      change 4 + 2 * (List.filter _ _).length + _ + 10 * (List.filter _ _).length + _ < _
      omega
    | @submitEnded s session fails _ _ =>
      rcases Registry.submit_cases settings c.shared.registry session.id session.graph
        request.submitOptions fails with ⟨failure, heq⟩ | ⟨failure, heq, -⟩ | ⟨heq, -, hfind, -⟩ <;>
        rw [heq] <;> simp only [Thread.rank, CallStage.rank]
      · omega
      · omega
      · have hsize := OrderedMap.size_emplace c.shared.registry.records.length hfind
        simp only [Registry.enroll, Registry.newRecord, List.length_append, List.length_singleton,
          hsize]
        omega
    | releaseErased =>
      have hle := OrderedMap.size_removeIf_le c.shared.registry.jobs
        fun key _ => key = request.jobId.value
      simp only [Thread.rank, CallStage.rank, OrderedMap.erase]
      omega
    | _ =>
      simp only [Thread.rank, CallStage.rank, CreateStage.rank, CloseStage.rank, List.length_nil,
        List.length_cons, Shared.write, Registry.write]
      omega

/-- Every step lowers what is left to do. -/
theorem work_step (h : Reachable settings c)
    (hmoves : (service settings).Moves c i l choice shared' l') :
    work ⟨shared', c.threads.set i l'⟩ < work c := by
  have hterminated : shared'.terminated = false :=
    (sessionOutline_holds (h.trans (Program.Leads.of_moves trivial hmoves))).shared.2
  have hrank := rank_step hmoves (registryOutline_holds h) hterminated
  have hsum := sum_set_add Thread.rank l' hmoves.thread
  simp only [work]
  omega

end Step

/-! ## Records at hand -/

/-- The records that a thread is going to lock. -/
def CloseStage.named : CloseStage → List JobRef
  | settlingQueued _ queued running => queued ++ running
  | cancelling _ r queued running => r :: (queued ++ running)
  | settlingRunning _ todo running => todo ++ running
  | waiting _ running => running
  | _ => []

def Thread.named : Thread → List JobRef
  | worker stage => stage.phase.owned
  | call _ (.close stage) => stage.named
  | call _ (.lookup _ (.found r)) => [r]
  | call _ (.release (.found r)) => [r]
  | _ => []

theorem named_step {c : Config Shared Thread} {i : Nat} {l l' : Thread} {choice : Choice}
    {shared' : Shared} (hmoves : (service settings).Moves c i l choice shared' l')
    (hc : (registryOutline settings True).Holds c) {r : JobRef} (hr : r ∈ l'.named) :
    r ∈ l.named ∨ c.shared.registry.At r fun _ => True := by
  have hsound : c.shared.registry.Sound settings := hc.shared
  cases threadMove hmoves with
  | worker hmove =>
    rcases owned_step hmoves hr with hold | hqueue
    · exact Or.inl hold
    · exact Or.inr ((hsound.queued r hqueue).imp fun _ _ => trivial)
  | @call request _ _ _ hmove =>
    cases hmove with
    | enter =>
      cases hmethod : request.method <;> rw [hmethod] at hr <;> cases hr
    | closeDrained =>
      have hdrained := Registry.drain_spec hsound.keyed request.sessionId
      rcases List.mem_append.mp hr with hqueued | hrunning
      · rw [hdrained.queued_eq] at hqueued
        have hqueue := (List.mem_filter.mp hqueued).1
        exact Or.inr ((hsound.queued r hqueue).imp fun _ _ => trivial)
      · obtain ⟨⟨key, hfind⟩, -, -⟩ := hdrained.running_iff.mp hrunning
        exact Or.inr ((hsound.keyed hfind).imp fun _ _ => trivial)
    | closeQueuedDone =>
      rcases List.mem_append.mp hr with hr | hr <;> exact Or.inl hr
    | closeCancelling => exact Or.inl hr
    | closeSettled => exact Or.inl (List.mem_cons_of_mem _ hr)
    | closeRequested => exact Or.inl (List.mem_cons_of_mem _ hr)
    | closeRunningDone => exact Or.inl hr
    | closeWaited => exact Or.inl (List.mem_cons_of_mem _ hr)
    | closeTerminated => exact Or.inl hr
    | lookupFound hfind =>
      rw [List.mem_singleton.mp hr]
      exact Or.inr ((hsound.find?_at hfind).2.imp fun _ _ => trivial)
    | releaseFound _ hfind =>
      rw [List.mem_singleton.mp hr]
      exact Or.inr ((hsound.find?_at hfind).2.imp fun _ _ => trivial)
    | _ => cases hr

/-- Whatever a thread is going to lock exists. -/
theorem named_of_reachable {c : Config Shared Thread} (h : Reachable settings c) :
    ∀ l ∈ c.threads, ∀ r ∈ l.named, c.shared.registry.At r fun _ => True := by
  have hkept : ∀ {c₁ : Config Shared Thread} {i : Nat} {l l' : Thread} {choice : Choice}
      {shared' : Shared} {r : JobRef}, Reachable settings c₁ →
      (service settings).Moves c₁ i l choice shared' l' →
      (c₁.shared.registry.At r fun _ => True) → shared'.registry.At r fun _ => True := by
    rintro c₁ i l l' choice shared' r hc₁ hmoves ⟨record, hrecord, -⟩
    exact ((registry_evolves hmoves (registryOutline_holds hc₁)).record hrecord).imp
      fun _ _ => trivial
  refine Program.Leads.forall_threads
    (motive := fun shared l => ∀ r ∈ l.named, shared.registry.At r fun _ => True) h ?_ ?_ ?_ ?_
  · intro l hl r hr
    obtain ⟨i, hi⟩ := List.getElem?_of_mem hl
    rw [eq_idle_of_initial hi] at hr
    cases hr
  · intro c₁ request _ r hr
    cases hr
  · intro c₁ i l choice shared' l' hc₁ _ hmoves hl r hr
    rcases named_step hmoves (registryOutline_holds hc₁) hr with hold | hat
    · exact hkept hc₁ hmoves (hl r hold)
    · exact hkept hc₁ hmoves hat
  · intro c₁ i l choice shared' l' m hc₁ _ hmoves hm r hr
    exact hkept hc₁ hmoves (hm r hr)

/-! ## Owners of the two mutexes -/

def Thread.HoldsRegistry : Thread → Prop
  | call _ (.release (.found _)) => True
  | call _ (.release (.erasing _)) => True
  | _ => False

def Thread.HoldsLifecycle : Thread → Prop
  | call _ (.submit (.admitted _)) => True
  | _ => False

theorem registryMutex_held {c : Config Shared Thread} (h : Reachable settings c)
    (howned : c.shared.registryMutex ≠ none) : ∃ l ∈ c.threads, l.HoldsRegistry := by
  refine Program.Leads.held h Shared.registryMutex ?_ rfl howned
  intro c i l choice shared' l' hmoves hneed
  cases threadMove hmoves with
  | worker hmove => exact Or.inr ⟨by cases hmove <;> exact hneed, id⟩
  | call hmove =>
    cases hmove with
    | releaseFound => exact Or.inl trivial
    | releaseChecked => exact Or.inl trivial
    | releaseRefused => exact absurd rfl hneed
    | releaseErased => exact absurd rfl hneed
    | _ => exact Or.inr ⟨hneed, id⟩

theorem lifecycleMutex_held {c : Config Shared Thread} (h : Reachable settings c)
    (howned : c.shared.lifecycleMutex ≠ none) : ∃ l ∈ c.threads, l.HoldsLifecycle := by
  refine Program.Leads.held h Shared.lifecycleMutex ?_ rfl howned
  intro c i l choice shared' l' hmoves hneed
  cases threadMove hmoves with
  | worker hmove => exact Or.inr ⟨by cases hmove <;> exact hneed, id⟩
  | call hmove =>
    cases hmove with
    | submitAdmitted => exact Or.inl trivial
    | submitEnded => exact absurd rfl hneed
    | _ => exact Or.inr ⟨hneed, id⟩

/-! ## Progress -/

/-- The thread can make a step if nothing fails, or if the kernel comes back with a value. -/
def Enabled (settings : Settings) (i : Nat) (shared : Shared) (l : Thread) : Prop :=
  ∃ choice, (threadStep settings i shared l choice).isSome = true

/-- The thread has nothing to do, or waits for a record that has not ended. -/
def Thread.Resting (shared : Shared) : Thread → Prop
  | worker .idle => shared.registry.stopping = false ∧ shared.registry.queue = []
  | worker .exited => True
  | call _ (.returned _ _) => True
  | call _ (.close (.waiting _ (r :: _))) => shared.registry.endedAt r = false
  | _ => False

section Progress

variable {i : Nat} {shared : Shared}

theorem enabled_worker {stage : WorkerStage} (hterminated : shared.terminated = false)
    (hmutex : shared.registryMutex = none)
    (hnamed : ∀ r ∈ stage.phase.owned, shared.registry.At r fun _ => True) :
    Enabled settings i shared (.worker stage) ∨ (Thread.worker stage).Resting shared := by
  have hgo : ∀ choice, (workerStep settings shared stage choice).isSome = true →
      Enabled settings i shared (.worker stage) := by
    intro choice hsome
    refine ⟨choice, ?_⟩
    simpa [threadStep, hterminated] using hsome
  cases stage with
  | idle =>
    cases hstopping : shared.registry.stopping with
    | true =>
      exact Or.inl (hgo (.go fun _ => false) (by simp [workerStep, locking, hmutex, hstopping]))
    | false =>
      cases hqueue : shared.registry.queue with
      | nil => exact Or.inr ⟨hstopping, hqueue⟩
      | cons r queue =>
        exact Or.inl (hgo (.go fun _ => false)
          (by simp [workerStep, locking, hmutex, hstopping, hqueue]))
  | exited => exact Or.inr trivial
  | compiling r mode => exact Or.inl (hgo (.compile (.value ())) rfl)
  | executing r maximumParallelism =>
    exact Or.inl (hgo (.execute (.failure Status.success)) rfl)
  | popped r | running r | compiled r | publishing r | finishingFailure r | finishingCancelled r
  | executionFailed r | fencing r | fallingBack r =>
    obtain ⟨record, hrecord, -⟩ := hnamed r (List.mem_singleton_self r)
    refine Or.inl (hgo (.go fun _ => false) ?_)
    simp [workerStep, checkpoint, Shared.onRecord, Shared.readRecord, hrecord]

/-- A close, with both mutexes free. -/
theorem enabled_close (settings : Settings) (id : SessionId) {stage : CloseStage}
    (hlifecycle : shared.lifecycleMutex = none) (hregistry : shared.registryMutex = none)
    (hnamed : ∀ r ∈ stage.named, shared.registry.At r fun _ => True) :
    (closeStep settings id shared stage (.go fun _ => false)).isSome = true ∨
      ∃ s r running, stage = .waiting s (r :: running) ∧ shared.registry.endedAt r = false := by
  cases stage with
  | entered =>
    refine Or.inl ?_
    simp only [closeStep, locking, hlifecycle]
    cases shared.table.findOpen? settings.instanceId id <;> rfl
  | marked s => exact Or.inl (by simp [closeStep, locking, hregistry])
  | reopening s exception => exact Or.inl (by simp [closeStep, locking, hlifecycle])
  | settlingQueued s queued running =>
    cases queued with
    | nil => exact Or.inl rfl
    | cons r queued =>
      obtain ⟨record, hrecord, -⟩ := hnamed r (List.mem_cons_self ..)
      exact Or.inl (by simp [closeStep, Shared.onRecord, hrecord])
  | cancelling s r queued running =>
    obtain ⟨record, hrecord, -⟩ := hnamed r (List.mem_cons_self ..)
    exact Or.inl (by simp [closeStep, Shared.onRecord, hrecord])
  | settlingRunning s todo running =>
    cases todo with
    | nil => exact Or.inl rfl
    | cons r todo =>
      obtain ⟨record, hrecord, -⟩ := hnamed r (List.mem_cons_self ..)
      exact Or.inl (by simp [closeStep, Shared.onRecord, hrecord])
  | waiting s running =>
    cases running with
    | nil =>
      refine Or.inl ?_
      simp only [closeStep, locking, hlifecycle]
      cases shared.table.finalize id s <;> rfl
    | cons r running =>
      obtain ⟨record, hrecord, -⟩ := hnamed r (List.mem_cons_self ..)
      cases hterminal : terminal record.state with
      | true => exact Or.inl (by simp [closeStep, hrecord, hterminal])
      | false => exact Or.inr ⟨s, r, running, rfl, by simp [Registry.endedAt, hrecord, hterminal]⟩

/-- A call, with the mutexes free that it does not hold itself. -/
theorem enabled_call {request : Request} {stage : CallStage}
    (hterminated : shared.terminated = false)
    (hlifecycle : shared.lifecycleMutex = none ∨ (Thread.call request stage).HoldsLifecycle ∨
      (Thread.call request stage).HoldsRegistry)
    (hregistry : shared.registryMutex = none ∨ (Thread.call request stage).HoldsRegistry)
    (hnamed : ∀ r ∈ (Thread.call request stage).named, shared.registry.At r fun _ => True)
    (hadmitted : ∀ s, stage = .submit (.admitted s) → shared.table.At s fun _ => True) :
    Enabled settings i shared (.call request stage) ∨
      (Thread.call request stage).Resting shared := by
  have hgo : ∀ choice, (callStep settings i shared request stage choice).isSome = true →
      Enabled settings i shared (.call request stage) := by
    intro choice hsome
    refine ⟨choice, ?_⟩
    simpa [threadStep, hterminated] using hsome
  cases stage with
  | begun => exact Or.inl (hgo (.go fun _ => false) rfl)
  | create stage =>
    have hunlocked := hlifecycle.resolve_right (by rintro (h | h) <;> exact h)
    cases stage with
    | entered =>
      refine Or.inl (hgo (.go fun _ => false) ?_)
      simp only [callStep, createStep, locking, hunlocked]
      cases shared.table.reserve settings fun _ => false <;> rfl
    | reserved => exact Or.inl (hgo (.compile (.value ())) rfl)
    | validated =>
      refine Or.inl (hgo (.go fun _ => false) ?_)
      simp only [callStep, createStep, locking, hunlocked]
      cases shared.table.publish settings request.document fun _ => false <;> rfl
    | rollingBack failure =>
      refine Or.inl (hgo (.go fun _ => false) ?_)
      simp only [callStep, createStep, locking, hunlocked]
      cases shared.table.dropPending <;> rfl
  | close stage =>
    have hunlocked := hlifecycle.resolve_right (by rintro (h | h) <;> exact h)
    rcases enabled_close settings request.sessionId hunlocked
      (hregistry.resolve_right id) hnamed with hsome | ⟨s, r, running, rfl, hended⟩
    · exact Or.inl (hgo _ hsome)
    · exact Or.inr hended
  | submit stage =>
    have hfree := hregistry.resolve_right (by cases stage <;> exact id)
    cases stage with
    | entered =>
      have hunlocked := hlifecycle.resolve_right (by rintro (h | h) <;> exact h)
      refine Or.inl (hgo (.go fun _ => false) ?_)
      simp only [callStep, submitStep, locking, hunlocked]
      cases shared.table.findOpen? settings.instanceId request.sessionId <;> rfl
    | admitted s =>
      obtain ⟨session, hsession, -⟩ := hadmitted s rfl
      exact Or.inl (hgo (.go fun _ => false)
        (by simp [callStep, submitStep, locking, hfree, hsession]))
  | lookup kind stage =>
    have hfree := hregistry.resolve_right id
    cases stage with
    | entered =>
      refine Or.inl (hgo (.go fun _ => false) ?_)
      simp only [callStep, lookupStep, locking, hfree]
      cases shared.registry.find? settings.instanceId request.jobId <;> rfl
    | found r =>
      obtain ⟨record, hrecord, -⟩ := hnamed r (List.mem_singleton_self r)
      exact Or.inl (hgo (.go fun _ => false)
        (by simp [callStep, lookupStep, Shared.onRecord, hrecord]))
  | release stage =>
    cases stage with
    | entered =>
      have hfree := hregistry.resolve_right id
      refine Or.inl (hgo (.go fun _ => false) ?_)
      simp only [callStep, releaseStep, locking, hfree]
      cases shared.registry.find? settings.instanceId request.jobId <;> rfl
    | found r =>
      obtain ⟨record, hrecord, -⟩ := hnamed r (List.mem_singleton_self r)
      refine Or.inl (hgo (.go fun _ => false) ?_)
      simp only [callStep, releaseStep, hrecord]
      cases terminal record.state <;> rfl
    | erasing r => exact Or.inl (hgo (.go fun _ => false) rfl)
  | info stage =>
    have hfree := hregistry.resolve_right id
    cases stage with
    | entered => exact Or.inl (hgo (.go fun _ => false) rfl)
    | counted activeSessions =>
      exact Or.inl (hgo (.go fun _ => false) (by simp [callStep, infoStep, locking, hfree]))
  | shutdown => exact Or.inl (hgo (.go fun _ => false) rfl)
  | ended ending => exact Or.inl (hgo (.go fun _ => false) rfl)
  | returned ending response => exact Or.inr trivial

end Progress

/-! ## At rest -/

omit [Kernel] in
def CallStage.isReturned : CallStage → Bool
  | returned _ _ => true
  | _ => false

omit [Kernel] in
/-- The function of the thread has returned. -/
def Thread.isOver : Thread → Bool
  | worker .exited => true
  | worker _ => false
  | call _ stage => stage.isReturned

omit [Kernel] in
theorem Thread.isOver.cases {l : Thread} (h : l.isOver = true) :
    l = .worker .exited ∨
      ∃ request ending response, l = .call request (.returned ending response) := by
  cases l with
  | worker stage =>
    cases stage with
    | exited => exact Or.inl rfl
    | _ => cases h
  | call request stage =>
    cases stage with
    | returned ending response => exact Or.inr ⟨request, ending, response, rfl⟩
    | _ => cases h

theorem threadStep_of_isOver (i : Nat) (shared : Shared) {l : Thread} (choice : Choice)
    (h : l.isOver = true) : threadStep settings i shared l choice = none := by
  obtain rfl | ⟨request, ending, response, rfl⟩ := Thread.isOver.cases h <;>
    cases choice <;> simp [threadStep, workerStep, callStep]

omit [Kernel] in
theorem waits_of_isOver {l : Thread} (h : l.isOver = true) : monitor.waits l = none := by
  obtain rfl | ⟨request, ending, response, rfl⟩ := Thread.isOver.cases h <;> rfl

/-- No thread can go on, unless one wakes up for no reason. -/
def Stuck (settings : Settings) (c : Config (Waiting Shared Condition) Thread) : Prop :=
  ∀ i choice, choice.Eager → (monitoredService settings).next c (.move i choice) = none

/-- Every call has returned, every worker sleeps, and every job has ended. -/
structure AtRest (c : Config (Waiting Shared Condition) Thread) : Prop where
  calls : ∀ {i : Nat} {request : Request} {stage : CallStage},
    c.threads[i]? = some (.call request stage) →
      ∃ ending response, stage = .returned ending response
  workers : ∀ {i : Nat} {stage : WorkerStage}, c.threads[i]? = some (.worker stage) →
    stage = .idle ∧ c.shared.asleep i = true
  mutexes : c.shared.shared.lifecycleMutex = none ∧ c.shared.shared.registryMutex = none
  queue : c.shared.shared.registry.queue = []
  records : ∀ {r : JobRef} {record : JobRecord},
    c.shared.shared.registry.records[r]? = some record → terminal record.state = true

section Stuck

variable {c : Config (Waiting Shared Condition) Thread} {i : Nat} {l : Thread}

theorem Stuck.not_enabled (h : Stuck settings c) (hl : c.threads[i]? = some l)
    (hawake : c.shared.asleep i = false) : ¬ Enabled settings i c.shared.shared l := by
  rintro ⟨choice, hsome⟩
  have hnone := h i (.step choice 0) trivial
  obtain ⟨result, hresult⟩ := Option.isSome_iff_exists.mp hsome
  simp [monitoredService, Program.next, Program.monitored, hl, hawake, service, hresult] at hnone

theorem Stuck.not_sleepy (h : Stuck settings c) (hl : c.threads[i]? = some l)
    (hawake : c.shared.asleep i = false) {k : Condition} (hwaits : monitor.waits l = some k)
    (hlockable : monitor.lockable c.shared.shared l = true) :
    monitor.holds c.shared.shared l = true := by
  have hnone := h i .sleep trivial
  simpa [monitoredService, Program.next, Program.monitored, hl, hawake, hwaits,
    hlockable] using hnone

/-- A thread that sleeps is idle, or a close that waits for a record. -/
theorem waits_of_asleep (h : MonitoredReachable settings c) (hl : c.threads[i]? = some l)
    (hasleep : c.shared.asleep i = true) :
    l = .worker .idle ∨ ∃ request s r running,
      l = .call request (.close (.waiting s (r :: running))) ∧
        (i, .terminalChanged r) ∈ c.shared.waiters := by
  obtain ⟨k, hmem⟩ := Waiting.asleep_iff.mp hasleep
  obtain ⟨l', hl', hwaits⟩ := h.queued.waits hmem
  cases hl.symm.trans hl'
  cases k with
  | ready => exact Or.inl (waits_ready_iff.mp hwaits)
  | terminalChanged r =>
    obtain ⟨request, s, running, rfl⟩ := waits_terminalChanged_iff.mp hwaits
    exact Or.inr ⟨request, s, r, running, rfl, hmem⟩

theorem awake_of_holdsRegistry (h : MonitoredReachable settings c) (hl : c.threads[i]? = some l)
    (hholds : l.HoldsRegistry ∨ l.HoldsLifecycle) : c.shared.asleep i = false := by
  rw [Bool.eq_false_iff]
  intro hasleep
  rcases waits_of_asleep h hl hasleep with rfl | ⟨request, s, r, running, rfl, -⟩ <;>
    rcases hholds with hholds | hholds <;> exact hholds

/-- The record of a session that was admitted exists. -/
theorem admitted_at {c : Config Shared Thread} (h : Reachable settings c) {request : Request}
    {s : SessionRef} (hl : c.threads[i]? = some (.call request (.submit (.admitted s)))) :
    c.shared.table.At s fun _ => True := by
  obtain ⟨-, -, record, hrecord, -⟩ := (sessionOutline_holds h).thread hl
  exact ⟨record, hrecord, trivial⟩

/-- Whatever is not asleep can go on or rests, once the mutexes that it needs are free. -/
theorem enabled_or_resting {c : Config Shared Thread} (h : Reachable settings c)
    (hl : c.threads[i]? = some l)
    (hlifecycle : c.shared.lifecycleMutex = none ∨ l.HoldsLifecycle ∨ l.HoldsRegistry)
    (hregistry : c.shared.registryMutex = none ∨ l.HoldsRegistry) :
    Enabled settings i c.shared l ∨ l.Resting c.shared := by
  have hterminated : c.shared.terminated = false := (sessionOutline_holds h).shared.2
  have hnamed := named_of_reachable h l (List.mem_of_getElem? hl)
  cases l with
  | worker stage => exact enabled_worker hterminated (hregistry.resolve_right id) hnamed
  | call request stage =>
    refine enabled_call hterminated hlifecycle hregistry hnamed ?_
    rintro s rfl
    exact admitted_at h hl

/-- Where no thread can go on, both mutexes are free. -/
theorem Stuck.mutexes (hstuck : Stuck settings c) (h : MonitoredReachable settings c) :
    c.shared.shared.lifecycleMutex = none ∧ c.shared.shared.registryMutex = none := by
  have hregistry : c.shared.shared.registryMutex = none := by
    by_contra howned
    obtain ⟨l, hl, hholds⟩ := registryMutex_held h.guarded howned
    obtain ⟨i, hi⟩ := List.getElem?_of_mem hl
    rcases enabled_or_resting h.guarded hi (Or.inr (Or.inr hholds)) (Or.inr hholds) with
      henabled | hresting
    · exact hstuck.not_enabled hi (awake_of_holdsRegistry h hi (Or.inl hholds)) henabled
    · unfold Thread.HoldsRegistry at hholds
      split at hholds <;> first | exact hresting | exact hholds
  refine ⟨?_, hregistry⟩
  by_contra howned
  obtain ⟨l, hl, hholds⟩ := lifecycleMutex_held h.guarded howned
  obtain ⟨i, hi⟩ := List.getElem?_of_mem hl
  rcases enabled_or_resting h.guarded hi (Or.inr (Or.inl hholds)) (Or.inl hregistry) with
    henabled | hresting
  · exact hstuck.not_enabled hi (awake_of_holdsRegistry h hi (Or.inr hholds)) henabled
  · unfold Thread.HoldsLifecycle at hholds
    split at hholds <;> first | exact hresting | exact hholds

/-- Where no thread can go on, whoever is awake has returned. -/
theorem Stuck.returned_of_awake (hstuck : Stuck settings c) (h : MonitoredReachable settings c)
    (hl : c.threads[i]? = some l) (hawake : c.shared.asleep i = false) :
    ∃ request ending response, l = .call request (.returned ending response) := by
  obtain ⟨hlifecycle, hregistry⟩ := hstuck.mutexes h
  have hterminated : c.shared.shared.terminated = false := (sessionOutline_holds h.guarded).shared.2
  have hresting :=
    (enabled_or_resting h.guarded hl (Or.inl hlifecycle) (Or.inl hregistry)).resolve_left
    (hstuck.not_enabled hl hawake)
  unfold Thread.Resting at hresting
  split at hresting
  · have hholds := hstuck.not_sleepy hl hawake rfl (by simp [monitor, hterminated, hregistry])
    have hready : c.shared.shared.registry.stopping = true ∨
        c.shared.shared.registry.queue ≠ [] := by
      simpa [monitor] using hholds
    rcases hready with hstopping | hqueue
    · exact absurd (hstopping.symm.trans hresting.1) (by decide)
    · exact absurd hresting.2 hqueue
  · exact absurd rfl (not_exited_of_reachable h.guarded _ (List.mem_of_getElem? hl))
  · exact ⟨_, _, _, rfl⟩
  · have hholds := hstuck.not_sleepy hl hawake rfl (by simp [monitor, hterminated])
    exact absurd (hholds.symm.trans hresting) (by decide)
  · exact absurd hresting id

theorem Stuck.queue_eq_nil (hstuck : Stuck settings c) (h : MonitoredReachable settings c) :
    c.shared.shared.registry.queue = [] := by
  by_contra hqueue
  obtain ⟨i, stage, hi, -, hawake⟩ := h.exists_awake_worker hqueue
  obtain ⟨request, ending, response, heq⟩ := hstuck.returned_of_awake h hi hawake
  cases heq

/-- Where no thread can go on, every job has ended: nobody holds a record that has not. -/
theorem Stuck.ended (hstuck : Stuck settings c) (h : MonitoredReachable settings c) {r : JobRef}
    {record : JobRecord} (hr : c.shared.shared.registry.records[r]? = some record) :
    terminal record.state = true := by
  by_contra hlive
  rcases held_of_reachable h.guarded r ⟨record, hr, by simpa using hlive⟩ with hqueue |
    ⟨l, hl, howned⟩
  · change r ∈ c.shared.shared.registry.queue at hqueue
    rw [hstuck.queue_eq_nil h] at hqueue
    cases hqueue
  · obtain ⟨i, hi⟩ := List.getElem?_of_mem hl
    cases hasleep : c.shared.asleep i with
    | false =>
      obtain ⟨request, ending, response, rfl⟩ := hstuck.returned_of_awake h hi hasleep
      cases howned
    | true =>
      rcases waits_of_asleep h hi hasleep with rfl | ⟨request, s, r', running, rfl, -⟩ <;>
        cases howned

/-- Where no thread can go on, nothing is left to do. -/
theorem Stuck.atRest (hstuck : Stuck settings c) (h : MonitoredReachable settings c) :
    AtRest c where
  calls := by
    intro i request stage hi
    cases hasleep : c.shared.asleep i with
    | false =>
      obtain ⟨_, ending, response, heq⟩ := hstuck.returned_of_awake h hi hasleep
      cases heq
      exact ⟨ending, response, rfl⟩
    | true =>
      -- A close that sleeps at an ended record leaves a worker awake in its fence.
      rcases waits_of_asleep h hi hasleep with heq | ⟨_, s, r, running, heq, hmem⟩
      · cases heq
      · cases heq
        obtain ⟨record, hrecord, -⟩ :=
          named_of_reachable h.guarded _ (List.mem_of_getElem? hi) r (List.mem_cons_self ..)
        have hended : c.shared.shared.registry.endedAt r = true :=
          Registry.endedAt_iff.mpr ⟨record, hrecord, hstuck.ended h hrecord⟩
        obtain ⟨j, l, hj, hfences, hawake⟩ := h.exists_fence hmem hended
        obtain ⟨request', ending, response, rfl⟩ := hstuck.returned_of_awake h hj hawake
        exact absurd hfences id
  workers := by
    intro i stage hi
    cases hasleep : c.shared.asleep i with
    | false =>
      obtain ⟨_, ending, response, heq⟩ := hstuck.returned_of_awake h hi hasleep
      cases heq
    | true =>
      rcases waits_of_asleep h hi hasleep with heq | ⟨_, s, r, running, heq, -⟩
      · cases heq
        exact ⟨rfl, rfl⟩
      · cases heq
  mutexes := hstuck.mutexes h
  queue := hstuck.queue_eq_nil h
  records := hstuck.ended h

end Stuck

/-- Every call returns. From every reachable configuration, however the threads are scheduled,
the service makes at most so many steps before new calls come in or a thread wakes up for no
reason; and where it comes to a stop, every call has returned, every job has ended, the queue is
empty, the mutexes are free and the workers sleep. There is no deadlock, no lost wake-up and no
endless loop. -/
theorem calls_return {c c' : Config (Waiting Shared Condition) Thread}
    (h : MonitoredReachable settings c) {acts : List (Act (Wake Choice) Request)}
    (hacts : ∀ act ∈ acts, ∃ i choice, act = .move i choice ∧ choice.Eager)
    (hrun : (monitoredService settings).run c acts = some c') :
    acts.length ≤ effort work c ∧ (Stuck settings c' → AtRest c') := by
  have hbound := length_le_effort work hacts hrun h.queued fun hleads hmoves =>
    work_step (h.guarded.trans hleads) hmoves
  have hleads : (monitoredService settings).Leads (Wake.Allowed fun _ => True) c c' := by
    refine ⟨acts, fun act hact => ?_, hrun⟩
    obtain ⟨i, choice, rfl, -⟩ := hacts act hact
    cases choice <;> trivial
  exact ⟨by omega, fun hstuck => hstuck.atRest (Program.Leads.trans h hleads)⟩

omit [Kernel] in
/-- From the submit of the only job to the end of its execution, where everything is at rest. -/
theorem calls_return_executed :
    ∃ c c' acts, @MonitoredReachable sampleKernel sampleSettings c ∧
      (@monitoredService sampleKernel sampleSettings).run c acts = some c' ∧
      c'.shared.shared.registry.endedAt 0 = true ∧ acts.length ≤ effort work c ∧
      c'.threads.length = 4 ∧ AtRest c' := by
  let _ : Kernel := sampleKernel
  let acts : List (Act (Wake Choice) Request) :=
    [plainWake 0 0, plainWake 0 0, plainWake 0 0, .move 0 (.step (.compile (.value ())) 0),
      plainWake 0 0, .move 0 (.step (.execute (.failure ⟨.internal, []⟩)) 0), plainWake 0 0,
      plainWake 0 0, .move 0 .sleep, plainWake 2 0, plainWake 3 0]
  have hacts : ∀ act ∈ acts, ∃ i choice, act = .move i choice ∧ choice.Eager := by
    simp [acts, plainWake, Wake.Eager]
  have htest : (((monitoredService sampleSettings).run
      ⟨⟨Shared.initial, []⟩, (initial sampleSettings).threads⟩ (sampleWakes 0)).bind fun c =>
        (monitoredService sampleSettings).run c acts).any
          (fun c' => c'.shared.shared.registry.endedAt 0 && decide (c'.threads.length = 4) &&
            c'.rests Thread.isOver) = true := by decide +kernel
  obtain ⟨c', hc', htest⟩ := (Option.any_eq_true _ _).mp htest
  obtain ⟨htest, hrests⟩ := Bool.and_eq_true_iff.mp htest
  obtain ⟨hended, hcount⟩ := Bool.and_eq_true_iff.mp htest
  obtain ⟨c, hc, hrun⟩ := Option.bind_eq_some_iff.mp hc'
  have hreachable : MonitoredReachable sampleSettings c :=
    MonitoredReachable.run (Program.Leads.refl _) (sampleWakes 0) hc
  have hstuck : Stuck sampleSettings c' := fun i _ heager =>
    next_eq_none_of_rests (fun i shared _ choice => threadStep_of_isOver i shared choice)
      (fun _ => waits_of_isOver) hrests i heager
  obtain ⟨hlength, hrest⟩ := calls_return hreachable hacts hrun
  exact ⟨c, c', acts, hreachable, hrun, hended, hlength, of_decide_eq_true hcount, hrest hstuck⟩

end PhotospiderDaemon.Orchestration
