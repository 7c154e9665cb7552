import PhotospiderDaemon.Foundation.Sweep
import PhotospiderDaemon.Orchestration.Ownership

/-!
# What closing a session does to the registry

The three loops in the locked part of `JobRegistry::close_session`, with the storage that was
reserved in front of them. They compute `Registry.drain`, and under the invariant of the registry
the records of the session are split into those that were queued and those that a worker has
popped, with nothing lost, listed twice or touched besides. The steps of `settle_close_records`
then write in these records only.
-/

namespace PhotospiderDaemon.Orchestration

open Foundation Ipc

/-! ## The loops -/

namespace Registry

/-- The locked part of `JobRegistry::close_session` after both `reserve` calls. There is no
result if a push needs storage that was not reserved. -/
def closeLoops (registry : Registry) (sessionId : SessionId) :
    Option (Registry × List JobRef × List JobRef) := do
  let (queue, queued) ← sweep (registry.belongs sessionId) [] registry.queue
    (Reserved.empty registry.queue.length)
  let jobs := queued.elements.foldl registry.eraseRecord registry.jobs
  let (jobs, running) ← sweepMap (registry.belongs sessionId) jobs jobs.entries
    (Reserved.empty registry.jobs.size)
  return ({ registry with queue := queue, jobs := jobs }, queued.elements, running.elements)

variable {registry registry' registry'' : Registry} {sessionId : SessionId} {r : JobRef}

/-- The reserved storage suffices, and the loops compute `drain`. -/
theorem closeLoops_eq (registry : Registry) (sessionId : SessionId) :
    registry.closeLoops sessionId = some (registry.drain sessionId) ∧
      (registry.drain sessionId).2.1.length ≤ registry.queue.length ∧
      (registry.drain sessionId).2.2.length ≤ registry.jobs.size := by
  have hqueue : (Reserved.empty registry.queue.length : Reserved JobRef).elements.length +
      registry.queue.length ≤ (Reserved.empty registry.queue.length : Reserved JobRef).capacity :=
    Nat.le_of_eq (Nat.zero_add _)
  obtain ⟨queued, hsweep, hcapacity, hqueued⟩ := sweep_eq (registry.belongs sessionId) [] hqueue
  rw [List.nil_append] at hsweep
  have hqueued : queued.elements = registry.queue.filter (registry.belongs sessionId) := hqueued
  -- the map has only become smaller since its size was read
  have hsize := size_foldl_eraseRecord_le registry queued.elements registry.jobs
  have hroom : (Reserved.empty registry.jobs.size : Reserved JobRef).elements.length +
      (queued.elements.foldl registry.eraseRecord registry.jobs).size ≤
        (Reserved.empty registry.jobs.size : Reserved JobRef).capacity := by
    show 0 + _ ≤ registry.jobs.size
    omega
  obtain ⟨running, hmap, hcapacity', hrunning⟩ :=
    sweepMap_eq (registry.belongs sessionId) _ hroom
  rw [hqueued] at hmap hrunning
  have hfits := queued.fits
  have hfits' := running.fits
  rw [hqueued, hcapacity] at hfits
  rw [hrunning, hcapacity'] at hfits'
  refine ⟨?_, hfits, hfits'⟩
  simp only [closeLoops, hsweep, Option.bind_eq_bind, Option.bind_some, hqueued, hmap, hrunning]
  rfl

/-! ## The partition -/

/-- The registry after the locked part of a close, and the records that it hands over. -/
structure Partitioned (registry : Registry) (sessionId : SessionId) (left : Registry)
    (queued running : List JobRef) : Prop where
  queue : left.queue = registry.queue.filter fun r => !registry.belongs sessionId r
  jobs : left.jobs = registry.jobs.removeIf fun _ r => registry.belongs sessionId r
  queued_eq : queued = registry.queue.filter (registry.belongs sessionId)
  running_eq : running = (registry.jobs.entries.map (·.2)).filter fun r =>
    registry.belongs sessionId r && !decide (r ∈ registry.queue)
  nodup : (queued ++ running).Nodup
  kept : left.records = registry.records ∧ left.nextId = registry.nextId ∧
    left.stopping = registry.stopping

/-- The second loop takes the queued records out of the map. -/
theorem foldl_eraseRecord_eq (hkeyed : registry.Keyed registry.jobs) (queued : List JobRef) :
    queued.foldl registry.eraseRecord registry.jobs =
      registry.jobs.removeIf fun _ r => decide (r ∈ queued) := by
  apply OrderedMap.ext_find?
  intro key r
  rw [find?_foldl_eraseRecord queued hkeyed, OrderedMap.find?_removeIf, decide_eq_false_iff_not]

/-- No record has two entries in the map. -/
theorem Sound.nodup_values {settings : Settings} (h : registry.Sound settings) :
    (registry.jobs.entries.map (·.2)).Nodup := by
  rw [List.Nodup, List.pairwise_map]
  refine registry.jobs.sorted.imp_of_mem ?_
  rintro ⟨key, r⟩ ⟨key', r'⟩ hr hr' hlt heq
  cases heq
  obtain ⟨record, hrecord, rfl⟩ := h.keyed (OrderedMap.mem_entries_iff_find?.mp hr)
  have hkey' := (h.keyed (OrderedMap.mem_entries_iff_find?.mp hr')).of_some hrecord
  exact absurd (hkey' ▸ hlt) (lt_irrefl _)

theorem partitioned_drain {settings : Settings} (h : registry.Sound settings)
    (sessionId : SessionId) :
    registry.Partitioned sessionId (registry.drain sessionId).1 (registry.drain sessionId).2.1
      (registry.drain sessionId).2.2 := by
  have hdrained := drain_spec h.keyed sessionId
  have hrunning : (registry.drain sessionId).2.2 = (registry.jobs.entries.map (·.2)).filter
      fun r => registry.belongs sessionId r && !decide (r ∈ registry.queue) := by
    simp only [drain, foldl_eraseRecord_eq h.keyed, OrderedMap.removeIf, List.filter_filter,
      List.filter_map]
    congr 1
    apply List.filter_congr
    rintro ⟨key, r⟩ _
    cases hr : registry.belongs sessionId r with
    | false => simp [hr]
    | true => simp [hr]
  refine ⟨rfl, ?_, rfl, hrunning, ?_, rfl, rfl, rfl⟩
  · apply OrderedMap.ext_find?
    intro key r
    rw [hdrained.jobs, OrderedMap.find?_removeIf]
  · have hqueue : registry.queue.Nodup := h.queue_ascending.imp Nat.ne_of_lt
    rw [hrunning, List.nodup_append]
    refine ⟨hqueue.filter _, h.nodup_values.filter _, ?_⟩
    rintro r hr _ hr' rfl
    have hnot := (List.mem_filter.mp hr').2
    have hin : r ∈ registry.queue := (List.mem_filter.mp hr).1
    simp [hin] at hnot

/-! ## Settling -/

/-- What one step of `settle_close_records` may do: nothing but write in the records of its
lists, and in one that was popped only the cancellation request. -/
structure Settles (queued running : List JobRef) (registry registry' : Registry) : Prop where
  jobs : registry'.jobs = registry.jobs
  queue : registry'.queue = registry.queue
  nextId : registry'.nextId = registry.nextId
  stopping : registry'.stopping = registry.stopping
  length : registry'.records.length = registry.records.length
  popped : ∀ {r : JobRef} {record : JobRecord}, r ∉ queued → registry.records[r]? = some record →
    ∃ cancelled, registry'.records[r]? = some { record with cancelled := cancelled }
  outside : ∀ {r : JobRef}, r ∉ queued → r ∉ running → registry'.records[r]? = registry.records[r]?

theorem Settles.refl (queued running : List JobRef) (registry : Registry) :
    Settles queued running registry registry where
  jobs := rfl
  queue := rfl
  nextId := rfl
  stopping := rfl
  length := rfl
  popped _ hr := ⟨_, hr⟩
  outside _ _ := rfl

theorem Settles.write {queued running : List JobRef} {record record' : JobRecord}
    (hr : registry.records[r]? = some record)
    (h : r ∈ queued ∨ r ∈ running ∧ ∃ cancelled, record' = { record with cancelled := cancelled }) :
    Settles queued running registry (registry.write r record') where
  jobs := rfl
  queue := rfl
  nextId := rfl
  stopping := rfl
  length := List.length_set
  popped := by
    intro r₁ record₁ hr₁ hrecord₁
    by_cases heq : r = r₁
    · subst heq
      cases hr.symm.trans hrecord₁
      obtain ⟨-, cancelled, rfl⟩ := h.resolve_left hr₁
      exact ⟨cancelled, records_write_self hr⟩
    · exact ⟨record₁.cancelled, (records_write_ne heq).trans hrecord₁⟩
  outside := by
    intro r₁ hqueued hrunning
    apply records_write_ne
    rintro rfl
    exact h.elim hqueued fun hr => hrunning hr.1

end Registry

/-- The thread works through lists of records that it was handed by the locked part. -/
def Thread.Settling (queued running : List JobRef) : Thread → Prop
  | .call _ (.close (.settlingQueued _ queued' running')) => queued' ⊆ queued ∧ running' ⊆ running
  | .call _ (.close (.cancelling _ r queued' running')) =>
    r ∈ queued ∧ queued' ⊆ queued ∧ running' ⊆ running
  | .call _ (.close (.settlingRunning _ todo _)) => todo ⊆ running
  | .call _ (.close (.waiting _ _)) => True
  | .call _ (.ended _) => True
  | .call _ (.returned _ _) => True
  | _ => False

section Steps

variable [Kernel] {settings : Settings} {c : Config Shared Thread} {i : Nat} {l l' : Thread}
  {choice : Choice} {shared' : Shared} {queued running : List JobRef}

theorem settles_step (hmoves : (service settings).Moves c i l choice shared' l')
    (hl : l.Settling queued running) :
    Registry.Settles queued running c.shared.registry shared'.registry ∧
      l'.Settling queued running := by
  cases threadMove hmoves with
  | worker hmove => cases hl
  | call hmove =>
    cases hmove with
    | respond hchoice => exact ⟨.refl _ _ _, trivial⟩
    | closeQueuedDone => exact ⟨.refl _ _ _, hl.2⟩
    | closeCancelling hr =>
      have hmem := hl.1 List.mem_cons_self
      exact ⟨.write hr (Or.inl hmem), hmem, fun r hr => hl.1 (List.mem_cons_of_mem _ hr), hl.2⟩
    | closeSettled hr => exact ⟨.write hr (Or.inl hl.1), hl.2⟩
    | @closeRequested s r todo running' record hr =>
      have hmem := hl List.mem_cons_self
      have hcancelled : ∃ cancelled,
          record.cancelUnlessTerminal = { record with cancelled := cancelled } := by
        unfold JobRecord.cancelUnlessTerminal
        split
        · exact ⟨record.cancelled, rfl⟩
        · exact ⟨true, rfl⟩
      exact ⟨.write hr (Or.inr ⟨hmem, hcancelled⟩), fun r hr => hl (List.mem_cons_of_mem _ hr)⟩
    | closeRunningDone => exact ⟨.refl _ _ _, trivial⟩
    | closeWaited hr hterminal => exact ⟨.refl _ _ _, trivial⟩
    | closeFinalized hmutex hfind hclosing => exact ⟨.refl _ _ _, trivial⟩
    | closeTerminated hwhy => exact ⟨.refl _ _ _, trivial⟩
    | _ => cases hl

/-- Every step that a close makes after its locked part, whatever other threads do in between. -/
theorem settles_of_run {c' : Config Shared Thread} {acts : List (Act Choice Request)}
    (hrun : (service settings).run c acts = some c') (hl : c.threads[i]? = some l)
    (hsettling : l.Settling queued running) :
    ∀ step ∈ (service settings).own i c acts,
      Registry.Settles queued running step.1.registry step.2.registry := by
  have hleads := leads_of_run acts hrun
  have hacts : ∀ act ∈ acts, act.Allowed (fun _ : Choice => True) :=
    fun act _ => by cases act <;> trivial
  have hi : i < c'.threads.length :=
    (List.getElem?_eq_some_iff.mp hl).1.trans_le hleads.length_le
  refine Program.own_induct (motive := fun l steps => l.Settling queued running →
      ∀ step ∈ steps, Registry.Settles queued running step.1.registry step.2.registry)
    hacts hrun hl (List.getElem?_eq_getElem hi) ?_ ?_ hsettling
  · intro _ step hstep
    cases hstep
  · intro c₁ l₁ choice s₂ l₂ steps _ _ _ hmoves ih hl₁ step hstep
    obtain ⟨hsettles, hl₂⟩ := settles_step hmoves hl₁
    rcases List.mem_cons.mp hstep with rfl | hstep
    · exact hsettles
    · exact ih hl₂ step hstep

end Steps

/-! ## Closing a session -/

variable [Kernel] {settings : Settings} {registry : Registry}

/-- From a sound registry the locked part of a close has a result within the reserved storage. It
splits the records of the session exactly, and leaves everything else as it is. The close goes on
with the two lists; it writes in no record outside of them, and in a popped one only the
cancellation request. -/
theorem close_session_partitions (h : registry.Sound settings) (sessionId : SessionId) :
    ∃ left queued running, registry.closeLoops sessionId = some (left, queued, running) ∧
      registry.Partitioned sessionId left queued running ∧
      queued.length ≤ registry.queue.length ∧ running.length ≤ registry.jobs.size ∧
      (∀ (shared : Shared) (s : SessionRef) (fails : Fault → Bool), shared.registry = registry →
        shared.registryMutex = none → fails .snapshot = false →
        closeStep settings sessionId shared (.marked s) (.go fails) =
          some ({ shared with registry := left }, .close (.settlingQueued s queued running))) ∧
      ∀ (c c' : Config Shared Thread) (acts : List (Act Choice Request)) (i : Nat)
        (request : Request) (s : SessionRef), (service settings).run c acts = some c' →
        c.threads[i]? = some (.call request (.close (.settlingQueued s queued running))) →
        ∀ step ∈ (service settings).own i c acts,
          Registry.Settles queued running step.1.registry step.2.registry := by
  obtain ⟨hloops, hqueued, hrunning⟩ := registry.closeLoops_eq sessionId
  refine ⟨(registry.drain sessionId).1, (registry.drain sessionId).2.1,
    (registry.drain sessionId).2.2, hloops, registry.partitioned_drain h sessionId, hqueued,
    hrunning, ?_, ?_⟩
  · rintro shared s fails rfl hmutex hsnapshot
    simp [closeStep, locking, hmutex, hsnapshot]
  · intro c c' acts i request s hrun hl
    exact settles_of_run hrun hl ⟨List.Subset.refl _, List.Subset.refl _⟩

omit [Kernel] in
/-- The only job of the session is still queued. -/
theorem close_session_partitions_queued :
    ∃ left queued running,
      (@sampleConfig sampleKernel).shared.registry.closeLoops ⟨7, 1⟩ =
        some (left, queued, running) ∧
      (@sampleConfig sampleKernel).shared.registry.Partitioned ⟨7, 1⟩ left queued running ∧
      queued = [0] := by
  let _ : Kernel := sampleKernel
  have hsound : sampleConfig.shared.registry.Sound sampleSettings :=
    (registryOutline_holds reachable_sampleConfig).shared
  obtain ⟨left, queued, running, hloops, hpartitioned, -⟩ := close_session_partitions hsound ⟨7, 1⟩
  refine ⟨left, queued, running, hloops, hpartitioned, ?_⟩
  rw [hpartitioned.queued_eq]
  rfl

end PhotospiderDaemon.Orchestration
