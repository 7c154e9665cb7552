import PhotospiderDaemon.Orchestration.Ownership

/-!
# The order in which jobs start

A run of the service shows which records the workers take from the queue, which of them they
pass to the kernel, and which ones a close takes from the queue instead. The queue is ascending
and a record enters it at its end, so what has been taken is below what is still in it. From
this the order of the pops follows for whole runs, for any number of calls and workers.
-/

namespace PhotospiderDaemon.Orchestration

open Foundation Ipc

/-! ## Events -/

inductive Event where
  /-- A worker takes the record from the queue and calls `execute`. -/
  | popped (r : JobRef)
  /-- A worker calls the kernel to execute the plan of the record. -/
  | executing (r : JobRef)
  /-- A close takes the record from the queue. -/
  | removed (r : JobRef)
deriving DecidableEq

/-- The events of a step, by what its thread was about to do and what it does next. -/
def stepEvents : Thread → Thread → List Event
  | .worker .idle, .worker (.popped r) => [.popped r]
  | .worker (.compiled _), .worker (.executing r _) => [.executing r]
  | .call _ (.close (.marked _)), .call _ (.close (.settlingQueued _ queued _)) =>
    queued.map .removed
  | _, _ => []

def Event.popped? : Event → Option JobRef
  | popped r => some r
  | _ => none

def Event.executing? : Event → Option JobRef
  | executing r => some r
  | _ => none

def Event.removed? : Event → Option JobRef
  | removed r => some r
  | _ => none

/-- The records that workers have taken from the queue, in the order of time. -/
def pops (events : List Event) : List JobRef := events.filterMap Event.popped?

/-- The records that were passed to the kernel, in the order of time. -/
def executions (events : List Event) : List JobRef := events.filterMap Event.executing?

/-- The records that closes have taken from the queue. -/
def removals (events : List Event) : List JobRef := events.filterMap Event.removed?

section Append

variable (events : List Event) (r : JobRef)

theorem pops_append (events' : List Event) :
    pops (events ++ events') = pops events ++ pops events' :=
  List.filterMap_append

theorem executions_append (events' : List Event) :
    executions (events ++ events') = executions events ++ executions events' :=
  List.filterMap_append

theorem removals_append (events' : List Event) :
    removals (events ++ events') = removals events ++ removals events' :=
  List.filterMap_append

@[simp] theorem pops_removed (queued : List JobRef) : pops (queued.map .removed) = [] := by
  simp [pops, List.filterMap_eq_nil_iff, Event.popped?]

@[simp] theorem executions_removed (queued : List JobRef) :
    executions (queued.map .removed) = [] := by
  simp [executions, List.filterMap_eq_nil_iff, Event.executing?]

@[simp] theorem removals_removed (queued : List JobRef) :
    removals (queued.map .removed) = queued := by
  have hself : Event.removed? ∘ Event.removed = some := rfl
  rw [removals, List.filterMap_map, hself, List.filterMap_some]

end Append

/-! ## What one step shows -/

/-- The record that a worker has taken and not yet passed to the kernel. -/
def Thread.pending : Thread → Option JobRef
  | worker (.popped r) => some r
  | worker (.running r) => some r
  | worker (.compiling r _) => some r
  | worker (.compiled r) => some r
  | _ => none

theorem Thread.mem_owned_of_pending {l : Thread} {r : JobRef} (h : l.pending = some r) :
    r ∈ l.owned := by
  cases l with
  | worker stage => cases stage <;> cases h <;> exact List.mem_singleton_self _
  | call request stage => cases h

variable [Kernel] {settings : Settings} {c : Config Shared Thread} {i : Nat} {l l' : Thread}
  {choice : Choice} {shared' : Shared}

/-- The steps with an event, and what all others have in common. -/
inductive Shows (shared : Shared) : Thread → Shared → Thread → Prop where
  | popped {r : JobRef} {queue : List JobRef} {shared' : Shared}
      (hqueue : shared.registry.queue = r :: queue) (hqueue' : shared'.registry.queue = queue) :
      Shows shared (.worker .idle) shared' (.worker (.popped r))
  | executing {r : JobRef} {maximumParallelism : UInt32} :
      Shows shared (.worker (.compiled r)) shared (.worker (.executing r maximumParallelism))
  | removed {request : Request} {s : SessionRef} {running : List JobRef} {shared' : Shared}
      (p : JobRef → Bool)
      (hqueue' : shared'.registry.queue = shared.registry.queue.filter fun r => !p r) :
      Shows shared (.call request (.close (.marked s))) shared'
        (.call request (.close (.settlingQueued s (shared.registry.queue.filter p) running)))
  | nothing {l l' : Thread} {shared' : Shared} (hevents : stepEvents l l' = [])
      (hpending : ∀ r, l'.pending = some r → l.pending = some r) : Shows shared l shared' l'

omit [Kernel] in
/-- A worker that has given its record back, or is in its exception fence, shows nothing. -/
theorem Shows.settled {shared : Shared} {stage stage' : WorkerStage} {r : JobRef}
    (h : stage'.phase = .free ∨ stage'.phase = .fenced r) :
    Shows shared (.worker stage) shared' (.worker stage') := by
  cases stage' with
  | popped r' => exact h.elim nofun nofun
  | running r' => exact h.elim nofun nofun
  | compiling r' mode => exact h.elim nofun nofun
  | compiled r' => exact h.elim nofun nofun
  | executing r' maximumParallelism => exact h.elim nofun nofun
  | _ => exact .nothing (by cases stage <;> rfl) nofun

theorem WorkerStage.Advances.shows {shared : Shared} {stage stage' : WorkerStage}
    (h : stage.Advances choice stage') : Shows shared (.worker stage) shared (.worker stage') := by
  cases h with
  | executes => exact .executing
  | compiles => exact .nothing rfl fun _ h => h
  | compiled hchoice => exact .nothing rfl fun _ h => h
  | stops hstage _ => rcases hstage with rfl | rfl <;> exact .nothing rfl nofun
  | raises hstage _ =>
    rcases hstage with rfl | rfl | ⟨status, rfl⟩ <;> exact .nothing rfl nofun
  | _ => exact .nothing rfl nofun

theorem shows_of_moves (hmoves : (service settings).Moves c i l choice shared' l') :
    Shows c.shared l shared' l' := by
  cases threadMove hmoves with
  | worker hmove =>
    cases hmove with
    | pop _ hqueue => exact .popped hqueue rfl
    | begin hr hqueued => exact .nothing rfl fun _ h => h
    | unexpected _ _ _ _ _ hphase => exact .settled hphase
    | advance _ _ hadvances => exact hadvances.shows
    | publish _ _ _ hphase _ => exact .settled (hphase.imp_right And.left)
  | @call request _ _ _ hmove =>
    cases hmove with
    | closeDrained _ => exact .removed (c.shared.registry.belongs request.sessionId) rfl
    | _ => exact .nothing rfl nofun

/-! ## The order over a whole run -/

/-- What the events so far have to do with the state that they have led to. -/
structure Ordered (c : Config Shared Thread) (events : List Event) : Prop where
  ascending : (pops events).Pairwise fun (r r' : Nat) => r < r'
  /-- what was taken is below what is still queued -/
  below : ∀ r ∈ pops events, ∀ r' ∈ c.shared.registry.queue, (r : Nat) < r'
  published : ∀ r ∈ pops events, (r : Nat) < c.shared.registry.records.length
  removed : ∀ r ∈ removals events, (r : Nat) < c.shared.registry.records.length ∧
    r ∉ c.shared.registry.queue ∧ r ∉ pops events
  once : (executions events).Nodup
  executed : ∀ r ∈ executions events, r ∈ pops events
  pending : ∀ {j : Nat} {m : Thread}, c.threads[j]? = some m → ∀ {r : JobRef}, m.pending = some r →
    r ∈ pops events ∧ r ∉ executions events

omit [Kernel] in
theorem Ordered.initial (settings : Settings) : Ordered (initial settings) [] where
  ascending := List.Pairwise.nil
  below := nofun
  published := nofun
  removed := nofun
  once := List.nodup_nil
  executed := nofun
  pending := by
    intro j m hj r hr
    obtain rfl := eq_idle_of_initial hj
    cases hr

theorem Ordered.spawn {events : List Event} (h : Ordered c events) (request : Request) :
    Ordered ⟨c.shared, c.threads ++ [(service settings).start request]⟩ events where
  ascending := h.ascending
  below := h.below
  published := h.published
  removed := h.removed
  once := h.once
  executed := h.executed
  pending := by
    intro j m hj r hr
    rcases getElem?_snoc hj with hj | ⟨-, rfl⟩
    · exact h.pending hj hr
    · cases hr

omit [Kernel] in
theorem Registry.Evolves.lt_length {owned : List JobRef} {registry registry' : Registry} {r : Nat}
    (h : registry.Evolves owned registry') (hr : r < registry.records.length) :
    r < registry'.records.length :=
  (h.record (List.getElem?_eq_getElem hr)).lt

/-- A step without an event. -/
theorem Ordered.quiet {events : List Event} (h : Ordered c events)
    (hmoves : (service settings).Moves c i l choice shared' l')
    (hevolves : c.shared.registry.Evolves l.owned shared'.registry)
    (hpending : ∀ r, l'.pending = some r → l.pending = some r) :
    Ordered ⟨shared', c.threads.set i l'⟩ events where
  ascending := h.ascending
  below := by
    intro r hr r' hr'
    rcases hevolves.queue hr' with hr' | rfl
    · exact h.below r hr r' hr'
    · exact h.published r hr
  published := fun r hr => hevolves.lt_length (h.published r hr)
  removed := by
    intro r hr
    obtain ⟨hlt, hqueue, hpops⟩ := h.removed r hr
    refine ⟨hevolves.lt_length hlt, fun hr' => ?_, hpops⟩
    rcases hevolves.queue hr' with hr' | rfl
    · exact hqueue hr'
    · exact absurd hlt (Nat.lt_irrefl _)
  once := h.once
  executed := h.executed
  pending := by
    intro j m hj r hr
    rcases getElem?_set_some hj with ⟨-, rfl⟩ | ⟨-, hj⟩
    · exact h.pending hmoves.thread (hpending r hr)
    · exact h.pending hj hr

omit [Kernel] in
/-- A worker takes a record from the queue. -/
theorem Ordered.pop {events : List Event} (h : Ordered c events)
    (hsound : c.shared.registry.Sound settings)
    (hevolves : c.shared.registry.Evolves l.owned shared'.registry) {r : JobRef}
    {queue : List JobRef} (hqueue : c.shared.registry.queue = r :: queue)
    (hqueue' : shared'.registry.queue = queue) (hpending : l'.pending = some r) :
    Ordered ⟨shared', c.threads.set i l'⟩ (events ++ [.popped r]) := by
  have hr : r ∈ c.shared.registry.queue := by rw [hqueue]; exact List.mem_cons_self
  have hfirst : ∀ r' ∈ queue, (r : Nat) < r' := by
    have hascending := hsound.queue_ascending
    rw [hqueue] at hascending
    exact (List.pairwise_cons.mp hascending).1
  have hpops : pops (events ++ [.popped r]) = pops events ++ [r] := pops_append events _
  have hexecutions : executions (events ++ [.popped r]) = executions events := by
    rw [executions_append]
    exact List.append_nil _
  have hremovals : removals (events ++ [.popped r]) = removals events := by
    rw [removals_append]
    exact List.append_nil _
  -- the record that is taken now was not taken before
  have hnew : r ∉ pops events := fun hold => absurd (h.below r hold r hr) (Nat.lt_irrefl _)
  refine ⟨?_, ?_, ?_, ?_, ?_, ?_, ?_⟩
  · rw [hpops, List.pairwise_append]
    refine ⟨h.ascending, List.pairwise_singleton _ _, fun r₁ hr₁ r₂ hr₂ => ?_⟩
    rw [List.mem_singleton.mp hr₂]
    exact h.below r₁ hr₁ r hr
  · intro r₁ hr₁ r₂ hr₂
    rw [hpops, List.mem_append, List.mem_singleton] at hr₁
    have hr₂ : r₂ ∈ queue := hqueue' ▸ hr₂
    rcases hr₁ with hr₁ | rfl
    · exact h.below r₁ hr₁ r₂ (by rw [hqueue]; exact List.mem_cons_of_mem _ hr₂)
    · exact hfirst r₂ hr₂
  · intro r₁ hr₁
    rw [hpops, List.mem_append, List.mem_singleton] at hr₁
    apply hevolves.lt_length
    rcases hr₁ with hr₁ | rfl
    · exact h.published r₁ hr₁
    · exact (hsound.queued _ hr).lt
  · intro r₁ hr₁
    rw [hremovals] at hr₁
    obtain ⟨hlt, hnot, hpopped⟩ := h.removed r₁ hr₁
    refine ⟨hevolves.lt_length hlt, ?_, ?_⟩
    · intro hin
      have hin : r₁ ∈ queue := hqueue' ▸ hin
      exact hnot (by rw [hqueue]; exact List.mem_cons_of_mem _ hin)
    · rw [hpops, List.mem_append, List.mem_singleton]
      rintro (hold | rfl)
      · exact hpopped hold
      · exact hnot hr
  · rw [hexecutions]
    exact h.once
  · intro r₁ hr₁
    rw [hexecutions] at hr₁
    rw [hpops]
    exact List.mem_append_left _ (h.executed r₁ hr₁)
  · intro j m hj r₁ hr₁
    rw [hpops, hexecutions]
    rcases getElem?_set_some hj with ⟨-, rfl⟩ | ⟨-, hj⟩
    · cases hpending.symm.trans hr₁
      refine ⟨List.mem_append_right _ (List.mem_singleton_self r), ?_⟩
      exact fun hold => hnew (h.executed r hold)
    · obtain ⟨hpopped, hexecuted⟩ := h.pending hj hr₁
      exact ⟨List.mem_append_left _ hpopped, hexecuted⟩

omit [Kernel] in
/-- A record that no worker has pending any more was passed to the kernel. -/
theorem Ordered.execute {events : List Event} (h : Ordered c events) {r : JobRef}
    (hpopped : r ∈ pops events) (hnew : r ∉ executions events)
    (hother : ∀ {j : Nat} {m : Thread}, c.threads[j]? = some m → m.pending ≠ some r) :
    Ordered c (events ++ [.executing r]) := by
  have hpops : pops (events ++ [.executing r]) = pops events := by
    rw [pops_append]
    exact List.append_nil _
  have hexecutions : executions (events ++ [.executing r]) = executions events ++ [r] :=
    executions_append events _
  have hremovals : removals (events ++ [.executing r]) = removals events := by
    rw [removals_append]
    exact List.append_nil _
  refine ⟨?_, ?_, ?_, ?_, ?_, ?_, ?_⟩
  · rw [hpops]
    exact h.ascending
  · rw [hpops]
    exact h.below
  · rw [hpops]
    exact h.published
  · rw [hpops, hremovals]
    exact h.removed
  · rw [hexecutions]
    exact List.nodup_append.mpr ⟨h.once, List.pairwise_singleton _ r, fun r₁ hr₁ r₂ hr₂ heq =>
      hnew (by rwa [← List.mem_singleton.mp hr₂, ← heq])⟩
  · intro r₁ hr₁
    rw [hexecutions, List.mem_append, List.mem_singleton] at hr₁
    rw [hpops]
    rcases hr₁ with hr₁ | rfl
    · exact h.executed r₁ hr₁
    · exact hpopped
  · intro j m hj r₁ hr₁
    obtain ⟨hpopped₁, hexecuted⟩ := h.pending hj hr₁
    rw [hpops, hexecutions, List.mem_append, List.mem_singleton]
    refine ⟨hpopped₁, ?_⟩
    rintro (hold | rfl)
    · exact hexecuted hold
    · exact hother hj hr₁

omit [Kernel] in
/-- Records were taken from the queue by a close. -/
theorem Ordered.remove {events : List Event} (h : Ordered c events) {queued : List JobRef}
    (hqueued : ∀ r ∈ queued, (r : Nat) < c.shared.registry.records.length ∧
      r ∉ c.shared.registry.queue ∧ r ∉ pops events) :
    Ordered c (events ++ queued.map .removed) := by
  have hpops : pops (events ++ queued.map .removed) = pops events := by
    rw [pops_append, pops_removed, List.append_nil]
  have hexecutions : executions (events ++ queued.map .removed) = executions events := by
    rw [executions_append, executions_removed, List.append_nil]
  have hremovals : removals (events ++ queued.map .removed) = removals events ++ queued := by
    rw [removals_append, removals_removed]
  refine ⟨?_, ?_, ?_, ?_, ?_, ?_, ?_⟩
  · rw [hpops]
    exact h.ascending
  · rw [hpops]
    exact h.below
  · rw [hpops]
    exact h.published
  · intro r hr
    rw [hremovals, List.mem_append] at hr
    rw [hpops]
    exact hr.elim (h.removed r) (hqueued r)
  · rw [hexecutions]
    exact h.once
  · rw [hexecutions, hpops]
    exact h.executed
  · rw [hexecutions, hpops]
    exact h.pending

theorem Ordered.move {events : List Event} (h : Ordered c events)
    (hc : (registryOutline settings True).Holds c)
    (hmoves : (service settings).Moves c i l choice shared' l') :
    Ordered ⟨shared', c.threads.set i l'⟩ (events ++ stepEvents l l') := by
  have hsound : c.shared.registry.Sound settings := hc.shared
  have hevolves := registry_evolves hmoves hc
  cases shows_of_moves hmoves with
  | popped hqueue hqueue' => exact h.pop hsound hevolves hqueue hqueue' rfl
  | @executing r maximumParallelism =>
    obtain ⟨hpopped, hnew⟩ := h.pending hmoves.thread (show Thread.pending _ = some r from rfl)
    apply (h.quiet hmoves hevolves nofun).execute hpopped hnew
    intro j m hj hpending
    rcases getElem?_set_some hj with ⟨-, rfl⟩ | ⟨hne, hj⟩
    · cases hpending
    · -- no other worker holds the record
      have hdisjoint := hc.pair hne hmoves.thread hj
      exact hdisjoint (List.mem_singleton_self r) (Thread.mem_owned_of_pending hpending)
  | removed p hqueue' =>
    apply (h.quiet hmoves hevolves nofun).remove
    intro r hr
    obtain ⟨hr, hp⟩ := List.mem_filter.mp hr
    refine ⟨hevolves.lt_length (hsound.queued r hr).lt, ?_, ?_⟩
    · intro hleft
      have hleft : r ∈ c.shared.registry.queue.filter fun r => !p r := hqueue' ▸ hleft
      have hnot := (List.mem_filter.mp hleft).2
      rw [hp] at hnot
      cases hnot
    · intro hpopped
      exact absurd (h.below r hpopped r hr) (Nat.lt_irrefl _)
  | nothing hevents hpending =>
    rw [hevents, List.append_nil]
    exact h.quiet hmoves hevolves hpending

/-- The events of a run. -/
def runEvents (settings : Settings) (acts : List (Act Choice Request)) : List Event :=
  (service settings).trace stepEvents (initial settings) acts

theorem ordered_of_run {acts : List (Act Choice Request)}
    (hrun : (service settings).run (initial settings) acts = some c) :
    Ordered c (runEvents settings acts) := by
  apply Program.trace_induct hrun (Ordered.initial settings)
  · intro c₁ request events _ h
    exact h.spawn request
  · intro c₁ i l choice s' l' events hleads h hmoves
    exact h.move (registryOutline_holds hleads) hmoves

/-! ## Jobs start in the order of their submission -/

/-- The identifier of the first record is below that of the second. -/
def Registry.Precedes (registry : Registry) (r r' : JobRef) : Prop :=
  registry.At r fun record => registry.At r' fun record' => record.id.value < record'.id.value

omit [Kernel] in
theorem Registry.Sound.precedes {registry : Registry} (h : registry.Sound settings) {r r' : Nat}
    (hlt : r < r') (hr' : r' < registry.records.length) : registry.Precedes r r' := by
  have hrecord := List.getElem?_eq_getElem (hlt.trans hr')
  have hrecord' := List.getElem?_eq_getElem hr'
  exact ⟨_, hrecord, _, hrecord', h.ascending hrecord hrecord' hlt⟩

omit [Kernel] in
theorem Registry.Sound.lt_of_precedes {registry : Registry} (h : registry.Sound settings)
    {r r' : Nat} (hprecedes : registry.Precedes r r') : r < r' := by
  obtain ⟨record, hr, record', hr', hid⟩ := hprecedes
  rcases Nat.lt_trichotomy r r' with hlt | rfl | hlt
  · exact hlt
  · cases hr.symm.trans hr'
    exact absurd hid (UInt64.lt_irrefl _)
  · exact absurd hid (UInt64.lt_asymm (h.ascending hr' hr hlt))

/-- The law of the queue for a run that has led to a state with this registry. -/
structure StartsInOrder (registry : Registry) (events : List Event) : Prop where
  queue : registry.queue.Pairwise registry.Precedes
  pops : (pops events).Pairwise registry.Precedes
  pops_nodup : (Orchestration.pops events).Nodup
  executions_nodup : (executions events).Nodup
  executions_popped : ∀ r ∈ executions events, r ∈ Orchestration.pops events
  removed : ∀ r ∈ removals events, r ∉ Orchestration.pops events ∧ r ∉ executions events
  first : ∀ {k k' : Nat} {r r' : JobRef}, (Orchestration.pops events)[k]? = some r →
    (Orchestration.pops events)[k']? = some r' → registry.Precedes r r' → k < k'

/-- At the end of every run, and so at all times, the queue is ascending by the identifiers; so is
the sequence of all records that workers have taken; no record is taken or executed twice, and
none that a close has removed. -/
theorem jobs_start_in_order {acts : List (Act Choice Request)}
    (hrun : (service settings).run (initial settings) acts = some c) :
    StartsInOrder c.shared.registry (runEvents settings acts) := by
  have hordered := ordered_of_run hrun
  have hsound : c.shared.registry.Sound settings :=
    (registryOutline_holds (leads_of_run acts hrun)).shared
  have hpops : (pops (runEvents settings acts)).Pairwise c.shared.registry.Precedes := by
    refine hordered.ascending.imp_of_mem ?_
    intro r r' _ hr' hlt
    exact hsound.precedes hlt (hordered.published r' hr')
  refine ⟨?_, hpops, ?_, hordered.once, hordered.executed, ?_, ?_⟩
  · refine hsound.queue_ascending.imp_of_mem ?_
    intro r r' _ hr' hlt
    exact hsound.precedes hlt (hsound.queued r' hr').lt
  · exact hordered.ascending.imp Nat.ne_of_lt
  · intro r hr
    obtain ⟨-, -, hnot⟩ := hordered.removed r hr
    exact ⟨hnot, fun hexecuted => hnot (hordered.executed r hexecuted)⟩
  · intro k k' r r' hr hr' hprecedes
    have hlt := hsound.lt_of_precedes hprecedes
    by_contra hle
    obtain ⟨hk, rfl⟩ := List.getElem?_eq_some_iff.mp hr
    obtain ⟨hk', rfl⟩ := List.getElem?_eq_some_iff.mp hr'
    rcases Nat.lt_or_eq_of_le (Nat.le_of_not_lt hle) with hkk | rfl
    · have hback := List.pairwise_iff_getElem.mp hordered.ascending k' k hk' hk hkk
      exact absurd hlt (Nat.lt_asymm hback)
    · exact absurd hlt (Nat.lt_irrefl _)

omit [Kernel] in
/-- Two jobs of a session are submitted. A worker takes the first of them and passes it to the
kernel, then the session is closed. -/
def sampleCloseActs : List (Act Choice Request) :=
  [.spawn (sampleRequest .sessionCreate), plainMove 2, plainMove 2,
    .move 2 (.compile (.value ())), plainMove 2,
    .spawn (sampleRequest .jobSubmit), plainMove 3, plainMove 3, plainMove 3,
    .spawn (sampleRequest .jobSubmit), plainMove 4, plainMove 4, plainMove 4,
    plainMove 0, plainMove 0, plainMove 0, .move 0 (.compile (.value ())), plainMove 0,
    .spawn (sampleRequest .sessionClose), plainMove 5, plainMove 5, plainMove 5]

omit [Kernel] in
theorem jobs_start_in_order_close :
    ∃ c, (@service sampleKernel sampleSettings).run (initial sampleSettings)
      sampleCloseActs = some c ∧
      pops (@runEvents sampleKernel sampleSettings sampleCloseActs) = [0] ∧
      executions (@runEvents sampleKernel sampleSettings sampleCloseActs) = [0] ∧
      removals (@runEvents sampleKernel sampleSettings sampleCloseActs) = [1] ∧
      StartsInOrder c.shared.registry (@runEvents sampleKernel sampleSettings sampleCloseActs) := by
  have hsome : ((@service sampleKernel sampleSettings).run (initial sampleSettings)
      sampleCloseActs).isSome = true := by decide +kernel
  obtain ⟨c, hrun⟩ := Option.isSome_iff_exists.mp hsome
  exact ⟨c, hrun, by decide +kernel, by decide +kernel, by decide +kernel,
    @jobs_start_in_order sampleKernel _ _ _ hrun⟩

end PhotospiderDaemon.Orchestration
