import PhotospiderDaemon.Foundation.Interleaving
import Mathlib.Algebra.GroupWithZero.Nat

/-!
# Condition variables

A program whose threads wait for conditions is written with guards first: the step behind a
wait is not enabled while its condition is false. Here such a program is carried out with
condition variables. A thread that finds its condition false goes to sleep among the waiters of
a condition variable. It sleeps until a step of another thread notifies it, or until it wakes up
for no reason, and then tests its condition again.

* `Leads.guarded`: a run with condition variables is a run with guards, if one forgets who
  sleeps. So every safety property of the guarded program carries over.
* `Leads.announced`: the rule for `notify_all`. Nobody sleeps through the condition for which
  he waits, except while some thread still owes the notification.
* `Leads.conserved`: the rule for `notify_one`. As long as somebody sleeps, there are enough
  threads awake for all units of work.
* `length_le_effort`: if every run with guards ends, so does every run with condition variables.
-/

namespace PhotospiderDaemon.Foundation

variable {S L C R K : Type}

/-- Whom a step notifies. -/
inductive Notice (K : Type) where
  | silent
  | one (k : K)
  | all (k : K)
deriving DecidableEq

/-- Where the threads of a program wait, and whom their steps notify. -/
structure Monitor (S L K : Type) where
  /-- the condition variable at which a thread in this state waits -/
  waits : L → Option K
  /-- the mutex of the wait can be locked -/
  lockable : S → L → Bool
  /-- the condition for which the thread waits -/
  holds : S → L → Bool
  /-- the notification in the step of a thread from one state to the next -/
  notifies : L → L → Notice K

/-- The shared state of a program, and who sleeps at which condition variable. -/
structure Waiting (S K : Type) where
  shared : S
  waiters : List (Nat × K)

def Waiting.asleep (waiting : Waiting S K) (i : Nat) : Bool :=
  waiting.waiters.any fun waiter => waiter.1 = i

/-- What a thread can do: a step of the program, in which `chosen` says whom `notify_one` wakes;
fall asleep; or wake up for no reason. -/
inductive Wake (C : Type) where
  | step (choice : C) (chosen : Nat)
  | sleep
  | spurious

/-- Only steps of the program with choices of one kind are made. -/
def Wake.Allowed (allowed : C → Prop) : Wake C → Prop
  | step choice _ => allowed choice
  | sleep => True
  | spurious => True

/-- No thread wakes up for no reason. -/
def Wake.Eager : Wake C → Prop
  | step _ _ => True
  | sleep => True
  | spurious => False

/-- The waiters that a notification leaves asleep. -/
def Notice.wake [DecidableEq K] (notice : Notice K) (chosen : Nat) (waiters : List (Nat × K)) :
    List (Nat × K) :=
  match notice with
  | silent => waiters
  | one k =>
    if (chosen, k) ∈ waiters then waiters.erase (chosen, k)
    else waiters.eraseP fun waiter => waiter.2 = k
  | all k => waiters.filter fun waiter => waiter.2 ≠ k

/-- The program carried out with condition variables. -/
def Program.monitored [DecidableEq K] (P : Program S L C R) (M : Monitor S L K) :
    Program (Waiting S K) L (Wake C) R where
  start := P.start
  step i waiting l
    | .step choice chosen =>
      if waiting.asleep i then none
      else (P.step i waiting.shared l choice).map fun result =>
        (⟨result.1, (M.notifies l result.2).wake chosen waiting.waiters⟩, result.2)
    | .sleep =>
      if waiting.asleep i then none
      else
        match M.waits l with
        | none => none
        | some k =>
          if M.lockable waiting.shared l && !M.holds waiting.shared l then
            some (⟨waiting.shared, waiting.waiters ++ [(i, k)]⟩, l)
          else none
    | .spurious =>
      if waiting.asleep i then
        some (⟨waiting.shared, waiting.waiters.filter fun waiter => waiter.1 ≠ i⟩, l)
      else none

/-- Each thread sleeps or has come to its end. -/
def Config.rests (ended : L → Bool) (c : Config (Waiting S K) L) : Bool :=
  c.threads.zipIdx.all fun thread => ended thread.1 || c.shared.asleep thread.2

/-- The configuration of the guarded program. -/
def Config.guarded (c : Config (Waiting S K) L) : Config S L := ⟨c.shared.shared, c.threads⟩

/-! ## Notifications -/

theorem Waiting.asleep_iff {waiting : Waiting S K} {i : Nat} :
    waiting.asleep i = true ↔ ∃ k, (i, k) ∈ waiting.waiters := by
  simp [asleep]

theorem Waiting.not_mem_of_awake {waiting : Waiting S K} {i : Nat} {k : K}
    (h : waiting.asleep i = false) : (i, k) ∉ waiting.waiters := by
  intro hmem
  rw [asleep_iff.mpr ⟨k, hmem⟩] at h
  cases h

namespace Notice

variable [DecidableEq K] {waiters : List (Nat × K)} {notice : Notice K} {chosen : Nat} {k : K}

theorem wake_sublist (notice : Notice K) (chosen : Nat) (waiters : List (Nat × K)) :
    (notice.wake chosen waiters).Sublist waiters := by
  cases notice with
  | silent => exact List.Sublist.refl _
  | one k =>
    unfold wake
    dsimp only
    split
    · exact List.erase_sublist
    · exact List.eraseP_sublist
  | all k => exact List.filter_sublist

theorem not_mem_wake_all {i : Nat} (chosen : Nat) : (i, k) ∉ (all k).wake chosen waiters := by
  intro h
  simpa using (List.mem_filter.mp h).2

/-- `notify_one` wakes one of the waiters, if there are any. -/
theorem countP_wake_one (h : 0 < waiters.countP fun waiter => waiter.2 = k) :
    ((one k).wake chosen waiters).countP (fun waiter => waiter.2 = k) + 1 =
      waiters.countP fun waiter => waiter.2 = k := by
  unfold wake
  dsimp only
  split
  · rename_i hmem
    rw [(List.perm_cons_erase hmem).countP_eq, List.countP_cons_of_pos (by simp)]
  · obtain ⟨waiter, hmem, hk⟩ := List.countP_pos_iff.mp h
    obtain ⟨waiter', before, after, -, hk', heq, herase⟩ :=
      List.exists_of_eraseP (p := fun waiter : Nat × K => waiter.2 = k) hmem hk
    rw [herase, heq, List.countP_append, List.countP_append, List.countP_cons,
      if_pos hk']
    omega

end Notice

/-! ## Steps -/

section Steps

variable [DecidableEq K] {P : Program S L C R} {M : Monitor S L K}

/-- The three ways in which a thread moves. -/
inductive MonitorMove (P : Program S L C R) (M : Monitor S L K) (waiting : Waiting S K) (i : Nat)
    (l : L) : Wake C → Waiting S K → L → Prop where
  | step {choice : C} {chosen : Nat} {s' : S} {l' : L} (hawake : waiting.asleep i = false)
      (hstep : P.step i waiting.shared l choice = some (s', l')) :
      MonitorMove P M waiting i l (.step choice chosen)
        ⟨s', (M.notifies l l').wake chosen waiting.waiters⟩ l'
  | sleep {k : K} (hawake : waiting.asleep i = false) (hwaits : M.waits l = some k)
      (hlockable : M.lockable waiting.shared l = true)
      (hfalse : M.holds waiting.shared l = false) :
      MonitorMove P M waiting i l .sleep ⟨waiting.shared, waiting.waiters ++ [(i, k)]⟩ l
  | spurious (hasleep : waiting.asleep i = true) :
      MonitorMove P M waiting i l .spurious
        ⟨waiting.shared, waiting.waiters.filter fun waiter => waiter.1 ≠ i⟩ l

theorem Program.Moves.monitored {c : Config (Waiting S K) L} {i : Nat} {l l' : L} {choice : Wake C}
    {waiting' : Waiting S K} (h : (P.monitored M).Moves c i l choice waiting' l') :
    MonitorMove P M c.shared i l choice waiting' l' := by
  have hstep := h.step
  cases choice with
  | step choice chosen =>
    simp only [Program.monitored] at hstep
    split at hstep
    · cases hstep
    · rename_i hawake
      obtain ⟨⟨s', l₁⟩, hmove, heq⟩ := Option.map_eq_some_iff.mp hstep
      cases heq
      exact .step (by simpa using hawake) hmove
  | sleep =>
    simp only [Program.monitored] at hstep
    split at hstep
    · cases hstep
    · rename_i hawake
      split at hstep
      · cases hstep
      · rename_i k hwaits
        split at hstep
        · rename_i hguard
          rw [Bool.and_eq_true, Bool.not_eq_true'] at hguard
          cases hstep
          exact .sleep (by simpa using hawake) hwaits hguard.1 hguard.2
        · cases hstep
  | spurious =>
    simp only [Program.monitored] at hstep
    split at hstep
    · rename_i hasleep
      cases hstep
      exact .spurious hasleep
    · cases hstep

variable {c c' : Config (Waiting S K) L} {allowed : C → Prop}

/-- Where each thread sleeps, or has come to its end and waits for nothing, nobody goes on. -/
theorem next_eq_none_of_rests {ended : L → Bool}
    (hstep : ∀ i s l choice, ended l = true → P.step i s l choice = none)
    (hwaits : ∀ l, ended l = true → M.waits l = none) (h : c.rests ended = true) (i : Nat)
    {choice : Wake C} (heager : choice.Eager) :
    (P.monitored M).next c (.move i choice) = none := by
  by_contra hsome
  obtain ⟨c', hnext⟩ := Option.ne_none_iff_exists'.mp hsome
  obtain ⟨_, heq, -⟩ | ⟨_, l, _, waiting', l', heq, hmoves, -⟩ := Program.next_cases hnext
  · cases heq
  · cases heq
    have hl : ended l = true ∨ c.shared.asleep i = true := by
      simpa using List.all_eq_true.mp h (l, i) (List.mk_mem_zipIdx_iff_getElem?.mpr hmoves.thread)
    cases hmoves.monitored with
    | step hawake hmove =>
      rw [hstep _ _ _ _ (hl.resolve_right (by simp [hawake]))] at hmove
      cases hmove
    | sleep hawake hk =>
      rw [hwaits l (hl.resolve_right (by simp [hawake]))] at hk
      cases hk
    | spurious => exact heager

/-- A step with condition variables is a step with guards, or nothing happens. -/
theorem MonitorMove.guarded {waiting' : Waiting S K} {i : Nat} {l l' : L} {choice : Wake C}
    (hl : c.threads[i]? = some l) (h : MonitorMove P M c.shared i l choice waiting' l') :
    (∃ choice₀ chosen, choice = .step choice₀ chosen ∧
      P.Moves c.guarded i l choice₀ waiting'.shared l') ∨
    waiting'.shared = c.shared.shared ∧ l' = l := by
  cases h with
  | step hawake hstep => exact Or.inl ⟨_, _, rfl, hl, hstep⟩
  | sleep => exact Or.inr ⟨rfl, rfl⟩
  | spurious => exact Or.inr ⟨rfl, rfl⟩

/-- Every run with condition variables is a run with guards. -/
theorem Program.Leads.guarded (h : (P.monitored M).Leads (Wake.Allowed allowed) c c') :
    P.Leads allowed c.guarded c'.guarded := by
  refine h.induct (motive := fun c' => P.Leads allowed c.guarded c'.guarded)
    (Program.Leads.refl _) ?_ ?_
  · intro c₁ request _ ih
    have hspawn : (Act.spawn request : Act C R).Allowed allowed := trivial
    exact ih.trans (Program.Leads.of_next hspawn rfl)
  · intro c₁ i l choice waiting' l' _ ih hchoice hmoves
    rcases hmoves.monitored.guarded hmoves.thread with
      ⟨choice₀, chosen, rfl, hguarded⟩ | ⟨hshared, rfl⟩
    · exact ih.trans (Program.Leads.of_moves hchoice hguarded)
    · have heq : (⟨waiting', c₁.threads.set i l'⟩ : Config _ _).guarded = c₁.guarded := by
        simp only [Config.guarded, set_self hmoves.thread, hshared]
      rw [heq]
      exact ih

/-! ## Who sleeps -/

/-- Each waiter is a thread that waits at that condition variable, and no thread sleeps twice. -/
structure Queued (M : Monitor S L K) (c : Config (Waiting S K) L) : Prop where
  waits : ∀ {i k}, (i, k) ∈ c.shared.waiters → ∃ l, c.threads[i]? = some l ∧ M.waits l = some k
  nodup : (c.shared.waiters.map Prod.fst).Nodup

omit [DecidableEq K] in
theorem Queued.of_no_waiters (h : c.shared.waiters = []) : Queued M c where
  waits := by
    intro i k hmem
    rw [h] at hmem
    cases hmem
  nodup := by rw [h]; exact List.nodup_nil

theorem Queued.move {i : Nat} {l l' : L} {choice : Wake C} {waiting' : Waiting S K}
    (hc : Queued M c) (hl : c.threads[i]? = some l)
    (h : MonitorMove P M c.shared i l choice waiting' l') :
    Queued M ⟨waiting', c.threads.set i l'⟩ := by
  -- Whoever was asleep and is not the thread that moves stays where it was.
  have hother : ∀ {j k}, (j, k) ∈ c.shared.waiters → i ≠ j →
      ∃ m, (c.threads.set i l')[j]? = some m ∧ M.waits m = some k := by
    intro j k hmem hne
    obtain ⟨m, hm, hwaits⟩ := hc.waits hmem
    exact ⟨m, by rw [List.getElem?_set_ne hne, hm], hwaits⟩
  cases h with
  | @step _ chosen _ _ hawake hstep =>
    have hsub := Notice.wake_sublist (M.notifies l l') chosen c.shared.waiters
    refine ⟨fun {j k} hmem => hother (hsub.subset hmem) ?_, (hsub.map Prod.fst).nodup hc.nodup⟩
    rintro rfl
    exact Waiting.not_mem_of_awake hawake (hsub.subset hmem)
  | @sleep k₀ hawake hwaits =>
    refine ⟨fun {j k} hmem => ?_, ?_⟩
    · rcases List.mem_append.mp hmem with hmem | hmem
      · refine hother hmem ?_
        rintro rfl
        exact Waiting.not_mem_of_awake hawake hmem
      · cases List.mem_singleton.mp hmem
        have hi := (List.getElem?_eq_some_iff.mp hl).1
        exact ⟨l, by simp [hi], hwaits⟩
    · rw [List.map_append, List.map_singleton]
      refine List.nodup_append.mpr ⟨hc.nodup, by simp, ?_⟩
      intro j hj j' hj'
      obtain ⟨⟨_, k⟩, hmem, rfl⟩ := List.mem_map.mp hj
      rw [List.mem_singleton.mp hj']
      rintro rfl
      exact Waiting.not_mem_of_awake hawake hmem
  | spurious hasleep =>
    refine ⟨fun {j k} hmem => ?_, (List.filter_sublist.map Prod.fst).nodup hc.nodup⟩
    obtain ⟨hmem, hne⟩ := List.mem_filter.mp hmem
    exact hother hmem (Ne.symm (by simpa using hne))

theorem Program.Leads.queued {allowed : Wake C → Prop} (h : (P.monitored M).Leads allowed c c')
    (hc : Queued M c) : Queued M c' := by
  refine h.induct (motive := Queued M) hc ?_ ?_
  · intro c₁ request _ ih
    refine ⟨fun {i k} hmem => ?_, ih.nodup⟩
    obtain ⟨l, hl, hwaits⟩ := ih.waits hmem
    have hi := (List.getElem?_eq_some_iff.mp hl).1
    exact ⟨l, (List.getElem?_append_left hi).trans hl, hwaits⟩
  · intro c₁ i l choice waiting' l' _ ih _ hmoves
    exact ih.move hmoves.thread hmoves.monitored

/-! ## Notifying all -/

/-- Whoever sleeps although its condition holds is still going to be notified. -/
def Announced (M : Monitor S L K) (broadcast : K → Prop) (owes : L → K → Prop)
    (c : Config (Waiting S K) L) : Prop :=
  ∀ ⦃i k l⦄, (i, k) ∈ c.shared.waiters → broadcast k → c.threads[i]? = some l →
    M.holds c.shared.shared l = true → ∃ m ∈ c.threads, owes m k

/-- The rule for `notify_all`: a step that makes a condition true notifies its waiters or owes
the notification from then on, and a thread pays what it owes when it stops owing it. -/
theorem Program.Leads.announced {broadcast : K → Prop} {owes : L → K → Prop}
    (h : (P.monitored M).Leads (Wake.Allowed allowed) c c')
    (hstep : ∀ {c₁ i l choice s' l' m k}, P.Leads allowed c.guarded c₁ → allowed choice →
      P.Moves c₁ i l choice s' l' → M.waits m = some k → broadcast k →
      owes l k ∨ M.holds c₁.shared m = false ∧ M.holds s' m = true →
      M.notifies l l' = .all k ∨ owes l' k)
    (hqueued : Queued M c) (hc : Announced M broadcast owes c) :
    Announced M broadcast owes c' := by
  refine h.induct (motive := fun c' => Announced M broadcast owes c') hc ?_ ?_
  · intro c₁ request hc₁ ih i k l hmem hk hl hholds
    obtain ⟨l₁, hl₁, -⟩ := (hc₁.queued hqueued).waits hmem
    have hi := (List.getElem?_eq_some_iff.mp hl₁).1
    rw [List.getElem?_append_left hi] at hl
    obtain ⟨m, hm, howes⟩ := ih hmem hk hl hholds
    exact ⟨m, List.mem_append_left _ hm, howes⟩
  · intro c₁ i l choice waiting' l' hc₁ ih hchoice hmoves j k m hmem hk hm hholds
    have hi := (List.getElem?_eq_some_iff.mp hmoves.thread).1
    cases hmoves.monitored with
    | @step choice₀ chosen s' _ hawake hstep₀ =>
      have hmem₁ := (Notice.wake_sublist _ _ _).subset hmem
      have hne : i ≠ j := by
        rintro rfl
        exact Waiting.not_mem_of_awake hawake hmem₁
      rw [List.getElem?_set_ne hne] at hm
      obtain ⟨m₁, hm₁, hwaits⟩ := (hc₁.queued hqueued).waits hmem₁
      cases hm₁.symm.trans hm
      -- What the step has to answer for, it owes: it does not wake the waiter.
      have hdebt : owes l k ∨ M.holds c₁.shared.shared m = false ∧ M.holds s' m = true →
          owes l' k := by
        intro hreason
        refine (hstep hc₁.guarded hchoice ⟨hmoves.thread, hstep₀⟩ hwaits hk hreason).resolve_left ?_
        intro hall
        rw [hall] at hmem
        exact Notice.not_mem_wake_all chosen hmem
      cases hold : M.holds c₁.shared.shared m with
      | false => exact ⟨l', List.mem_set hi l', hdebt (Or.inr ⟨hold, hholds⟩)⟩
      | true =>
        obtain ⟨m', hm', howes⟩ := ih hmem₁ hk hm hold
        obtain ⟨j', hj'⟩ := List.getElem?_of_mem hm'
        by_cases hij : i = j'
        · subst hij
          cases hmoves.thread.symm.trans hj'
          exact ⟨l', List.mem_set hi l', hdebt (Or.inl howes)⟩
        · exact ⟨m', List.mem_of_getElem? (by rw [List.getElem?_set_ne hij, hj']), howes⟩
    | sleep hawake hwaits hlockable hfalse =>
      dsimp only at hm hholds ⊢
      rw [set_self hmoves.thread] at hm ⊢
      rcases List.mem_append.mp hmem with hmem | hmem
      · exact ih hmem hk hm hholds
      · cases List.mem_singleton.mp hmem
        cases hmoves.thread.symm.trans hm
        rw [hfalse] at hholds
        cases hholds
    | spurious hasleep =>
      dsimp only at hm hholds ⊢
      rw [set_self hmoves.thread] at hm ⊢
      exact ih (List.mem_filter.mp hmem).1 hk hm hholds

/-! ## Notifying one -/

/-- The threads that wait at a condition variable, awake or asleep. -/
def Monitor.waiting (M : Monitor S L K) (k : K) (threads : List L) : Nat :=
  threads.countP fun l => M.waits l = some k

/-- The threads that sleep at a condition variable. -/
def Waiting.sleepers (waiting : Waiting S K) (k : K) : Nat :=
  waiting.waiters.countP fun waiter => waiter.2 = k

/-- The numbers of the threads of one kind. -/
def positions (p : L → Bool) (threads : List L) : List Nat :=
  (threads.zipIdx.filter fun entry => p entry.1).map Prod.snd

theorem mem_positions {p : L → Bool} {threads : List L} {i : Nat} :
    i ∈ positions p threads ↔ ∃ l, threads[i]? = some l ∧ p l = true := by
  simp only [positions, List.mem_map, List.mem_filter, Prod.exists, List.mem_zipIdx_iff_getElem?]
  constructor
  · rintro ⟨l, _, ⟨hl, hp⟩, rfl⟩
    exact ⟨l, hl, hp⟩
  · rintro ⟨l, hl, hp⟩
    exact ⟨l, i, ⟨hl, hp⟩, rfl⟩

theorem length_positions (p : L → Bool) (threads : List L) :
    (positions p threads).length = threads.countP p := by
  rw [positions, List.length_map, ← List.countP_eq_length_filter]
  conv_rhs => rw [← List.zipIdx_map_fst 0 threads, List.countP_map]
  rfl

theorem nodup_positions (p : L → Bool) (threads : List L) : (positions p threads).Nodup :=
  (List.filter_sublist.map Prod.snd).nodup (List.zipIdx_map_snd 0 threads ▸ List.nodup_range')

/-- Each sleeper is a thread that waits. -/
theorem Queued.sleepers_le (hc : Queued M c) (k : K) :
    c.shared.sleepers k ≤ M.waiting k c.threads := by
  let sleeping := (c.shared.waiters.filter fun waiter => waiter.2 = k).map Prod.fst
  have hnodup : sleeping.Nodup := (List.filter_sublist.map Prod.fst).nodup hc.nodup
  have hsubset : sleeping ⊆ positions (fun l => M.waits l = some k) c.threads := by
    intro i hi
    obtain ⟨⟨_, k'⟩, hfilter, rfl⟩ := List.mem_map.mp hi
    obtain ⟨hmem, hk⟩ := List.mem_filter.mp hfilter
    obtain rfl : k' = k := by simpa using hk
    obtain ⟨l, hl, hwaits⟩ := hc.waits hmem
    exact mem_positions.mpr ⟨l, hl, by simpa using hwaits⟩
  calc c.shared.sleepers k = sleeping.length := by
        rw [Waiting.sleepers, List.countP_eq_length_filter, List.length_map]
    _ ≤ (positions (fun l => M.waits l = some k) c.threads).length :=
        (List.subperm_of_subset hnodup hsubset).length_le
    _ = M.waiting k c.threads := length_positions _ _

/-- If not everybody who waits sleeps, somebody is awake. -/
theorem Queued.exists_awake (hc : Queued M c) {k : K}
    (h : c.shared.sleepers k < M.waiting k c.threads) :
    ∃ i l, c.threads[i]? = some l ∧ M.waits l = some k ∧ c.shared.asleep i = false := by
  by_contra hnone
  push Not at hnone
  let sleeping := (c.shared.waiters.filter fun waiter => waiter.2 = k).map Prod.fst
  have hsubset : positions (fun l => M.waits l = some k) c.threads ⊆ sleeping := by
    intro i hi
    obtain ⟨l, hl, hwaits⟩ := mem_positions.mp hi
    have hwaits : M.waits l = some k := by simpa using hwaits
    have hasleep : c.shared.asleep i = true := by simpa using hnone i l hl hwaits
    obtain ⟨k', hmem⟩ := Waiting.asleep_iff.mp hasleep
    obtain ⟨l', hl', hwaits'⟩ := hc.waits hmem
    cases hl.symm.trans hl'
    cases hwaits.symm.trans hwaits'
    exact List.mem_map.mpr ⟨(i, k), List.mem_filter.mpr ⟨hmem, by simp⟩, rfl⟩
  have hle := (List.subperm_of_subset (nodup_positions _ _) hsubset).length_le
  rw [length_positions, List.length_map, ← List.countP_eq_length_filter] at hle
  exact absurd hle (Nat.not_le.mpr h)

/-- As long as somebody sleeps, the units of work are at most the threads awake. -/
def Conserved (M : Monitor S L K) (k : K) (units : S → Nat) (c : Config (Waiting S K) L) : Prop :=
  0 < c.shared.sleepers k → units c.shared.shared + c.shared.sleepers k ≤ M.waiting k c.threads

/-- The rule for `notify_one`: a step that adds a unit of work notifies one waiter, a thread that
stops waiting takes a unit if there are any, and a thread falls asleep only when there are
none. -/
theorem Program.Leads.conserved {k : K} {units : S → Nat}
    (h : (P.monitored M).Leads (Wake.Allowed allowed) c c')
    (hstep : ∀ {c₁ i l choice s' l'}, P.Leads allowed c.guarded c₁ → allowed choice →
      P.Moves c₁ i l choice s' l' → units s' = 0 ∨
      units s' + (if M.waits l = some k then 1 else 0) ≤
        units c₁.shared + (if M.waits l' = some k then 1 else 0) +
          if M.notifies l l' = .one k then 1 else 0)
    (hsleep : ∀ {s l}, M.waits l = some k → M.holds s l = false → units s = 0)
    (hqueued : Queued M c) (hc : Conserved M k units c) : Conserved M k units c' := by
  refine h.induct (motive := Conserved M k units) hc ?_ ?_
  · intro c₁ request _ ih hpositive
    have hle := ih hpositive
    have hmore : M.waiting k c₁.threads ≤ M.waiting k (c₁.threads ++ [P.start request]) := by
      rw [Monitor.waiting, Monitor.waiting, List.countP_append]
      omega
    exact Nat.le_trans hle hmore
  · intro c₁ i l choice waiting' l' hc₁ ih hchoice hmoves hpositive
    have hafter := ((hc₁.queued hqueued).move hmoves.thread hmoves.monitored).sleepers_le k
    cases hmoves.monitored with
    | @step choice₀ chosen s' _ hawake hstep₀ =>
      have hset := Program.countP_set_add (fun l => decide (M.waits l = some k)) l' hmoves.thread
      have hunits := hstep hc₁.guarded hchoice ⟨hmoves.thread, hstep₀⟩
      simp only [decide_eq_true_eq] at hset
      have hfewer : ((M.notifies l l').wake chosen c₁.shared.waiters).countP
          (fun waiter => waiter.2 = k) ≤ c₁.shared.sleepers k :=
        (Notice.wake_sublist _ _ _).countP_le
      have hbefore := ih (Nat.lt_of_lt_of_le hpositive hfewer)
      -- One waiter less, if the step notifies one.
      have hnotified : ((M.notifies l l').wake chosen c₁.shared.waiters).countP
          (fun waiter => waiter.2 = k) + (if M.notifies l l' = .one k then 1 else 0) ≤
            c₁.shared.sleepers k := by
        split
        · rename_i hone
          rw [hone]
          exact Nat.le_of_eq
            (Notice.countP_wake_one (Nat.lt_of_lt_of_le hpositive hfewer))
        · exact hfewer
      simp only [Waiting.sleepers, Monitor.waiting, Config.guarded] at *
      rcases hunits with hunits | hunits <;> omega
    | @sleep k₀ hawake hwaits hlockable hfalse =>
      by_cases hk : k₀ = k
      · have hzero : units c₁.shared.shared = 0 := hsleep (hk ▸ hwaits) hfalse
        dsimp only at hafter ⊢
        omega
      · rw [set_self hmoves.thread]
        have hsame : (c₁.shared.waiters ++ [(i, k₀)]).countP (fun waiter => waiter.2 = k) =
            c₁.shared.sleepers k := by
          rw [List.countP_append, Waiting.sleepers, List.countP_singleton,
            if_neg (by simpa using hk), Nat.add_zero]
        simp only [Waiting.sleepers, hsame] at hpositive ⊢
        exact ih hpositive
    | spurious hasleep =>
      rw [set_self hmoves.thread]
      have hfewer : (c₁.shared.waiters.filter fun waiter => waiter.1 ≠ i).countP
          (fun waiter => waiter.2 = k) ≤ c₁.shared.sleepers k :=
        List.filter_sublist.countP_le
      have hbefore := ih (Nat.lt_of_lt_of_le hpositive hfewer)
      simp only [Waiting.sleepers] at *
      omega

/-! ## Ending -/

/-- A quantity of all threads together, after thread `i` has made a step. -/
theorem sum_set_add {threads : List L} {i : Nat} {l : L} (f : L → Nat) (l' : L)
    (h : threads[i]? = some l) :
    ((threads.set i l').map f).sum + f l = (threads.map f).sum + f l' := by
  induction threads generalizing i with
  | nil => cases h
  | cons m threads ih =>
    cases i with
    | zero =>
      cases h
      simp only [List.set_cons_zero, List.map_cons, List.sum_cons]
      omega
    | succ i =>
      have htail := ih h
      simp only [List.set_cons_succ, List.map_cons, List.sum_cons]
      omega

/-- The steps with guards come first; between two of them each thread falls asleep at most
once. -/
def effort (work : Config S L → Nat) (c : Config (Waiting S K) L) : Nat :=
  (c.threads.length + 1) * work c.guarded + (c.threads.length - c.shared.waiters.length)

omit [DecidableEq K] in
theorem Queued.length_le (hc : Queued M c) : c.shared.waiters.length ≤ c.threads.length := by
  have hsubset : c.shared.waiters.map Prod.fst ⊆ List.range c.threads.length := by
    intro i hi
    obtain ⟨⟨_, k⟩, hmem, rfl⟩ := List.mem_map.mp hi
    obtain ⟨l, hl, -⟩ := hc.waits hmem
    exact List.mem_range.mpr (List.getElem?_eq_some_iff.mp hl).1
  have hle := (List.subperm_of_subset hc.nodup hsubset).length_le
  rwa [List.length_map, List.length_range] at hle

theorem effort_lt {work : Config S L → Nat} {i : Nat} {l l' : L} {choice : Wake C}
    {waiting' : Waiting S K} (hqueued : Queued M c) (heager : choice.Eager)
    (hmoves : (P.monitored M).Moves c i l choice waiting' l')
    (hwork : ∀ {choice₀ s'}, P.Moves c.guarded i l choice₀ s' l' →
      work ⟨s', c.threads.set i l'⟩ < work c.guarded) :
    effort work ⟨waiting', c.threads.set i l'⟩ < effort work c := by
  have hafter := (hqueued.move hmoves.thread hmoves.monitored).length_le
  cases hmoves.monitored with
  | @step choice₀ chosen s' _ hawake hstep =>
    have hless := hwork ⟨hmoves.thread, hstep⟩
    have hmul := Nat.mul_le_mul_left (c.threads.length + 1) hless
    simp only [effort, Config.guarded, List.length_set] at hmul ⊢
    rw [Nat.succ_eq_add_one, Nat.mul_add] at hmul
    omega
  | sleep hawake hwaits hlockable hfalse =>
    rw [set_self hmoves.thread] at hafter ⊢
    simp only [effort, Config.guarded, List.length_append, List.length_singleton] at hafter ⊢
    omega
  | spurious hasleep => exact absurd heager id

/-- A run in which no thread starts and no thread wakes up for no reason is no longer than the
effort that is left. -/
theorem length_le_effort (work : Config S L → Nat) {acts : List (Act (Wake C) R)}
    (hacts : ∀ act ∈ acts, ∃ i choice, act = .move i choice ∧ choice.Eager)
    (hrun : (P.monitored M).run c acts = some c') (hqueued : Queued M c)
    (hwork : ∀ {c₁ i l choice s' l'}, P.Leads (fun _ => True) c.guarded c₁ →
      P.Moves c₁ i l choice s' l' → work ⟨s', c₁.threads.set i l'⟩ < work c₁) :
    effort work c' + acts.length ≤ effort work c := by
  induction acts generalizing c with
  | nil =>
    cases hrun
    exact Nat.le_refl _
  | cons act acts ih =>
    obtain ⟨c₁, hnext, hrest⟩ := Option.bind_eq_some_iff.mp hrun
    obtain ⟨⟨i, choice, rfl, heager⟩, hothers⟩ := List.forall_mem_cons.mp hacts
    obtain ⟨_, heq, -⟩ | ⟨_, l, _, waiting', l', heq, hmoves, rfl⟩ := Program.next_cases hnext
    · cases heq
    cases heq
    have hleads : (P.monitored M).Leads (Wake.Allowed fun _ => True) c
        ⟨waiting', c.threads.set i l'⟩ :=
      Program.Leads.of_moves (by cases choice <;> trivial) hmoves
    have hless : effort work ⟨waiting', c.threads.set i l'⟩ < effort work c :=
      effort_lt hqueued heager hmoves (hwork (Program.Leads.refl _))
    have hle := ih hothers hrest (hqueued.move hmoves.thread hmoves.monitored)
      fun hleads₁ => hwork (hleads.guarded.trans hleads₁)
    rw [List.length_cons]
    omega

end Steps

end PhotospiderDaemon.Foundation
