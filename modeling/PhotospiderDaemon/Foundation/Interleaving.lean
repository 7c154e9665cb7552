import Mathlib.Algebra.Ring.Int.Defs
import Mathlib.Data.List.Basic
import Mathlib.Data.List.Perm.Subperm

/-!
# Threads over a shared state

A configuration is a shared state and the local state of each thread; threads are numbered
by their position and are only ever added. A step of one thread is atomic, may depend on its
own number, and resolves what the program leaves open by a choice. A run is a list of acts,
so every interleaving of every number of threads is a run.

* `Leads.induct`: induction over a run, one act at a time.
* `Leads.forall_threads`: the rule for an assertion about each thread on its own.
* `Preserves.holds`: the rule for a proof outline, that is, a shared invariant, an assertion
  for each thread and a relation between any two threads. One step has to keep the shared
  invariant and its own assertion, and must not interfere with the assertions of the others.
* `length_le_work`: a measure that every step decreases bounds every run.
* `Leads.countP_eq`: a shared counter that counts threads.
* `countP_le_countP_of_held`: things that threads hold one at a time.
* `Leads.covered`: whatever needs an owner has one; `Leads.held` is the case of a mutex.
* `own_induct`: what the steps of one thread do to the shared state in a run, whatever
  happens in between.
-/

namespace PhotospiderDaemon.Foundation

/-- What threads do: how one starts, and what one step does to the shared state. -/
structure Program (S L C R : Type) where
  start : R → L
  step : Nat → S → L → C → Option (S × L)

structure Config (S L : Type) where
  shared : S
  threads : List L

/-- One act of a run: a new thread, or one step of a thread. -/
inductive Act (C R : Type) where
  | spawn (request : R)
  | move (thread : Nat) (choice : C)

variable {S L C R : Type}

/-- Only choices of one kind are made. -/
def Act.Allowed (allowed : C → Prop) : Act C R → Prop
  | spawn _ => True
  | move _ choice => allowed choice

/-- A thread that stays as it is. -/
theorem set_self {threads : List L} {i : Nat} {l : L} (h : threads[i]? = some l) :
    threads.set i l = threads := by
  obtain ⟨hi, rfl⟩ := List.getElem?_eq_some_iff.mp h
  exact List.set_getElem_self hi

namespace Program

variable (P : Program S L C R)

/-- One act. A step that is not enabled is no act. -/
def next (c : Config S L) : Act C R → Option (Config S L)
  | .spawn request => some ⟨c.shared, c.threads ++ [P.start request]⟩
  | .move i choice =>
    match c.threads[i]? with
    | none => none
    | some l => (P.step i c.shared l choice).map fun result =>
      ⟨result.1, c.threads.set i result.2⟩

def run (c : Config S L) : List (Act C R) → Option (Config S L)
  | [] => some c
  | act :: acts => (P.next c act).bind fun c => run c acts

/-- There is a run with choices of one kind. -/
def Leads (allowed : C → Prop) (c c' : Config S L) : Prop :=
  ∃ acts, (∀ act ∈ acts, act.Allowed allowed) ∧ P.run c acts = some c'

/-- Thread `i` can make a step. -/
structure Moves (c : Config S L) (i : Nat) (l : L) (choice : C) (s' : S) (l' : L) : Prop where
  thread : c.threads[i]? = some l
  step : P.step i c.shared l choice = some (s', l')

variable {P}

/-! ## Runs -/

theorem next_cases {c c' : Config S L} {act : Act C R} (h : P.next c act = some c') :
    (∃ request, act = .spawn request ∧ c' = ⟨c.shared, c.threads ++ [P.start request]⟩) ∨
    ∃ i l choice s' l', act = .move i choice ∧ P.Moves c i l choice s' l' ∧
      c' = ⟨s', c.threads.set i l'⟩ := by
  cases act with
  | spawn request => exact Or.inl ⟨request, rfl, (Option.some.inj h).symm⟩
  | move i choice =>
    cases hl : c.threads[i]? with
    | none => simp [next, hl] at h
    | some l =>
      simp only [next, hl, Option.map_eq_some_iff] at h
      obtain ⟨⟨s', l'⟩, hstep, rfl⟩ := h
      exact Or.inr ⟨i, l, choice, s', l', rfl, ⟨hl, hstep⟩, rfl⟩

theorem run_append (c : Config S L) (acts acts' : List (Act C R)) :
    P.run c (acts ++ acts') = (P.run c acts).bind fun c => P.run c acts' := by
  induction acts generalizing c with
  | nil => rfl
  | cons act acts ih =>
    simp only [List.cons_append, run, Option.bind_assoc]
    cases P.next c act with
    | none => rfl
    | some c₁ => exact ih c₁

theorem run_snoc {c c' : Config S L} {acts : List (Act C R)} {act : Act C R} :
    P.run c (acts ++ [act]) = some c' ↔
      ∃ c₁, P.run c acts = some c₁ ∧ P.next c₁ act = some c' := by
  rw [run_append, Option.bind_eq_some_iff]
  simp [run]

variable {allowed : C → Prop} {c c' c'' : Config S L}

theorem Leads.refl (c : Config S L) : P.Leads allowed c c := ⟨[], by simp, rfl⟩

theorem Leads.trans (h : P.Leads allowed c c') (h' : P.Leads allowed c' c'') :
    P.Leads allowed c c'' := by
  obtain ⟨acts, hacts, hrun⟩ := h
  obtain ⟨acts', hacts', hrun'⟩ := h'
  refine ⟨acts ++ acts', ?_, ?_⟩
  · simpa [or_imp, forall_and] using ⟨hacts, hacts'⟩
  · rw [run_append, hrun]
    exact hrun'

theorem Leads.of_next {act : Act C R} (hact : act.Allowed allowed) (h : P.next c act = some c') :
    P.Leads allowed c c' :=
  ⟨[act], by simpa using hact, by simp [run, h]⟩

theorem Moves.next_eq {i : Nat} {l l' : L} {choice : C} {s' : S}
    (h : P.Moves c i l choice s' l') :
    P.next c (.move i choice) = some ⟨s', c.threads.set i l'⟩ := by
  simp [next, h.thread, h.step]

theorem Leads.of_moves {i : Nat} {l l' : L} {choice : C} {s' : S} (hchoice : allowed choice)
    (h : P.Moves c i l choice s' l') : P.Leads allowed c ⟨s', c.threads.set i l'⟩ :=
  Leads.of_next (show (Act.move i choice).Allowed allowed from hchoice) h.next_eq

theorem Leads.mono {allowed' : C → Prop} (hle : ∀ choice, allowed choice → allowed' choice)
    (h : P.Leads allowed c c') : P.Leads allowed' c c' := by
  obtain ⟨acts, hacts, hrun⟩ := h
  refine ⟨acts, fun act hact => ?_, hrun⟩
  cases act with
  | spawn request => trivial
  | move i choice => exact hle choice (hacts _ hact)

/-- Induction over a run from its end. -/
theorem Leads.induct {motive : Config S L → Prop} (h : P.Leads allowed c c') (base : motive c)
    (spawn : ∀ c₁ request, P.Leads allowed c c₁ → motive c₁ →
      motive ⟨c₁.shared, c₁.threads ++ [P.start request]⟩)
    (move : ∀ c₁ i l choice s' l', P.Leads allowed c c₁ → motive c₁ → allowed choice →
      P.Moves c₁ i l choice s' l' → motive ⟨s', c₁.threads.set i l'⟩) : motive c' := by
  obtain ⟨acts, hacts, hrun⟩ := h
  -- The run up to some configuration is kept while the rest of the acts is used up.
  have hgeneral : ∀ (acts : List (Act C R)) (c₁ : Config S L), (∀ act ∈ acts, act.Allowed allowed) →
      P.Leads allowed c c₁ → motive c₁ → P.run c₁ acts = some c' → motive c' := by
    intro acts
    induction acts with
    | nil =>
      intro c₁ _ _ hc₁ hrun
      exact Option.some.inj hrun ▸ hc₁
    | cons act acts ih =>
      intro c₁ hacts hleads hc₁ hrun
      obtain ⟨c₂, hnext, hrest⟩ := Option.bind_eq_some_iff.mp hrun
      obtain ⟨hact, hacts⟩ := List.forall_mem_cons.mp hacts
      refine ih c₂ hacts (hleads.trans (Leads.of_next hact hnext)) ?_ hrest
      rcases next_cases hnext with ⟨request, rfl, rfl⟩ | ⟨i, l, choice, s', l', rfl, hmoves, rfl⟩
      · exact spawn c₁ request hleads hc₁
      · exact move c₁ i l choice s' l' hleads hc₁ hact hmoves
  exact hgeneral acts c hacts (Leads.refl c) base hrun

/-- An assertion about each thread and the shared state holds in a run if it holds of a new
thread and every step keeps it, for its own thread and for the others. -/
theorem Leads.forall_threads {motive : S → L → Prop} (h : P.Leads allowed c c')
    (base : ∀ l ∈ c.threads, motive c.shared l)
    (start : ∀ c₁ request, P.Leads allowed c c₁ → motive c₁.shared (P.start request))
    (own : ∀ {c₁ i l choice s' l'}, P.Leads allowed c c₁ → allowed choice →
      P.Moves c₁ i l choice s' l' → motive c₁.shared l → motive s' l')
    (other : ∀ {c₁ i l choice s' l' m}, P.Leads allowed c c₁ → allowed choice →
      P.Moves c₁ i l choice s' l' → motive c₁.shared m → motive s' m) :
    ∀ l ∈ c'.threads, motive c'.shared l := by
  refine h.induct (motive := fun c' => ∀ l ∈ c'.threads, motive c'.shared l) base ?_ ?_
  · intro c₁ request hc₁ ih l hl
    rcases List.mem_append.mp hl with hl | hl
    · exact ih l hl
    · rw [List.mem_singleton.mp hl]
      exact start c₁ request hc₁
  · intro c₁ i l choice s' l' hc₁ ih hchoice hmoves m hm
    rcases List.mem_or_eq_of_mem_set hm with hm | rfl
    · exact other hc₁ hchoice hmoves (ih m hm)
    · exact own hc₁ hchoice hmoves (ih l (List.mem_of_getElem? hmoves.thread))

/-- A run in which no thread starts is no longer than the work that is left. -/
theorem length_le_work (work : Config S L → Nat) {acts : List (Act C R)}
    (hacts : ∀ act ∈ acts, ∃ i choice, act = .move i choice) (hrun : P.run c acts = some c')
    (hwork : ∀ {c₁ i l choice s' l'}, P.Moves c₁ i l choice s' l' →
      work ⟨s', c₁.threads.set i l'⟩ < work c₁) :
    work c' + acts.length ≤ work c := by
  induction acts generalizing c with
  | nil =>
    cases hrun
    exact Nat.le_refl _
  | cons act acts ih =>
    obtain ⟨c₁, hnext, hrest⟩ := Option.bind_eq_some_iff.mp hrun
    obtain ⟨⟨i, choice, rfl⟩, hothers⟩ := List.forall_mem_cons.mp hacts
    obtain ⟨_, heq, -⟩ | ⟨_, l, _, s', l', -, hmoves, rfl⟩ := next_cases hnext
    · cases heq
    · have hle := ih hothers hrest
      have hlt := hwork hmoves
      simp only [List.length_cons]
      omega

theorem Leads.length_le (h : P.Leads allowed c c') : c.threads.length ≤ c'.threads.length := by
  refine h.induct (motive := fun c' => c.threads.length ≤ c'.threads.length) (Nat.le_refl _) ?_ ?_
  · intro c₁ request _ hle
    rw [List.length_append]
    exact Nat.le_add_right_of_le hle
  · intro c₁ i l choice s' l' _ hle _ _
    rwa [List.length_set]

/-- There is a run every act of which is made in a configuration that meets a condition. -/
inductive Within (P : Program S L C R) (meets : Config S L → Act C R → Prop) (c : Config S L) :
    Config S L → Prop where
  | refl : P.Within meets c c
  | next {c₁ c₂ : Config S L} {act : Act C R} (h : P.Within meets c c₁) (hact : meets c₁ act)
    (hnext : P.next c₁ act = some c₂) : P.Within meets c c₂

theorem Within.leads {meets : Config S L → Act C R → Prop} (h : P.Within meets c c') :
    P.Leads (fun _ => True) c c' := by
  induction h with
  | refl => exact Leads.refl c
  | @next c₁ c₂ act _ _ hnext ih =>
    refine ih.trans (Leads.of_next ?_ hnext)
    cases act <;> trivial

/-- The run, cut off where a test fails. -/
def runWithin (P : Program S L C R) (test : Config S L → Act C R → Bool) (c : Config S L) :
    List (Act C R) → Option (Config S L)
  | [] => some c
  | act :: acts =>
    if test c act then (P.next c act).bind fun c => P.runWithin test c acts else none

theorem Within.of_runWithin {meets : Config S L → Act C R → Prop}
    {test : Config S L → Act C R → Bool} (htest : ∀ c act, test c act = true → meets c act)
    {c₁ : Config S L} {acts : List (Act C R)} (h : P.Within meets c c₁)
    (hrun : P.runWithin test c₁ acts = some c') : P.Within meets c c' := by
  induction acts generalizing c₁ with
  | nil =>
    cases hrun
    exact h
  | cons act acts ih =>
    obtain ⟨hact, hrun⟩ := Option.ite_none_right_eq_some.mp hrun
    obtain ⟨c₂, hnext, hrest⟩ := Option.bind_eq_some_iff.mp hrun
    exact ih (.next h (htest c₁ act hact) hnext) hrest

end Program

/-! ## Proof outlines -/

/-- What is asserted of a configuration: of the shared state, of each thread, and of each
two threads. -/
structure Outline (S L : Type) where
  shared : S → Prop
  thread : Nat → S → L → Prop
  pair : L → L → Prop

structure Outline.Holds (A : Outline S L) (c : Config S L) : Prop where
  shared : A.shared c.shared
  thread : ∀ {i : Nat} {l : L}, c.threads[i]? = some l → A.thread i c.shared l
  pair : ∀ {i j : Nat} {l m : L}, i ≠ j → c.threads[i]? = some l →
    c.threads[j]? = some m → A.pair l m

/-- What has to be shown of one step for a proof outline to hold of every run, where `base` is
known of every configuration. -/
structure Program.Preserves (P : Program S L C R) (allowed : C → Prop) (base : Config S L → Prop)
    (A : Outline S L) : Prop where
  symm : ∀ {l m}, A.pair l m → A.pair m l
  start : ∀ {c} request, base c → A.Holds c → A.thread c.threads.length c.shared (P.start request)
  start_pair : ∀ request l, A.pair (P.start request) l
  own : ∀ {c i l choice s' l'}, allowed choice → P.Moves c i l choice s' l' → base c → A.Holds c →
    A.shared s' ∧ A.thread i s' l'
  other : ∀ {c i l choice s' l' j m}, allowed choice → P.Moves c i l choice s' l' → base c →
    A.Holds c → i ≠ j → c.threads[j]? = some m → A.thread j s' m ∧ A.pair l' m

/-- With one thread there is nothing to show about two. -/
theorem Outline.Holds.singleton {A : Outline S L} {s : S} {l : L} (hshared : A.shared s)
    (hthread : A.thread 0 s l) : A.Holds ⟨s, [l]⟩ where
  shared := hshared
  thread := by
    intro i m hm
    obtain ⟨hi, rfl⟩ := List.getElem?_eq_some_iff.mp hm
    obtain rfl : i = 0 := Nat.lt_one_iff.mp hi
    exact hthread
  pair := by
    intro i j m n hne hi hj
    have hi' : i < 1 := (List.getElem?_eq_some_iff.mp hi).1
    have hj' : j < 1 := (List.getElem?_eq_some_iff.mp hj).1
    omega

/-- A thread of a configuration with one thread added. -/
theorem getElem?_snoc {l : List L} {a b : L} {i : Nat} (h : (l ++ [a])[i]? = some b) :
    l[i]? = some b ∨ i = l.length ∧ b = a := by
  rcases Nat.lt_or_ge i l.length with hi | hi
  · exact Or.inl (by rwa [List.getElem?_append_left hi] at h)
  · rw [List.getElem?_append_right hi, List.getElem?_singleton] at h
    split at h
    · exact Or.inr ⟨by omega, (Option.some.inj h).symm⟩
    · cases h

/-- A thread of a configuration in which thread `i` has made a step. -/
theorem getElem?_set_some {l : List L} {a b : L} {i j : Nat} (h : (l.set i a)[j]? = some b) :
    i = j ∧ b = a ∨ i ≠ j ∧ l[j]? = some b := by
  rw [List.getElem?_set] at h
  split at h
  · rename_i hij
    split at h
    · exact Or.inl ⟨hij, (Option.some.inj h).symm⟩
    · cases h
  · rename_i hij
    exact Or.inr ⟨hij, h⟩

namespace Program

variable {P : Program S L C R} {allowed : C → Prop} {base : Config S L → Prop}
  {A : Outline S L} {c c' : Config S L}

theorem Preserves.spawn (h : P.Preserves allowed base A) (request : R) (hbase : base c)
    (hc : A.Holds c) : A.Holds ⟨c.shared, c.threads ++ [P.start request]⟩ where
  shared := hc.shared
  thread := by
    intro i l hi
    rcases getElem?_snoc hi with hi | ⟨rfl, rfl⟩
    · exact hc.thread hi
    · exact h.start request hbase hc
  pair := by
    intro i j l m hne hi hj
    rcases getElem?_snoc hi with hi | ⟨rfl, rfl⟩ <;>
      rcases getElem?_snoc hj with hj | ⟨rfl, rfl⟩
    · exact hc.pair hne hi hj
    · exact h.symm (h.start_pair request l)
    · exact h.start_pair request m
    · exact absurd rfl hne

theorem Preserves.move (h : P.Preserves allowed base A) {i : Nat} {l l' : L} {choice : C} {s' : S}
    (hchoice : allowed choice) (hmoves : P.Moves c i l choice s' l') (hbase : base c)
    (hc : A.Holds c) : A.Holds ⟨s', c.threads.set i l'⟩ where
  shared := (h.own hchoice hmoves hbase hc).1
  thread := by
    intro j m hj
    rcases getElem?_set_some hj with ⟨rfl, rfl⟩ | ⟨hne, hj⟩
    · exact (h.own hchoice hmoves hbase hc).2
    · exact (h.other hchoice hmoves hbase hc hne hj).1
  pair := by
    intro j k m n hne hj hk
    rcases getElem?_set_some hj with ⟨rfl, rfl⟩ | ⟨hij, hj'⟩ <;>
      rcases getElem?_set_some hk with ⟨rfl, rfl⟩ | ⟨hik, hk'⟩
    · exact absurd rfl hne
    · exact (h.other hchoice hmoves hbase hc hik hk').2
    · exact h.symm (h.other hchoice hmoves hbase hc hij hj').2
    · exact hc.pair hne hj' hk'

/-- The rule for proof outlines. -/
theorem Preserves.holds (h : P.Preserves allowed base A)
    (hbase : ∀ {c'}, P.Leads allowed c c' → base c') (hc : A.Holds c)
    (hleads : P.Leads allowed c c') : A.Holds c' := by
  refine hleads.induct hc ?_ ?_
  · intro c₁ request hc₁ ih
    exact h.spawn request (hbase hc₁) ih
  · intro c₁ i l choice s' l' hc₁ ih hchoice hmoves
    exact h.move hchoice hmoves (hbase hc₁) ih

/-! ## Counters and owners -/

/-- The threads of one kind, after thread `i` has made a step. -/
theorem countP_set_add {l : List L} {i : Nat} {a : L} (p : L → Bool) (b : L)
    (h : l[i]? = some a) :
    (l.set i b).countP p + (if p a then 1 else 0) = l.countP p + if p b then 1 else 0 := by
  obtain ⟨hi, rfl⟩ := List.getElem?_eq_some_iff.mp h
  have hle : (if p l[i] then 1 else 0) ≤ l.countP p := by
    split
    · exact List.countP_pos_iff.mpr ⟨_, List.getElem_mem hi, by assumption⟩
    · exact Nat.zero_le _
  rw [List.countP_set hi]
  omega

/-- A counter in the shared state counts the threads of one kind if every step keeps the
difference. A thread of that kind can rely on the counter being positive. -/
theorem Leads.countP_eq (hleads : P.Leads allowed c c') (total : S → Nat) (p : L → Bool)
    (hstart : ∀ request, p (P.start request) = false)
    (hstep : ∀ {c₁ i l choice s' l'}, P.Leads allowed c c₁ → allowed choice →
      P.Moves c₁ i l choice s' l' → (p l = true → 0 < total c₁.shared) →
      total s' + (if p l then 1 else 0) = total c₁.shared + if p l' then 1 else 0)
    (hc : total c.shared = c.threads.countP p) : total c'.shared = c'.threads.countP p := by
  refine hleads.induct (motive := fun c' => total c'.shared = c'.threads.countP p) hc ?_ ?_
  · intro c₁ request _ ih
    simp [hstart, ih]
  · intro c₁ i l choice s' l' hc₁ ih hchoice hmoves
    have hpositive : p l = true → 0 < total c₁.shared := by
      intro hl
      rw [ih]
      exact List.countP_pos_iff.mpr ⟨l, List.mem_of_getElem? hmoves.thread, hl⟩
    have hset := countP_set_add p l' hmoves.thread
    have htotal := hstep hc₁ hchoice hmoves hpositive
    dsimp only
    omega

/-- If each thing of one kind is held by a thread of one kind, and each of these threads holds
at most one thing, there are at most as many things as threads. -/
theorem countP_le_countP_of_held {X : Type} {things : List X} {threads : List L} (p : X → Bool)
    (q : L → Bool) (held : L → List Nat)
    (hone : ∀ l ∈ threads, (held l).length ≤ if q l then 1 else 0)
    (hheld : ∀ (r : Nat) (x : X), things[r]? = some x → p x = true → ∃ l ∈ threads, r ∈ held l) :
    things.countP p ≤ threads.countP q := by
  have hlength : ((things.zipIdx.filter fun entry => p entry.1).map Prod.snd).length =
      things.countP p := by
    rw [List.length_map, ← List.countP_eq_length_filter]
    conv_rhs => rw [← List.zipIdx_map_fst 0 things, List.countP_map]
    rfl
  have hnodup : ((things.zipIdx.filter fun entry => p entry.1).map Prod.snd).Nodup :=
    (List.filter_sublist.map Prod.snd).nodup (List.zipIdx_map_snd 0 things ▸ List.nodup_range')
  have hsubset : (things.zipIdx.filter fun entry => p entry.1).map Prod.snd ⊆
      threads.flatMap held := by
    intro r hr
    obtain ⟨⟨x, r'⟩, hmem, rfl⟩ := List.mem_map.mp hr
    obtain ⟨hmem, hx⟩ := List.mem_filter.mp hmem
    obtain ⟨l, hl, hr⟩ := hheld r' x (List.mem_zipIdx_iff_getElem?.mp hmem) hx
    exact List.mem_flatMap.mpr ⟨l, hl, hr⟩
  have htotal : ∀ ls : List L, (∀ l ∈ ls, (held l).length ≤ if q l then 1 else 0) →
      (ls.flatMap held).length ≤ ls.countP q := by
    intro ls hls
    induction ls with
    | nil => exact Nat.le_refl _
    | cons l ls ih =>
      obtain ⟨hl, hls⟩ := List.forall_mem_cons.mp hls
      rw [List.flatMap_cons, List.length_append, List.countP_cons, Nat.add_comm]
      exact Nat.add_le_add (ih hls) hl
  calc things.countP p = _ := hlength.symm
    _ ≤ (threads.flatMap held).length := (List.subperm_of_subset hnodup hsubset).length_le
    _ ≤ threads.countP q := htotal threads hone

/-- Everything that needs an owner is free or has one. -/
def Covered {X : Type} (need free : S → X → Prop) (has : L → X → Prop) (c : Config S L) : Prop :=
  ∀ x, need c.shared x → free c.shared x ∨ ∃ l ∈ c.threads, has l x

/-- A step keeps the cover if it hands over what its thread had. -/
theorem Leads.covered (hleads : P.Leads allowed c c') {X : Type} {need free : S → X → Prop}
    {has : L → X → Prop}
    (hstep : ∀ {c₁ i l choice s' l'}, P.Leads allowed c c₁ → allowed choice →
      P.Moves c₁ i l choice s' l' → ∀ x, need s' x →
      free s' x ∨ has l' x ∨ need c₁.shared x ∧ ¬ free c₁.shared x ∧ ¬ has l x)
    (hc : Covered need free has c) : Covered need free has c' := by
  refine hleads.induct hc ?_ ?_
  · intro c₁ request _ ih x hx
    refine (ih x hx).imp_right ?_
    rintro ⟨l, hl, hhas⟩
    exact ⟨l, List.mem_append_left _ hl, hhas⟩
  · intro c₁ i l choice s' l' hc₁ ih hchoice hmoves x hx
    have hi := (List.getElem?_eq_some_iff.mp hmoves.thread).1
    rcases hstep hc₁ hchoice hmoves x hx with hfree | hhas | ⟨hneed, hfree, hhas⟩
    · exact Or.inl hfree
    · exact Or.inr ⟨l', List.mem_set hi l', hhas⟩
    · obtain ⟨m, hm, hmhas⟩ := (ih x hneed).resolve_left hfree
      obtain ⟨j, hj⟩ := List.getElem?_of_mem hm
      have hne : i ≠ j := by
        rintro rfl
        exact hhas (Option.some.inj (hmoves.thread.symm.trans hj) ▸ hmhas)
      exact Or.inr ⟨m, List.mem_of_getElem? (by rw [List.getElem?_set_ne hne, hj]), hmhas⟩

/-- A mutex that is owned is owned by a thread in one of the stages that hold it. -/
theorem Leads.held (hleads : P.Leads allowed c c') (mutex : S → Option Nat) {holds : L → Prop}
    (hstep : ∀ {c₁ i l choice s' l'}, P.Moves c₁ i l choice s' l' → mutex s' ≠ none →
      holds l' ∨ mutex c₁.shared ≠ none ∧ ¬ holds l)
    (hfree : mutex c.shared = none) (howned : mutex c'.shared ≠ none) :
    ∃ l ∈ c'.threads, holds l := by
  have hcovered : Covered (fun s (_ : Unit) => mutex s ≠ none) (fun _ _ => False)
      (fun l _ => holds l) c' := by
    refine hleads.covered (fun _ _ hmoves _ hneed => Or.inr ?_) ?_
    · exact (hstep hmoves hneed).imp_right fun hkept => ⟨hkept.1, id, hkept.2⟩
    · exact fun _ hneed => absurd hfree hneed
  exact (hcovered () howned).resolve_left id

/-! ## The steps of one thread -/

/-- The steps of thread `i` in a run, each as the shared state before and after it. -/
def own (P : Program S L C R) (i : Nat) (c : Config S L) : List (Act C R) → List (S × S)
  | [] => []
  | act :: acts =>
    match P.next c act with
    | none => []
    | some c' =>
      match act with
      | .spawn _ => P.own i c' acts
      | .move j _ =>
        if j = i then (c.shared, c'.shared) :: P.own i c' acts else P.own i c' acts

/-- What some steps add to a quantity of the shared state. -/
def net (f : S → Int) (steps : List (S × S)) : Int :=
  (steps.map fun step => f step.2 - f step.1).sum

@[simp] theorem net_nil (f : S → Int) : net f [] = 0 := rfl

@[simp] theorem net_cons (f : S → Int) (s s' : S) (steps : List (S × S)) :
    net f ((s, s') :: steps) = f s' - f s + net f steps := by
  simp [net]

/-- Induction over the steps of thread `i` in a run from the last to the first. What is shown is
a property of the state of the thread and of the steps it is still going to make. -/
theorem own_induct {acts : List (Act C R)} {i : Nat} {l l' : L}
    {motive : L → List (S × S) → Prop} (hacts : ∀ act ∈ acts, act.Allowed allowed)
    (hrun : P.run c acts = some c') (hl : c.threads[i]? = some l)
    (hl' : c'.threads[i]? = some l') (nil : motive l' [])
    (cons : ∀ {c₁ : Config S L} {l₁ : L} {choice : C} {s₂ : S} {l₂ : L} {steps : List (S × S)},
      P.Leads allowed c c₁ → P.Leads allowed c₁ c' → .move i choice ∈ acts →
      P.Moves c₁ i l₁ choice s₂ l₂ → motive l₂ steps → motive l₁ ((c₁.shared, s₂) :: steps)) :
    motive l (P.own i c acts) := by
  -- The run up to the configuration in which the rest of the acts starts is kept.
  have hgeneral : ∀ (rest : List (Act C R)) (c₁ : Config S L) (l₁ : L), rest ⊆ acts →
      P.Leads allowed c c₁ → P.run c₁ rest = some c' → c₁.threads[i]? = some l₁ →
      motive l₁ (P.own i c₁ rest) := by
    intro rest
    induction rest with
    | nil =>
      intro c₁ l₁ _ _ hrun hl₁
      cases hrun
      cases hl₁.symm.trans hl'
      exact nil
    | cons act rest ih =>
      intro c₁ l₁ hsubset hleads hrun hl₁
      have hleads' : P.Leads allowed c₁ c' :=
        ⟨act :: rest, fun act hact => hacts act (hsubset hact), hrun⟩
      obtain ⟨c₂, hnext, hrest⟩ := Option.bind_eq_some_iff.mp hrun
      obtain ⟨hact, hsubset⟩ := List.cons_subset.mp hsubset
      have hleads₂ := hleads.trans (Leads.of_next (hacts act hact) hnext)
      have hih := fun l₂ => ih c₂ l₂ hsubset hleads₂ hrest
      rcases next_cases hnext with ⟨request, rfl, rfl⟩ | ⟨j, l₀, choice, s', l₂, rfl, hmoves, rfl⟩
      · simp only [own, hnext]
        refine hih l₁ ?_
        have hi := (List.getElem?_eq_some_iff.mp hl₁).1
        exact (List.getElem?_append_left hi).trans hl₁
      · simp only [own, hnext]
        split
        · rename_i hji
          subst hji
          cases hmoves.thread.symm.trans hl₁
          have hi := (List.getElem?_eq_some_iff.mp hl₁).1
          exact cons hleads hleads' hact hmoves (hih l₂ (by simp [hi]))
        · rename_i hji
          exact hih l₁ ((List.getElem?_set_ne hji).trans hl₁)
  exact hgeneral acts c l (List.Subset.refl acts) (Leads.refl c) hrun hl

/-! ## What a run shows -/

/-- The events of a run in their order. Those of a step are told by the states of its thread. -/
def trace {E : Type} (P : Program S L C R) (emit : L → L → List E) (c : Config S L) :
    List (Act C R) → List E
  | [] => []
  | act :: acts =>
    match P.next c act with
    | none => []
    | some c' =>
      match act with
      | .spawn _ => P.trace emit c' acts
      | .move i _ =>
        match c.threads[i]?, c'.threads[i]? with
        | some l, some l' => emit l l' ++ P.trace emit c' acts
        | _, _ => P.trace emit c' acts

/-- Induction over a run from its end, together with the events so far. -/
theorem trace_induct {E : Type} {emit : L → L → List E} {acts : List (Act C R)}
    {motive : Config S L → List E → Prop} (hrun : P.run c acts = some c') (base : motive c [])
    (spawn : ∀ c₁ request events, P.Leads (fun _ => True) c c₁ → motive c₁ events →
      motive ⟨c₁.shared, c₁.threads ++ [P.start request]⟩ events)
    (move : ∀ c₁ i l choice s' l' events, P.Leads (fun _ => True) c c₁ → motive c₁ events →
      P.Moves c₁ i l choice s' l' → motive ⟨s', c₁.threads.set i l'⟩ (events ++ emit l l')) :
    motive c' (P.trace emit c acts) := by
  -- The events up to some configuration are kept while the rest of the acts is used up.
  have hgeneral : ∀ (acts : List (Act C R)) (c₁ : Config S L) (events : List E),
      P.Leads (fun _ => True) c c₁ → motive c₁ events → P.run c₁ acts = some c' →
      motive c' (events ++ P.trace emit c₁ acts) := by
    intro acts
    induction acts with
    | nil =>
      intro c₁ events _ hc₁ hrun
      cases hrun
      rwa [trace, List.append_nil]
    | cons act acts ih =>
      intro c₁ events hleads hc₁ hrun
      obtain ⟨c₂, hnext, hrest⟩ := Option.bind_eq_some_iff.mp hrun
      have hleads₂ : P.Leads (fun _ => True) c c₂ :=
        hleads.trans (Leads.of_next (by cases act <;> trivial) hnext)
      rcases next_cases hnext with ⟨request, rfl, rfl⟩ | ⟨i, l, choice, s', l', rfl, hmoves, rfl⟩
      · simp only [trace, hnext]
        exact ih _ events hleads₂ (spawn c₁ request events hleads hc₁) hrest
      · have hi := (List.getElem?_eq_some_iff.mp hmoves.thread).1
        have hl' : (c₁.threads.set i l')[i]? = some l' := by simp [hi]
        simp only [trace, hnext, hmoves.thread, hl']
        rw [← List.append_assoc]
        exact ih _ _ hleads₂ (move c₁ i l choice s' l' events hleads hc₁ hmoves) hrest
  exact hgeneral acts c [] (Leads.refl c) base hrun

end Program

end PhotospiderDaemon.Foundation
