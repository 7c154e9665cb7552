import Mathlib.Order.Lattice
import Mathlib.Order.Defs.LinearOrder
import Mathlib.Data.List.Lex
import Mathlib.Data.List.Basic

/-!
# Ordered maps with unique keys

An ordered map is its list of entries in ascending key order. The order proof is a
field, so a map with a repeated or misplaced key cannot be built and two maps with the
same entries are equal. The operations are those of a C++ `std::map`: `find?`,
`emplace` (which reports whether it inserted), `erase`, and removal of the entries that
satisfy a predicate while iterating.

* `mem_entries_iff_find?`: an entry occurs exactly when its key is bound to its value.
* `find?_emplace`, `find?_erase`, `find?_removeIf`: how each operation changes lookups.
* `emplace_entries_of_lt`: a key above every stored key is appended, so inserting the
  entries of a map in their own order rebuilds the map.
-/

namespace PhotospiderDaemon.Foundation

instance linearOrderUInt8 : LinearOrder UInt8 where
  le_refl := UInt8.le_refl
  le_trans _ _ _ := UInt8.le_trans
  le_antisymm _ _ := UInt8.le_antisymm
  le_total := UInt8.le_total
  lt_iff_le_not_ge a b := by
    simp only [UInt8.lt_iff_toNat_lt, UInt8.le_iff_toNat_le]
    omega
  toDecidableLE := inferInstance
  toDecidableLT := inferInstance
  toDecidableEq := inferInstance

instance linearOrderUInt64 : LinearOrder UInt64 where
  le_refl := UInt64.le_refl
  le_trans _ _ _ := UInt64.le_trans
  le_antisymm _ _ := UInt64.le_antisymm
  le_total := UInt64.le_total
  lt_iff_le_not_ge a b := by
    simp only [UInt64.lt_iff_toNat_lt, UInt64.le_iff_toNat_le]
    omega
  toDecidableLE := inferInstance
  toDecidableLT := inferInstance
  toDecidableEq := inferInstance

/-- Entries in strictly ascending key order. -/
structure OrderedMap (κ α : Type) [LinearOrder κ] where
  entries : List (κ × α)
  sorted : entries.Pairwise (fun a b => a.1 < b.1)

namespace OrderedMap

variable {κ α : Type} [LinearOrder κ]

theorem ext {m m' : OrderedMap κ α} (h : m.entries = m'.entries) : m = m' := by
  cases m
  cases m'
  cases h
  rfl

instance [DecidableEq α] : DecidableEq (OrderedMap κ α) := fun m m' =>
  decidable_of_iff (m.entries = m'.entries) ⟨ext, congrArg entries⟩

/-- The map without entries. -/
def empty : OrderedMap κ α := ⟨[], List.Pairwise.nil⟩

instance : Inhabited (OrderedMap κ α) := ⟨empty⟩

/-- The number of entries. -/
def size (m : OrderedMap κ α) : Nat := m.entries.length

/-- The value bound to a key. -/
def find? (m : OrderedMap κ α) (k : κ) : Option α :=
  (m.entries.find? (fun e => e.1 = k)).map (·.2)

/-- Insertion at the sorted position. An entry with the same key stays as it is. -/
def insertEntry (k : κ) (a : α) : List (κ × α) → List (κ × α)
  | [] => [(k, a)]
  | e :: es =>
    if k < e.1 then (k, a) :: e :: es
    else if k = e.1 then e :: es
    else e :: insertEntry k a es

theorem mem_insertEntry {k : κ} {a : α} {es : List (κ × α)} {e : κ × α}
    (h : e ∈ insertEntry k a es) : e = (k, a) ∨ e ∈ es := by
  induction es with
  | nil => simpa [insertEntry] using h
  | cons x es ih =>
    unfold insertEntry at h
    split at h
    · simpa using h
    · split at h
      · exact Or.inr h
      · rcases List.mem_cons.mp h with rfl | h
        · exact Or.inr List.mem_cons_self
        · exact (ih h).imp_right (List.mem_cons_of_mem _)

theorem insertEntry_sorted (k : κ) (a : α) {es : List (κ × α)}
    (h : es.Pairwise (fun a b => a.1 < b.1)) :
    (insertEntry k a es).Pairwise (fun a b => a.1 < b.1) := by
  induction es with
  | nil => simp [insertEntry]
  | cons x es ih =>
    obtain ⟨hx, hes⟩ := List.pairwise_cons.mp h
    unfold insertEntry
    split
    · rename_i hlt
      refine List.pairwise_cons.mpr ⟨?_, h⟩
      intro e he
      rcases List.mem_cons.mp he with rfl | he
      · exact hlt
      · exact hlt.trans (hx e he)
    · split
      · exact h
      · rename_i hnlt hne
        refine List.pairwise_cons.mpr ⟨?_, ih hes⟩
        intro e he
        rcases mem_insertEntry he with rfl | he
        · exact lt_of_le_of_ne (not_lt.mp hnlt) (Ne.symm hne)
        · exact hx e he

/-- Insert an absent key and report `true`; leave the map and report `false` when the
key is present. -/
def emplace (m : OrderedMap κ α) (k : κ) (a : α) : OrderedMap κ α × Bool :=
  match m.find? k with
  | some _ => (m, false)
  | none => (⟨insertEntry k a m.entries, insertEntry_sorted k a m.sorted⟩, true)

/-- Remove every entry that satisfies `p`, keeping the order of the others. -/
def removeIf (m : OrderedMap κ α) (p : κ → α → Bool) : OrderedMap κ α :=
  ⟨m.entries.filter (fun e => !p e.1 e.2), m.sorted.filter _⟩

/-- Remove the entry of one key. -/
def erase (m : OrderedMap κ α) (k : κ) : OrderedMap κ α := m.removeIf (fun k' _ => k' = k)

/-- Change every value under its key. -/
def mapValues {β : Type} (g : α → β) (m : OrderedMap κ α) : OrderedMap κ β :=
  ⟨m.entries.map (fun e => (e.1, g e.2)), List.pairwise_map.mpr m.sorted⟩

theorem mapValues_id (m : OrderedMap κ α) : m.mapValues id = m := ext (List.map_id m.entries)

/-! ## Lookups -/

theorem eq_of_mem_of_fst_eq {m : OrderedMap κ α} {e e' : κ × α} (he : e ∈ m.entries)
    (he' : e' ∈ m.entries) (hk : e.1 = e'.1) : e = e' := by
  have hinj : ∀ x ∈ m.entries, ∀ y ∈ m.entries, x.1 = y.1 → x = y :=
    List.Pairwise.forall_of_forall_of_flip (fun _ _ _ => rfl)
      (m.sorted.imp fun hlt heq => absurd heq (ne_of_lt hlt))
      (m.sorted.imp fun hlt heq => absurd heq (ne_of_gt hlt))
  exact hinj e he e' he' hk

theorem mem_entries_iff_find? {m : OrderedMap κ α} {k : κ} {a : α} :
    (k, a) ∈ m.entries ↔ m.find? k = some a := by
  unfold find?
  constructor
  · intro h
    cases hf : m.entries.find? (fun e => e.1 = k) with
    | none =>
      have := List.find?_eq_none.mp hf (k, a) h
      simp at this
    | some e =>
      have hk : e.1 = k := by simpa using List.find?_some hf
      have he := eq_of_mem_of_fst_eq (List.mem_of_find?_eq_some hf) h hk
      subst he
      rfl
  · intro h
    obtain ⟨e, hf, rfl⟩ := Option.map_eq_some_iff.mp h
    have hk : e.1 = k := by simpa using List.find?_some hf
    subst hk
    exact List.mem_of_find?_eq_some hf

/-- A map is known by its lookups. -/
theorem ext_find? {m m' : OrderedMap κ α}
    (h : ∀ k a, m.find? k = some a ↔ m'.find? k = some a) : m = m' := by
  have hnodup : ∀ m : OrderedMap κ α, m.entries.Nodup := fun m =>
    m.sorted.imp fun hlt heq => absurd (congrArg Prod.fst heq) (ne_of_lt hlt)
  have hperm : m.entries.Perm m'.entries := by
    rw [List.perm_ext_iff_of_nodup (hnodup m) (hnodup m')]
    rintro ⟨k, a⟩
    rw [mem_entries_iff_find?, mem_entries_iff_find?, h k a]
  apply ext
  refine List.Perm.eq_of_pairwise ?_ m.sorted m'.sorted hperm
  intro e e' _ _ hlt hgt
  exact absurd hlt (lt_asymm hgt)

@[simp] theorem find?_empty (k : κ) : (empty : OrderedMap κ α).find? k = none := rfl

theorem find?_eq_none_iff {m : OrderedMap κ α} {k : κ} :
    m.find? k = none ↔ ∀ a, (k, a) ∉ m.entries := by
  constructor
  · intro h a ha
    rw [mem_entries_iff_find?.mp ha] at h
    cases h
  · intro h
    cases hf : m.find? k with
    | none => rfl
    | some a => exact absurd (mem_entries_iff_find?.mpr hf) (h a)

theorem insertEntry_perm {k : κ} {a : α} {es : List (κ × α)} (hk : ∀ e ∈ es, e.1 ≠ k) :
    (insertEntry k a es).Perm ((k, a) :: es) := by
  induction es with
  | nil => exact List.Perm.refl _
  | cons x es ih =>
    have hx : k ≠ x.1 := (hk x List.mem_cons_self).symm
    have hrest := ih fun e he => hk e (List.mem_cons_of_mem _ he)
    unfold insertEntry
    rw [if_neg hx]
    split
    · exact List.Perm.refl _
    · exact (hrest.cons x).trans (List.Perm.swap _ _ _)

theorem mem_insertEntry_iff {k : κ} {a : α} {es : List (κ × α)} (hk : ∀ e ∈ es, e.1 ≠ k)
    {e : κ × α} : e ∈ insertEntry k a es ↔ e = (k, a) ∨ e ∈ es := by
  rw [(insertEntry_perm hk).mem_iff, List.mem_cons]

theorem length_insertEntry {k : κ} {a : α} {es : List (κ × α)} (hk : ∀ e ∈ es, e.1 ≠ k) :
    (insertEntry k a es).length = es.length + 1 := by
  rw [(insertEntry_perm hk).length_eq, List.length_cons]

theorem emplace_of_find?_some {m : OrderedMap κ α} {k : κ} {a b : α} (h : m.find? k = some b) :
    m.emplace k a = (m, false) := by
  simp [emplace, h]

theorem emplace_of_find?_none {m : OrderedMap κ α} {k : κ} (a : α) (h : m.find? k = none) :
    m.emplace k a =
      (⟨insertEntry k a m.entries, insertEntry_sorted k a m.sorted⟩, true) := by
  simp [emplace, h]

theorem keys_ne_of_find?_none {m : OrderedMap κ α} {k : κ} (h : m.find? k = none) :
    ∀ e ∈ m.entries, e.1 ≠ k := by
  rintro ⟨k', a⟩ he rfl
  exact find?_eq_none_iff.mp h a he

theorem perm_of_emplace {m m' : OrderedMap κ α} {e : κ × α} (h : m.emplace e.1 e.2 = (m', true)) :
    m'.entries.Perm (e :: m.entries) := by
  cases hfind : m.find? e.1 with
  | some b =>
    rw [emplace_of_find?_some hfind] at h
    cases h
  | none =>
    rw [emplace_of_find?_none e.2 hfind] at h
    cases h
    exact insertEntry_perm (keys_ne_of_find?_none hfind)

theorem mem_emplace {m : OrderedMap κ α} {k : κ} (a : α) (h : m.find? k = none) {e : κ × α} :
    e ∈ (m.emplace k a).1.entries ↔ e = (k, a) ∨ e ∈ m.entries := by
  rw [emplace_of_find?_none a h]
  exact mem_insertEntry_iff (keys_ne_of_find?_none h)

theorem size_emplace {m : OrderedMap κ α} {k : κ} (a : α) (h : m.find? k = none) :
    (m.emplace k a).1.size = m.size + 1 := by
  rw [emplace_of_find?_none a h]
  exact length_insertEntry (keys_ne_of_find?_none h)

theorem find?_emplace {m : OrderedMap κ α} {k : κ} (a : α) (h : m.find? k = none) (k' : κ) :
    (m.emplace k a).1.find? k' = if k' = k then some a else m.find? k' := by
  split
  · rename_i hk
    subst hk
    exact mem_entries_iff_find?.mp ((mem_emplace a h).mpr (Or.inl rfl))
  · rename_i hk
    apply Option.ext
    intro b
    rw [← mem_entries_iff_find?, ← mem_entries_iff_find?, mem_emplace a h]
    constructor
    · rintro (he | he)
      · cases he
        exact absurd rfl hk
      · exact he
    · exact Or.inr

theorem mem_removeIf {m : OrderedMap κ α} {p : κ → α → Bool} {e : κ × α} :
    e ∈ (m.removeIf p).entries ↔ e ∈ m.entries ∧ p e.1 e.2 = false := by
  simp [removeIf]

theorem find?_removeIf {m : OrderedMap κ α} {p : κ → α → Bool} {k : κ} {a : α} :
    (m.removeIf p).find? k = some a ↔ m.find? k = some a ∧ p k a = false := by
  rw [← mem_entries_iff_find?, mem_removeIf, mem_entries_iff_find?]

theorem mem_erase {m : OrderedMap κ α} {k : κ} {e : κ × α} :
    e ∈ (m.erase k).entries ↔ e ∈ m.entries ∧ e.1 ≠ k := by
  simp [erase, mem_removeIf]

theorem find?_erase {m : OrderedMap κ α} (k k' : κ) :
    (m.erase k).find? k' = if k' = k then none else m.find? k' := by
  apply Option.ext
  intro a
  rw [← mem_entries_iff_find?, mem_erase]
  split
  · rename_i hk
    subst hk
    simp
  · rename_i hk
    rw [mem_entries_iff_find?]
    exact ⟨fun h => h.1, fun h => ⟨h, hk⟩⟩

theorem size_removeIf_le (m : OrderedMap κ α) (p : κ → α → Bool) :
    (m.removeIf p).size ≤ m.size := List.length_filter_le _ _

/-- Erasing the key that `emplace` just inserted restores the map. -/
theorem erase_emplace {m : OrderedMap κ α} {k : κ} (a : α) (h : m.find? k = none) :
    (m.emplace k a).1.erase k = m := by
  have hk := keys_ne_of_find?_none h
  rw [emplace_of_find?_none a h]
  apply ext
  simp only [erase, removeIf]
  generalize m.entries = es at hk ⊢
  induction es with
  | nil => simp [insertEntry]
  | cons x es ih =>
    have hx : x.1 ≠ k := hk x List.mem_cons_self
    have hes : ∀ e ∈ es, e.1 ≠ k := fun e he => hk e (List.mem_cons_of_mem _ he)
    have hrest : es.filter (fun e => !decide (e.1 = k)) = es := by
      apply List.filter_eq_self.mpr
      intro e he
      simpa using hes e he
    unfold insertEntry
    rw [if_neg (Ne.symm hx)]
    split
    · simp [hx, hrest]
    · simp only [List.filter_cons, hx, decide_false, Bool.not_false, if_true, ih hes]

/-! ## Rebuilding a map in key order -/

theorem insertEntry_of_lt {k : κ} {a : α} {es : List (κ × α)} (h : ∀ e ∈ es, e.1 < k) :
    insertEntry k a es = es ++ [(k, a)] := by
  induction es with
  | nil => rfl
  | cons x es ih =>
    have hx : x.1 < k := h x List.mem_cons_self
    unfold insertEntry
    rw [if_neg (not_lt.mpr hx.le), if_neg (ne_of_gt hx)]
    simp [ih (fun e he => h e (List.mem_cons_of_mem _ he))]

theorem find?_eq_none_of_lt {m : OrderedMap κ α} {k : κ} (h : ∀ e ∈ m.entries, e.1 < k) :
    m.find? k = none :=
  find?_eq_none_iff.mpr fun a ha => lt_irrefl k (h (k, a) ha)

theorem emplace_entries_of_lt {m : OrderedMap κ α} {k : κ} (a : α)
    (h : ∀ e ∈ m.entries, e.1 < k) :
    (m.emplace k a).2 = true ∧ (m.emplace k a).1.entries = m.entries ++ [(k, a)] := by
  rw [emplace_of_find?_none a (find?_eq_none_of_lt h)]
  exact ⟨rfl, insertEntry_of_lt h⟩

end OrderedMap

end PhotospiderDaemon.Foundation
