import PhotospiderDaemon.Foundation.OrderedMap

/-!
# Erasing while iterating

A loop that goes over a sequence or a map, erases the elements that satisfy a predicate and
pushes them into a vector whose storage was reserved before. A push that would need more storage
has no result.

* `sweep_eq`, `sweepMap_eq`: with enough storage the loops have a result, and what it is.
-/

namespace PhotospiderDaemon.Foundation

variable {κ α : Type}

/-- A vector that must not allocate. -/
structure Reserved (α : Type) where
  capacity : Nat
  elements : List α
  fits : elements.length ≤ capacity

namespace Reserved

/-- `reserve` on an empty vector. -/
def empty (capacity : Nat) : Reserved α := ⟨capacity, [], Nat.zero_le _⟩

/-- `push_back`. -/
def pushBack (v : Reserved α) (a : α) : Option (Reserved α) :=
  if h : v.elements.length < v.capacity then
    some ⟨v.capacity, v.elements ++ [a], by rw [List.length_append]; exact h⟩
  else none

theorem pushBack_eq {v : Reserved α} (h : v.elements.length < v.capacity) (a : α) :
    ∃ v', v.pushBack a = some v' ∧ v'.capacity = v.capacity ∧ v'.elements = v.elements ++ [a] :=
  ⟨_, dif_pos h, rfl, rfl⟩

end Reserved

/-- The iterator stands between what it has passed and the rest. It moves on, or the element is
pushed and erased. -/
def sweep (p : α → Bool) : (passed rest : List α) → Reserved α → Option (List α × Reserved α)
  | passed, [], taken => some (passed, taken)
  | passed, a :: rest, taken =>
    if p a then (taken.pushBack a).bind fun taken => sweep p passed rest taken
    else sweep p (passed ++ [a]) rest taken

theorem sweep_eq (p : α → Bool) (passed : List α) {rest : List α} {taken : Reserved α}
    (h : taken.elements.length + rest.length ≤ taken.capacity) :
    ∃ taken', sweep p passed rest taken = some (passed ++ rest.filter (fun a => !p a), taken') ∧
      taken'.capacity = taken.capacity ∧ taken'.elements = taken.elements ++ rest.filter p := by
  induction rest generalizing passed taken with
  | nil => exact ⟨taken, by rw [sweep, List.filter_nil, List.append_nil], rfl, by simp⟩
  | cons a rest ih =>
    rw [List.length_cons] at h
    by_cases ha : p a = true
    · obtain ⟨taken₁, hpush, hcapacity, helements⟩ := Reserved.pushBack_eq (v := taken) (by omega) a
      have hroom : taken₁.elements.length + rest.length ≤ taken₁.capacity := by
        rw [helements, hcapacity, List.length_append, List.length_singleton]
        omega
      obtain ⟨taken₂, hsweep, hkept, htaken⟩ := ih passed hroom
      refine ⟨taken₂, ?_, hkept.trans hcapacity, ?_⟩
      · rw [sweep, if_pos ha, hpush, Option.bind_some, hsweep]
        simp [ha]
      · rw [htaken, helements, List.filter_cons_of_pos ha, List.append_assoc,
          List.singleton_append]
    · obtain ⟨taken₁, hsweep, hkept, htaken⟩ := @ih (passed ++ [a]) taken (by omega)
      refine ⟨taken₁, ?_, hkept, ?_⟩
      · rw [sweep, if_neg ha, hsweep]
        simp [ha]
      · rw [htaken, List.filter_cons_of_neg ha]

variable [LinearOrder κ]

/-- The same loop over the entries of a map, of which the values are pushed. -/
def sweepMap (p : α → Bool) : OrderedMap κ α → (rest : List (κ × α)) → Reserved α →
    Option (OrderedMap κ α × Reserved α)
  | m, [], taken => some (m, taken)
  | m, (k, a) :: rest, taken =>
    if p a then (taken.pushBack a).bind fun taken => sweepMap p (m.erase k) rest taken
    else sweepMap p m rest taken

theorem sweepMap_rest (p : α → Bool) {m : OrderedMap κ α} {rest : List (κ × α)}
    {taken : Reserved α} (h : taken.elements.length + rest.length ≤ taken.capacity) :
    ∃ m' taken', sweepMap p m rest taken = some (m', taken') ∧
      taken'.capacity = taken.capacity ∧
      taken'.elements = taken.elements ++ (rest.filter fun e => p e.2).map (·.2) ∧
      ∀ k a, m'.find? k = some a ↔ m.find? k = some a ∧ ∀ e ∈ rest, p e.2 = true → e.1 ≠ k := by
  induction rest generalizing m taken with
  | nil => exact ⟨m, taken, rfl, rfl, by simp, by simp⟩
  | cons e rest ih =>
    obtain ⟨key, a⟩ := e
    rw [List.length_cons] at h
    by_cases ha : p a = true
    · obtain ⟨taken₁, hpush, hcapacity, helements⟩ := Reserved.pushBack_eq (v := taken) (by omega) a
      have hroom : taken₁.elements.length + rest.length ≤ taken₁.capacity := by
        rw [helements, hcapacity, List.length_append, List.length_singleton]
        omega
      obtain ⟨m', taken₂, hsweep, hkept, htaken, hfind⟩ := @ih (m.erase key) taken₁ hroom
      refine ⟨m', taken₂, ?_, hkept.trans hcapacity, ?_, ?_⟩
      · rw [sweepMap, if_pos ha, hpush, Option.bind_some, hsweep]
      · simp [htaken, helements, ha]
      · intro k b
        rw [hfind, OrderedMap.find?_erase, List.forall_mem_cons]
        by_cases hk : k = key
        · simp [hk, ha]
        · simp [hk, Ne.symm hk]
    · obtain ⟨m', taken₁, hsweep, hkept, htaken, hfind⟩ := @ih m taken (by omega)
      refine ⟨m', taken₁, ?_, hkept, ?_, ?_⟩
      · rw [sweepMap, if_neg ha, hsweep]
      · simp [htaken, ha]
      · intro k b
        rw [hfind, List.forall_mem_cons]
        simp [ha]

theorem sweepMap_eq (p : α → Bool) (m : OrderedMap κ α) {taken : Reserved α}
    (h : taken.elements.length + m.size ≤ taken.capacity) :
    ∃ taken', sweepMap p m m.entries taken = some (m.removeIf fun _ a => p a, taken') ∧
      taken'.capacity = taken.capacity ∧
      taken'.elements = taken.elements ++ (m.entries.filter fun e => p e.2).map (·.2) := by
  obtain ⟨m', taken', hsweep, hkept, htaken, hfind⟩ := @sweepMap_rest κ α _ p m m.entries taken h
  have hm : m' = m.removeIf fun _ a => p a := by
    apply OrderedMap.ext_find?
    intro k a
    rw [hfind, OrderedMap.find?_removeIf]
    refine and_congr_right fun hka => ?_
    have hmem : (k, a) ∈ m.entries := OrderedMap.mem_entries_iff_find?.mpr hka
    constructor
    · intro hnone
      by_contra ha
      exact hnone (k, a) hmem (by simpa using ha) rfl
    · rintro ha e he hp rfl
      have heq := OrderedMap.eq_of_mem_of_fst_eq he hmem rfl
      rw [heq, ha] at hp
      cases hp
  exact ⟨taken', by rw [hsweep, hm], hkept, htaken⟩

end PhotospiderDaemon.Foundation
