import Mathlib.Data.List.Forall2
import Mathlib.Data.List.Perm.Basic
import PhotospiderDaemon.Foundation.ByteFormat
import PhotospiderDaemon.Foundation.OrderedMap

/-!
# Canonical forms

A reader determines the bytes it accepts when everything it returns could have been read
from one byte list only. This is the direction opposite to a round trip, and it is stated
for the two sides apart.

* `Accepts r R`: the bytes that a successful run of `r` consumed stand in the relation `R`
  to what it returned.
* `Puts limit w bs`: with enough room the writer succeeds and appends exactly `bs`.

A loop that inserts into an ordered map forgets the order of the entries and nothing else:
`Accepts.iterate_emplace`.
-/

namespace PhotospiderDaemon.Foundation

variable {ε ω α β : Type} {limit : Nat}

/-! ## What a reader accepted -/

/-- The bytes consumed by a successful run and its result satisfy `R`. -/
def Accepts (r : Reader ε ω α) (R : List UInt8 → α → Prop) : Prop :=
  ∀ s a s', r s = .ok a s' → ∃ bs, s.unread = bs ++ s'.unread ∧ R bs a

namespace Accepts

theorem mono {r : Reader ε ω α} {R R' : List UInt8 → α → Prop} (h : Accepts r R)
    (hR : ∀ bs a, R bs a → R' bs a) : Accepts r R' := by
  intro s a s' hrun
  obtain ⟨bs, hunread, hbs⟩ := h s a s' hrun
  exact ⟨bs, hunread, hR bs a hbs⟩

theorem pure {R : List UInt8 → α → Prop} {a : α} (h : R [] a) :
    Accepts (pure a : Reader ε ω α) R := by
  intro s b s' hrun
  cases hrun
  exact ⟨[], rfl, h⟩

/-- The continuation is asked about the bytes that follow those already accepted. -/
theorem bind {r : Reader ε ω α} {f : α → Reader ε ω β} {P : List UInt8 → α → Prop}
    {R : List UInt8 → β → Prop} (hr : Accepts r P)
    (hf : ∀ bs a, P bs a → Accepts (f a) fun cs b => R (bs ++ cs) b) : Accepts (r >>= f) R := by
  intro s b s'' hrun
  obtain ⟨a, s', hfirst, hrest⟩ := Reader.bind_eq_ok hrun
  obtain ⟨bs, hunread, hbs⟩ := hr s a s' hfirst
  obtain ⟨cs, hunread', hcs⟩ := hf bs a hbs s' b s'' hrest
  exact ⟨bs ++ cs, by rw [hunread, hunread', List.append_assoc], hcs⟩

theorem throw {e : ε} {R : List UInt8 → α → Prop} : Accepts (throw e : Reader ε ω α) R := by
  intro s a s' hrun
  cases hrun

theorem throwIf_bind {c : Bool} {e : ε} {f : Unit → Reader ε ω α} {R : List UInt8 → α → Prop}
    (h : c = false → Accepts (f ()) R) : Accepts (Reader.throwIf c e >>= f) R := by
  intro s a s' hrun
  obtain ⟨hc, hrest⟩ := Reader.throwIf_bind_eq_ok hrun
  exact h hc s a s' hrest

theorem check (fits : Nat → Bool) (e : ε) :
    Accepts (Reader.check fits e : Reader ε ω Unit) fun bs _ => bs = [] := by
  intro s u s' hrun
  rw [Reader.check_run] at hrun
  split at hrun
  · cases hrun
    exact ⟨[], rfl, rfl⟩
  · cases hrun

theorem observe (o : Nat → ω) :
    Accepts (Reader.observe o : Reader ε ω Unit) fun bs _ => bs = [] := by
  intro s u s' hrun
  cases hrun
  exact ⟨[], rfl, rfl⟩

theorem byte (e : ε) : Accepts (Reader.byte e : Reader ε ω UInt8) fun bs b => bs = [b] := by
  intro s b s' hrun
  rw [Reader.byte_run] at hrun
  split at hrun
  · cases hrun
  · rename_i hunread
    cases hrun
    exact ⟨[b], hunread, rfl⟩

theorem take (e : ε) (size : Nat) :
    Accepts (Reader.take e size : Reader ε ω _) fun bs data => bs = data ∧ data.length = size := by
  intro s data s' hrun
  rw [Reader.take_run] at hrun
  split at hrun
  · cases hrun
  · rename_i hroom
    cases hrun
    refine ⟨s.unread.take size, (List.take_append_drop size s.unread).symm, rfl, ?_⟩
    rw [List.length_take]
    omega

theorem little (e : ε) (count : Nat) :
    Accepts (Reader.little e count : Reader ε ω Nat) fun bs value =>
      value < 256 ^ count ∧ bs = littleEndian count value := by
  intro s value s' hrun
  obtain ⟨hlt, hunread⟩ := Reader.little_eq_ok hrun
  exact ⟨littleEndian count value, hunread, hlt, rfl⟩

theorem many {r : Reader ε ω α} {R : List UInt8 → α → Prop} (h : Accepts r R) (count : Nat) :
    Accepts (Reader.many r count) fun bs as =>
      as.length = count ∧ ∃ chunks, bs = chunks.flatten ∧ List.Forall₂ R chunks as := by
  induction count with
  | zero => exact pure ⟨rfl, [], rfl, .nil⟩
  | succ count ih =>
    refine h.bind fun bs a hbs => ih.bind ?_
    rintro _ as ⟨hlength, chunks, rfl, hchunks⟩
    refine pure ⟨by rw [List.length_cons, hlength], bs :: chunks, ?_, .cons hbs hchunks⟩
    rw [List.flatten_cons, List.append_nil]

section Maps

variable {κ : Type} [LinearOrder κ]

/-- A loop of insertions that refuses a repeated key, from a map that was already filled. -/
theorem iterate_emplace_from {f : OrderedMap κ α → Reader ε ω (OrderedMap κ α)}
    {R : List UInt8 → κ × α → Prop}
    (h : ∀ acc, Accepts (f acc) fun bs acc' =>
      ∃ e, R bs e ∧ (acc.emplace e.1 e.2) = (acc', true)) (count : Nat) (acc : OrderedMap κ α) :
    Accepts (Reader.iterate f count acc) fun bs m =>
      ∃ chunks entries, bs = chunks.flatten ∧ List.Forall₂ R chunks entries ∧
        entries.length = count ∧ m.entries.Perm (entries ++ acc.entries) := by
  induction count generalizing acc with
  | zero => exact pure ⟨[], [], rfl, .nil, rfl, List.Perm.refl _⟩
  | succ count ih =>
    refine (h acc).bind ?_
    rintro bs acc' ⟨e, hbs, hemplace⟩
    refine (ih acc').mono ?_
    rintro _ m ⟨chunks, entries, rfl, hchunks, hlength, hperm⟩
    refine ⟨bs :: chunks, e :: entries, rfl, .cons hbs hchunks, by rw [List.length_cons, hlength],
      ?_⟩
    have hnew : acc'.entries.Perm (e :: acc.entries) := OrderedMap.perm_of_emplace hemplace
    exact (hperm.trans (hnew.append_left entries)).trans List.perm_middle

/-- Such a loop forgets the order in which the entries were read, and nothing else. -/
theorem iterate_emplace {f : OrderedMap κ α → Reader ε ω (OrderedMap κ α)}
    {R : List UInt8 → κ × α → Prop}
    (h : ∀ acc, Accepts (f acc) fun bs acc' =>
      ∃ e, R bs e ∧ (acc.emplace e.1 e.2) = (acc', true)) (count : Nat) :
    Accepts (Reader.iterate f count OrderedMap.empty) fun bs m =>
      ∃ chunks entries, bs = chunks.flatten ∧ List.Forall₂ R chunks entries ∧
        entries.length = count ∧ entries.Perm m.entries := by
  refine (iterate_emplace_from h count OrderedMap.empty).mono ?_
  rintro bs m ⟨chunks, entries, hbs, hchunks, hlength, hperm⟩
  refine ⟨chunks, entries, hbs, hchunks, hlength, ?_⟩
  have hentries : entries ++ (OrderedMap.empty : OrderedMap κ α).entries = entries :=
    List.append_nil entries
  rw [hentries] at hperm
  exact hperm.symm

end Maps

end Accepts

/-! ## What a writer appends -/

/-- With room for them, the writer appends exactly these bytes. -/
def Puts (limit : Nat) (w : Writer ε Unit) (bs : List UInt8) : Prop :=
  ∀ p, p.length + bs.length ≤ limit → w.run p = .ok ((), p ++ bs)

namespace Puts

theorem pure : Puts limit (pure () : Writer ε Unit) [] := by
  intro p _
  rw [List.append_nil]
  rfl

theorem bind {w w' : Writer ε Unit} {bs cs : List UInt8} (h : Puts limit w bs)
    (h' : Puts limit w' cs) : Puts limit (w >>= fun _ => w') (bs ++ cs) := by
  intro p hroom
  rw [List.length_append] at hroom
  have hfirst : w.run p = .ok ((), p ++ bs) := h p (by omega)
  have hrest : w'.run (p ++ bs) = .ok ((), p ++ bs ++ cs) :=
    h' (p ++ bs) (by rw [List.length_append]; omega)
  rw [StateT.run_bind, hfirst, ← List.append_assoc]
  exact hrest

theorem throwIf_bind {c : Bool} {e : ε} {w : Writer ε Unit} {bs : List UInt8} (hc : c = false)
    (h : Puts limit w bs) : Puts limit (Writer.throwIf c e >>= fun _ => w) bs := by
  subst hc
  exact h

theorem append (overflow : ε) (data : List UInt8) :
    Puts limit (Writer.append limit overflow data) data := by
  intro p hroom
  rw [Writer.append_run, if_neg (by omega)]

theorem forM {w : α → Writer ε Unit} {form : α → List UInt8} {xs : List α}
    (h : ∀ x ∈ xs, Puts limit (w x) (form x)) : Puts limit (forM xs w) (xs.flatMap form) := by
  induction xs with
  | nil => exact Puts.pure
  | cons x xs ih =>
    rw [List.forM_cons, List.flatMap_cons]
    exact (h x List.mem_cons_self).bind (ih fun y hy => h y (List.mem_cons_of_mem _ hy))

theorem little (overflow : ε) (count value : Nat) :
    Puts limit (Writer.little limit overflow count value) (littleEndian count value) := by
  have hform : littleEndian count value =
      (List.range count).flatMap fun index => [UInt8.ofNat (value >>> (index * 8))] := by
    rw [littleEndian, List.map_eq_flatMap]
  rw [hform]
  exact Puts.forM fun index _ => Puts.append overflow _

end Puts

end PhotospiderDaemon.Foundation
