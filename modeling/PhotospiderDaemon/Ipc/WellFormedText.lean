import Mathlib.Algebra.Group.Nat.Defs
import PhotospiderDaemon.Ipc.Utf8

/-!
# The UTF-8 check accepts exactly UTF-8

A Unicode scalar value is a `Char`, and `String.utf8EncodeChar` is its encoding. A value beyond
ASCII has a lead byte and `n` continuation bytes, which are its digits in base 64
(`continuationBytes`). The loop of the source computes the value back digit by digit, so both
directions are one induction on the number of digits.

* `loop_accepts`, `loop_refuses`: one turn of the loop.
* `validUtf8_iff`: the whole loop.
-/

namespace PhotospiderDaemon.Ipc

/-! ## Continuation bytes -/

/-- The last `n` digits of a value in base 64, as continuation bytes. -/
def continuationBytes (v : Nat) : Nat → Bytes
  | 0 => []
  | n + 1 => UInt8.ofNat (v / 64 ^ n % 64 + 0x80) :: continuationBytes v n

theorem length_continuationBytes (v n : Nat) : (continuationBytes v n).length = n := by
  induction n with
  | zero => rfl
  | succ n ih => simp [continuationBytes, ih]

/-- The test of the mask. -/
theorem continuation_iff (b : UInt8) : b &&& 0xc0 = 0x80 ↔ 0x80 ≤ b.toNat ∧ b.toNat < 0xc0 := by
  have hall : ∀ b : Fin 256, UInt8.ofFin b &&& 0xc0 = 0x80 ↔ 0x80 ≤ b.val ∧ b.val < 0xc0 := by
    decide +kernel
  exact hall b.toFin

/-- The payload of a continuation byte. -/
theorem continuation_payload (b : UInt8) : (b &&& 0x3f).toNat = b.toNat % 64 := by
  rw [UInt8.toNat_and]
  exact Nat.and_two_pow_sub_one_eq_mod b.toNat 6

theorem shift_or {high low : Nat} (h : low < 64) : (high <<< 6) ||| low = high * 64 + low := by
  rw [← Nat.shiftLeft_add_eq_or_of_lt h, Nat.shiftLeft_eq]

/-- The byte at an index, and what follows it. -/
theorem getElem?_of_drop {value rest : Bytes} {index : Nat} {b : UInt8}
    (h : value.drop index = b :: rest) :
    value[index]? = some b ∧ value.drop (index + 1) = rest := by
  constructor
  · rw [← List.head?_drop, h]
    rfl
  · rw [← List.drop_drop, h]
    rfl

theorem toNat_continuation {digit : Nat} (h : digit < 64) :
    (UInt8.ofNat (digit + 0x80)).toNat = digit + 0x80 := by
  rw [UInt8.toNat_ofNat']
  exact Nat.mod_eq_of_lt (by omega)

/-- The loop over the continuation bytes computes a value from its digits. -/
theorem utf8Continuations_bytes {value : Bytes} {index v n k : Nat} {rest : Bytes}
    (h : value.drop (index + k + 1) = continuationBytes v n ++ rest) :
    utf8Continuations value index n k (v / 64 ^ n) = some (some v) := by
  induction n generalizing k with
  | zero => simp [utf8Continuations]
  | succ n ih =>
    have hdigit : v / 64 ^ n % 64 < 64 := Nat.mod_lt _ (by decide)
    obtain ⟨hbyte, hrest⟩ := getElem?_of_drop h
    have hmask : UInt8.ofNat (v / 64 ^ n % 64 + 0x80) &&& 0xc0 = 0x80 := by
      rw [continuation_iff, toNat_continuation hdigit]
      omega
    have hvalue : (v / 64 ^ (n + 1)) <<< 6 |||
        (UInt8.ofNat (v / 64 ^ n % 64 + 0x80) &&& 0x3f).toNat = v / 64 ^ n := by
      have hdiv : v / 64 ^ (n + 1) = v / 64 ^ n / 64 := by
        rw [Nat.div_div_eq_div_mul, Nat.pow_succ]
      rw [continuation_payload, toNat_continuation hdigit,
        shift_or (Nat.mod_lt _ (by decide)), hdiv]
      omega
    unfold utf8Continuations
    rw [hbyte]
    simp only [Option.bind_eq_bind, Option.bind_some, ne_eq, hmask, not_true_eq_false, if_false,
      hvalue]
    exact ih hrest

/-- Conversely, a value that the loop computes has these digits. -/
theorem bytes_of_utf8Continuations {value : Bytes} {index v n k high : Nat}
    (h : utf8Continuations value index n k high = some (some v)) :
    v / 64 ^ n = high ∧ ∃ rest, value.drop (index + k + 1) = continuationBytes v n ++ rest := by
  induction n generalizing k high with
  | zero =>
    simp only [utf8Continuations, Option.some.injEq] at h
    exact ⟨by simp [h], _, rfl⟩
  | succ n ih =>
    unfold utf8Continuations at h
    cases hbyte : value[index + k + 1]? with
    | none =>
      rw [hbyte] at h
      cases h
    | some b =>
      rw [hbyte] at h
      simp only [Option.bind_eq_bind, Option.bind_some, ne_eq, ite_not] at h
      split at h
      · rename_i hmask
        obtain ⟨hhigh, rest, hrest⟩ := ih h
        obtain ⟨hlow, hup⟩ := (continuation_iff b).mp hmask
        rw [continuation_payload, shift_or (Nat.mod_lt _ (by decide))] at hhigh
        have hdiv : v / 64 ^ (n + 1) = v / 64 ^ n / 64 := by
          rw [Nat.div_div_eq_div_mul, Nat.pow_succ]
        have hb : UInt8.ofNat (v / 64 ^ n % 64 + 0x80) = b := by
          apply UInt8.toNat_inj.mp
          rw [toNat_continuation (Nat.mod_lt _ (by decide))]
          omega
        refine ⟨by omega, rest, ?_⟩
        rw [List.drop_eq_getElem?_toList_append, hbyte]
        show b :: value.drop _ = _ :: _
        rw [hb]
        exact congrArg (b :: ·) hrest
      · cases h

/-- With room for them all, no continuation byte is read outside of the text. -/
theorem utf8Continuations_ne_none {value : Bytes} {index n k high : Nat}
    (h : index + k + n < value.length) : utf8Continuations value index n k high ≠ none := by
  induction n generalizing k high with
  | zero => simp [utf8Continuations]
  | succ n ih =>
    have hlt : index + k + 1 < value.length := by omega
    unfold utf8Continuations
    rw [List.getElem?_eq_getElem hlt]
    simp only [Option.bind_eq_bind, Option.bind_some]
    split
    · exact Option.some_ne_none _
    · exact ih (by omega)

/-! ## Lead bytes -/

/-- A value is encoded with `n` continuation bytes. -/
def Long (v n : Nat) : Prop :=
  n = 1 ∧ 0x80 ≤ v ∧ v ≤ 0x7ff ∨ n = 2 ∧ 0x800 ≤ v ∧ v ≤ 0xffff ∨
    n = 3 ∧ 0x10000 ≤ v ∧ v ≤ 0x10ffff

/-- The least lead byte before `n` continuation bytes. -/
def leadBase : Nat → Nat
  | 1 => 0xc0
  | 2 => 0xe0
  | _ => 0xf0

/-- The lead bytes that the check knows. -/
def Leads (first : Nat) (lead : Nat × Nat × Nat) : Prop :=
  0xc2 ≤ first ∧ first ≤ 0xdf ∧ lead = (1, first - 0xc0, 0x80) ∨
    0xe0 ≤ first ∧ first ≤ 0xef ∧ lead = (2, first - 0xe0, 0x800) ∨
      0xf0 ≤ first ∧ first ≤ 0xf4 ∧ lead = (3, first - 0xf0, 0x10000)

theorem utf8Lead_iff (first : UInt8) (lead : Nat × Nat × Nat) :
    utf8Lead first = some lead ↔ Leads first.toNat lead := by
  have hpayload : ∀ mask bits : Nat, mask = 2 ^ bits - 1 → mask < 256 →
      (first &&& UInt8.ofNat mask).toNat = first.toNat % 2 ^ bits := by
    intro mask bits hmask hlt
    rw [UInt8.toNat_and, UInt8.toNat_ofNat', Nat.mod_eq_of_lt hlt, hmask,
      Nat.and_two_pow_sub_one_eq_mod]
  have h1 : (first &&& 0x1f).toNat = first.toNat % 32 := hpayload 0x1f 5 rfl (by decide)
  have h2 : (first &&& 0x0f).toNat = first.toNat % 16 := hpayload 0x0f 4 rfl (by decide)
  have h3 : (first &&& 0x07).toNat = first.toNat % 8 := hpayload 0x07 3 rfl (by decide)
  have hle : ∀ n : Nat, n < 256 → (UInt8.ofNat n ≤ first ↔ n ≤ first.toNat) ∧
      (first ≤ UInt8.ofNat n ↔ first.toNat ≤ n) := by
    intro n hn
    rw [UInt8.le_iff_toNat_le, UInt8.le_iff_toNat_le, UInt8.toNat_ofNat', Nat.mod_eq_of_lt hn]
    exact ⟨Iff.rfl, Iff.rfl⟩
  have hrange : ∀ low high : Nat, low < 256 → high < 256 →
      (first ≥ UInt8.ofNat low ∧ first ≤ UInt8.ofNat high ↔
        low ≤ first.toNat ∧ first.toNat ≤ high) := by
    intro low high hlow hhigh
    rw [ge_iff_le, (hle low hlow).1, (hle high hhigh).2]
  have hc : first ≥ 0xc2 ∧ first ≤ 0xdf ↔ 0xc2 ≤ first.toNat ∧ first.toNat ≤ 0xdf :=
    hrange 0xc2 0xdf (by decide) (by decide)
  have he : first ≥ 0xe0 ∧ first ≤ 0xef ↔ 0xe0 ≤ first.toNat ∧ first.toNat ≤ 0xef :=
    hrange 0xe0 0xef (by decide) (by decide)
  have hf : first ≥ 0xf0 ∧ first ≤ 0xf4 ↔ 0xf0 ≤ first.toNat ∧ first.toNat ≤ 0xf4 :=
    hrange 0xf0 0xf4 (by decide) (by decide)
  obtain ⟨n, high, minimum⟩ := lead
  unfold utf8Lead Leads
  simp only [hc, he, hf, h1, h2, h3, Prod.mk.injEq]
  split_ifs <;> simp only [Option.some.injEq, Prod.mk.injEq, false_iff] <;> omega

/-! ## Encodings -/

theorem scalar_le (c : Char) : c.val.toNat ≤ 0x10ffff := by
  have hvalid := c.valid
  simp only [UInt32.isValidChar, Nat.isValidChar] at hvalid
  omega

/-- The encoding of a scalar value is its lead byte and its digits. -/
theorem utf8EncodeChar_cases (c : Char) :
    c.val.toNat ≤ 0x7f ∧ String.utf8EncodeChar c = [UInt8.ofNat c.val.toNat] ∨
      ∃ n, Long c.val.toNat n ∧ String.utf8EncodeChar c =
        UInt8.ofNat (leadBase n + c.val.toNat / 64 ^ n) :: continuationBytes c.val.toNat n := by
  have hle := scalar_le c
  unfold String.utf8EncodeChar
  generalize c.val.toNat = v at hle
  dsimp only
  split_ifs with h1 h2 h3
  · exact Or.inl ⟨h1, rfl⟩
  · refine Or.inr ⟨1, Or.inl ⟨rfl, by omega, h2⟩, ?_⟩
    have hlead : v / 64 % 0x20 + 0xc0 = leadBase 1 + v / 64 ^ 1 := by
      simp only [leadBase]
      omega
    simp [hlead, continuationBytes]
  · refine Or.inr ⟨2, Or.inr (Or.inl ⟨rfl, by omega, h3⟩), ?_⟩
    have hlead : v / 4096 % 0x10 + 0xe0 = leadBase 2 + v / 64 ^ 2 := by
      simp only [leadBase]
      omega
    simp [hlead, continuationBytes]
  · refine Or.inr ⟨3, Or.inr (Or.inr ⟨rfl, by omega, hle⟩), ?_⟩
    have hlead : v / 262144 % 0x08 + 0xf0 = leadBase 3 + v / 64 ^ 3 := by
      simp only [leadBase]
      omega
    simp [hlead, continuationBytes]

/-- Every scalar value is that of a character. -/
theorem exists_char {v : Nat} (hle : v ≤ 0x10ffff) (hsurrogate : ¬ (0xd800 ≤ v ∧ v ≤ 0xdfff)) :
    ∃ c : Char, c.val.toNat = v := by
  have hvalid : v.isValidChar := by
    unfold Nat.isValidChar
    omega
  exact ⟨Char.ofNatAux v hvalid, rfl⟩

/-- The lead byte of a value. -/
theorem leads_of_long {v n : Nat} (h : Long v n) :
    ∃ minimum, minimum ≤ v ∧
      Leads (UInt8.ofNat (leadBase n + v / 64 ^ n)).toNat (n, v / 64 ^ n, minimum) := by
  have hbyte : ∀ m, m < 256 → (UInt8.ofNat m).toNat = m := by
    intro m hm
    rw [UInt8.toNat_ofNat', Nat.mod_eq_of_lt hm]
  rcases h with ⟨rfl, hlow, hup⟩ | ⟨rfl, hlow, hup⟩ | ⟨rfl, hlow, hup⟩
  · have hlead : leadBase 1 + v / 64 ^ 1 = 0xc0 + v / 64 := by rw [Nat.pow_one]; rfl
    rw [hlead, hbyte _ (by omega)]
    refine ⟨0x80, hlow, Or.inl ⟨by omega, by omega, ?_⟩⟩
    rw [Nat.add_sub_cancel_left, Nat.pow_one]
  · have hlead : leadBase 2 + v / 64 ^ 2 = 0xe0 + v / 4096 := rfl
    rw [hlead, hbyte _ (by omega)]
    refine ⟨0x800, hlow, Or.inr (Or.inl ⟨by omega, by omega, ?_⟩)⟩
    rw [Nat.add_sub_cancel_left]
    rfl
  · have hlead : leadBase 3 + v / 64 ^ 3 = 0xf0 + v / 262144 := rfl
    rw [hlead, hbyte _ (by omega)]
    refine ⟨0x10000, hlow, Or.inr (Or.inr ⟨by omega, by omega, ?_⟩)⟩
    rw [Nat.add_sub_cancel_left]
    rfl

/-- A value that is not below the minimum of its lead byte. -/
theorem long_of_leads {first v n high minimum : Nat} (h : Leads first (n, high, minimum))
    (hhigh : v / 64 ^ n = high) (hlow : minimum ≤ v) (hup : v ≤ 0x10ffff) :
    Long v n ∧ leadBase n + v / 64 ^ n = first := by
  unfold Leads at h
  simp only [Prod.mk.injEq] at h
  rcases h with ⟨h1, h2, hn, h3, h4⟩ | ⟨h1, h2, hn, h3, h4⟩ | ⟨h1, h2, hn, h3, h4⟩
  · subst hn
    rw [hhigh]
    rw [Nat.pow_one] at hhigh
    exact ⟨Or.inl ⟨rfl, by omega, by omega⟩, by show 0xc0 + high = first; omega⟩
  · subst hn
    rw [hhigh]
    have hdiv : v / 4096 = high := hhigh
    exact ⟨Or.inr (Or.inl ⟨rfl, by omega, by omega⟩), by show 0xe0 + high = first; omega⟩
  · subst hn
    rw [hhigh]
    exact ⟨Or.inr (Or.inr ⟨rfl, by omega, hup⟩), by show 0xf0 + high = first; omega⟩

theorem long_unique {v n n' : Nat} (h : Long v n) (h' : Long v n') : n = n' := by
  unfold Long at h h'
  omega

/-! ## The loop -/

variable {value rest : Bytes} {turns index : Nat}

theorem loop_end (h : value.length ≤ index) : validUtf8Loop value turns index = some true := by
  cases turns with
  | zero => rfl
  | succ turns =>
    rw [validUtf8Loop, if_pos (by omega)]
    rfl

theorem loop_ascii {b : UInt8} (hfirst : value[index]? = some b) (hb : b ≤ 0x7f) :
    validUtf8Loop value (turns + 1) index = validUtf8Loop value turns (index + 1) := by
  have hlt := (List.getElem?_eq_some_iff.mp hfirst).1
  rw [validUtf8Loop, if_neg (not_not_intro hlt), hfirst]
  exact if_pos hb

/-- A turn at another byte. The subtractions are defined because there is a byte. -/
theorem loop_other {b : UInt8} (hfirst : value[index]? = some b) (hb : ¬ b ≤ 0x7f) :
    validUtf8Loop value (turns + 1) index =
      match utf8Lead b with
      | none => some false
      | some (n, high, minimum) =>
        if n > value.length - index - 1 then some false
        else
          (utf8Continuations value index n 0 high).bind fun
            | none => some false
            | some v =>
              if v < minimum ∨ v > 0x10ffff ∨ (v ≥ 0xd800 ∧ v ≤ 0xdfff) then some false
              else validUtf8Loop value turns (index + n + 1) := by
  have hlt := (List.getElem?_eq_some_iff.mp hfirst).1
  have hafter : checkedSub value.length index = some (value.length - index) := if_pos hlt.le
  have hroom : checkedSub (value.length - index) 1 = some (value.length - index - 1) :=
    if_pos (by omega)
  rw [validUtf8Loop, if_neg (not_not_intro hlt), hfirst]
  simp only [Option.bind_eq_bind, Option.bind_some, if_neg hb]
  cases utf8Lead b with
  | none => rfl
  | some lead =>
    obtain ⟨n, high, minimum⟩ := lead
    simp only [hafter, hroom, Option.bind_some]
    rfl

/-- A turn in front of the encoding of a scalar value steps over it. -/
theorem loop_accepts {c : Char} (h : value.drop index = String.utf8EncodeChar c ++ rest) :
    validUtf8Loop value (turns + 1) index =
      validUtf8Loop value turns (index + (String.utf8EncodeChar c).length) := by
  have hvalid := c.valid
  simp only [UInt32.isValidChar, Nat.isValidChar] at hvalid
  have hle := scalar_le c
  rcases utf8EncodeChar_cases c with ⟨hascii, hencode⟩ | ⟨n, hlong, hencode⟩
  · rw [hencode] at h ⊢
    obtain ⟨hfirst, _⟩ := getElem?_of_drop h
    refine loop_ascii hfirst ?_
    rw [UInt8.le_iff_toNat_le, UInt8.toNat_ofNat', Nat.mod_eq_of_lt (by omega)]
    exact hascii
  · obtain ⟨minimum, hminimum, hleads⟩ := leads_of_long hlong
    rw [hencode] at h ⊢
    obtain ⟨hfirst, hrest⟩ := getElem?_of_drop h
    have hb : ¬ UInt8.ofNat (leadBase n + c.val.toNat / 64 ^ n) ≤ 0x7f := by
      rw [UInt8.le_iff_toNat_le]
      unfold Leads at hleads
      have hseven : (0x7f : UInt8).toNat = 0x7f := rfl
      omega
    have hroom : ¬ n > value.length - index - 1 := by
      have hlength := congrArg List.length h
      rw [List.length_drop, List.length_append, List.length_cons,
        length_continuationBytes] at hlength
      omega
    have hpass : ¬ (c.val.toNat < minimum ∨ c.val.toNat > 0x10ffff ∨
        (c.val.toNat ≥ 0xd800 ∧ c.val.toNat ≤ 0xdfff)) := by
      omega
    have hvalue : utf8Continuations value index n 0 (c.val.toNat / 64 ^ n) =
        some (some c.val.toNat) :=
      utf8Continuations_bytes hrest
    rw [loop_other hfirst hb, (utf8Lead_iff _ _).mpr hleads]
    simp only [if_neg hroom, hvalue, Option.bind_some, if_neg hpass]
    rw [List.length_cons, length_continuationBytes]
    rfl

/-- A turn in front of anything else refuses the text. -/
theorem loop_refuses (hindex : index < value.length)
    (h : ∀ c rest, value.drop index ≠ String.utf8EncodeChar c ++ rest) :
    validUtf8Loop value (turns + 1) index = some false := by
  have hfirst : value[index]? = some value[index] := List.getElem?_eq_getElem hindex
  have hdrop : value.drop index = value[index] :: value.drop (index + 1) :=
    List.drop_eq_getElem_cons hindex
  generalize value[index] = b at hfirst hdrop
  by_cases hb : b ≤ 0x7f
  · exfalso
    have hle : b.toNat ≤ 0x7f := UInt8.le_iff_toNat_le.mp hb
    obtain ⟨c, hc⟩ := exists_char (v := b.toNat) (by omega) (by omega)
    refine h c (value.drop (index + 1)) ?_
    rcases utf8EncodeChar_cases c with ⟨_, hencode⟩ | ⟨n, hlong, _⟩
    · rw [hencode, hc, hdrop, UInt8.ofNat_toNat]
      rfl
    · unfold Long at hlong
      omega
  · rw [loop_other hfirst hb]
    cases hlead : utf8Lead b with
    | none => rfl
    | some lead =>
      obtain ⟨n, high, minimum⟩ := lead
      simp only
      split
      · rfl
      · rename_i hroom
        cases hresult : utf8Continuations value index n 0 high with
        | none => exact absurd hresult (utf8Continuations_ne_none (by omega))
        | some result =>
          cases result with
          | none => rfl
          | some v =>
            simp only [Option.bind_some]
            split
            · rfl
            · -- a value that passes is that of a character, and these are its digits
              rename_i hpass
              exfalso
              obtain ⟨hhigh, rest, hrest⟩ := bytes_of_utf8Continuations hresult
              obtain ⟨hlong, hbyte⟩ := long_of_leads ((utf8Lead_iff _ _).mp hlead) hhigh (by omega)
                (by omega)
              obtain ⟨c, hc⟩ := exists_char (v := v) (by omega) (by omega)
              refine h c rest ?_
              rcases utf8EncodeChar_cases c with ⟨hascii, _⟩ | ⟨n', hlong', hencode⟩
              · unfold Long at hlong
                omega
              · rw [hc] at hlong' hencode
                obtain rfl := long_unique hlong' hlong
                rw [hencode, hbyte, hdrop, UInt8.ofNat_toNat]
                exact congrArg (b :: ·) hrest

/-! ## The whole text -/

/-- The encodings of scalar values one after another. -/
def encodeText (cs : List Char) : Bytes := cs.flatMap String.utf8EncodeChar

/-- An encoding can be read off from the front. -/
theorem utf8EncodeChar_append_inj {c d : Char} {rest' : Bytes}
    (h : String.utf8EncodeChar c ++ rest = String.utf8EncodeChar d ++ rest') :
    c = d ∧ rest = rest' := by
  have hdecode : ∀ (c : Char) (rest : Bytes),
      ByteArray.utf8DecodeChar? (String.utf8EncodeChar c ++ rest).toByteArray 0 = some c := by
    intro c rest
    rw [List.toByteArray_append]
    exact ByteArray.utf8DecodeChar?_utf8EncodeChar_append
  have hcd : c = d := by
    have hc := hdecode c rest
    rw [h, hdecode d rest'] at hc
    exact (Option.some.inj hc).symm
  subst hcd
  exact ⟨rfl, List.append_cancel_left h⟩

theorem encodeText_injective {cs ds : List Char} (h : encodeText cs = encodeText ds) : cs = ds := by
  induction cs generalizing ds with
  | nil =>
    cases ds with
    | nil => rfl
    | cons d ds =>
      have hnil := (List.append_eq_nil_iff.mp h.symm).1
      exact absurd hnil String.utf8EncodeChar_ne_nil
  | cons c cs ih =>
    cases ds with
    | nil =>
      have hnil := (List.append_eq_nil_iff.mp h).1
      exact absurd hnil String.utf8EncodeChar_ne_nil
    | cons d ds =>
      obtain ⟨rfl, htail⟩ := utf8EncodeChar_append_inj h
      rw [ih htail]

/-- The loop, with enough turns for the rest of the text. -/
theorem loop_eq (h : value.length ≤ index + turns) :
    (validUtf8Loop value turns index = some true ∧ ∃ cs, value.drop index = encodeText cs) ∨
      (validUtf8Loop value turns index = some false ∧ ∀ cs, value.drop index ≠ encodeText cs) := by
  induction turns generalizing index with
  | zero => exact Or.inl ⟨rfl, [], List.drop_eq_nil_of_le h⟩
  | succ turns ih =>
    by_cases hindex : index < value.length
    · by_cases hencoded : ∃ c rest, value.drop index = String.utf8EncodeChar c ++ rest
      · obtain ⟨c, rest, hdrop⟩ := hencoded
        have hsize : 0 < (String.utf8EncodeChar c).length :=
          List.length_pos_iff.mpr String.utf8EncodeChar_ne_nil
        have hrest : value.drop (index + (String.utf8EncodeChar c).length) = rest := by
          rw [← List.drop_drop, hdrop, List.drop_left]
        rw [loop_accepts hdrop, hdrop]
        rcases @ih (index + (String.utf8EncodeChar c).length) (by omega) with
          ⟨htrue, cs, hcs⟩ | ⟨hfalse, hcs⟩
        · exact Or.inl ⟨htrue, c :: cs, by rw [← hrest, hcs]; rfl⟩
        · refine Or.inr ⟨hfalse, fun ds hds => ?_⟩
          cases ds with
          | nil => exact absurd (List.append_eq_nil_iff.mp hds).1 String.utf8EncodeChar_ne_nil
          | cons d ds =>
            obtain ⟨_, htail⟩ := utf8EncodeChar_append_inj hds
            exact hcs ds (hrest.trans htail)
      · refine Or.inr ⟨loop_refuses hindex fun c rest hdrop => hencoded ⟨c, rest, hdrop⟩, ?_⟩
        intro cs hcs
        cases cs with
        | nil =>
          have hnil := List.drop_eq_nil_iff.mp hcs
          omega
        | cons c cs => exact hencoded ⟨c, _, hcs⟩
    · exact Or.inl ⟨loop_end (by omega), [], List.drop_eq_nil_of_le (by omega)⟩

/-- `valid_utf8` accepts exactly the encodings of sequences of Unicode scalar values, and such a
sequence is the only one with its encoding. The loop reads no byte outside of the text and
subtracts nothing below zero, and it needs no more turns than the text has bytes. -/
theorem validUtf8_iff (value : Bytes) :
    (validUtf8 value = true ↔ ∃ cs, value = encodeText cs) ∧
      (∀ cs ds, value = encodeText cs → value = encodeText ds → cs = ds) ∧
        ∀ turns, value.length ≤ turns → validUtf8Loop value turns 0 = some (validUtf8 value) := by
  have hloop : ∀ turns, value.length ≤ turns →
      (validUtf8Loop value turns 0 = some true ∧ ∃ cs, value = encodeText cs) ∨
        (validUtf8Loop value turns 0 = some false ∧ ∀ cs, value ≠ encodeText cs) := by
    intro turns hturns
    have hspec := @loop_eq value turns 0 (by omega)
    rwa [List.drop_zero] at hspec
  have hvalid : validUtf8 value = true ↔ ∃ cs, value = encodeText cs := by
    unfold validUtf8
    rw [decide_eq_true_iff]
    rcases hloop value.length (Nat.le_refl _) with ⟨htrue, hcs⟩ | ⟨hfalse, hcs⟩
    · exact ⟨fun _ => hcs, fun _ => htrue⟩
    · rw [hfalse]
      exact ⟨by rintro ⟨⟩, fun ⟨cs, heq⟩ => absurd heq (hcs cs)⟩
  refine ⟨hvalid, ?_, ?_⟩
  · intro cs ds hcs hds
    exact encodeText_injective (hcs.symm.trans hds)
  · intro turns hturns
    rcases hloop turns hturns with ⟨htrue, hcs⟩ | ⟨hfalse, hcs⟩
    · rw [htrue, hvalid.mpr hcs]
    · have hnot : validUtf8 value = false := by
        rw [Bool.eq_false_iff]
        intro h
        obtain ⟨cs, heq⟩ := hvalid.mp h
        exact hcs cs heq
      rw [hfalse, hnot]

end PhotospiderDaemon.Ipc
