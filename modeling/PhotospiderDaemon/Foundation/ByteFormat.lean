import Mathlib.Data.Nat.Bitwise
import Mathlib.Data.List.Basic
import Mathlib.Data.List.Induction
import Mathlib.Tactic.Ring

/-!
# Bounded byte writers and observed byte readers

A writer appends to a byte list and may fail; a reader consumes a byte list, may fail,
and may record observations on the way. Both are stated for an arbitrary error type, and
a reader keeps its observations when it fails.

A byte format is understood through these predicates, each with rules for `pure`, `>>=`,
a guard, and a counted loop.

* `Emits limit w P`: a successful run of `w` appends bytes that satisfy `P` and stays
  within `limit`. `RoundTrip limit w r a` is the case `P bs = Reads r bs a`.
* `Reads r bs a`: `r` consumes exactly `bs`, whatever follows, and returns `a`.
* `Rejects r bs`: `r` fails on `bs`, whatever follows.
* `Consumes n r`: a successful run of `r` consumes at least `n` bytes.
* `Covers n r r'`: whatever `r'` accepts with at least `n` bytes left over, `r` accepts
  with the same result. This is how a redundant length check is discharged: the check
  looks at bytes that a later reader is known to consume.
* `Keeps P r`: if every earlier observation satisfies `P`, so does every later one, in
  success and in failure.

`Guarded P m n r r'` collects the last three for a reader with and without its checks.
-/

namespace PhotospiderDaemon.Foundation

/-! ## Writers -/

abbrev Writer (ε α : Type) := StateT (List UInt8) (Except ε) α

namespace Writer

variable {ε : Type}

/-- Append `data` after checking the complete bound. -/
def append (limit : Nat) (overflow : ε) (data : List UInt8) : Writer ε Unit := do
  let payload ← get
  if data.length > limit - payload.length then
    throw overflow
  set (payload ++ data)

/-- Append the `count` low bytes of `value`, least significant first. -/
def little (limit : Nat) (overflow : ε) (count value : Nat) : Writer ε Unit :=
  forM (List.range count) fun index =>
    append limit overflow [UInt8.ofNat (value >>> (index * 8))]

/-- Fail when the condition holds. -/
def throwIf (condition : Bool) (failure : ε) : Writer ε Unit :=
  if condition then throw failure else pure ()

end Writer

/-- The bytes that `Writer.little` appends. -/
def littleEndian (count value : Nat) : List UInt8 :=
  (List.range count).map fun index => UInt8.ofNat (value >>> (index * 8))

@[simp] theorem length_littleEndian (count value : Nat) :
    (littleEndian count value).length = count := by
  simp [littleEndian]

/-! ## Readers -/

/-- The unread bytes and the observations made so far, latest first. -/
structure ReaderState (ω : Type) where
  unread : List UInt8
  observed : List ω

abbrev Reader (ε ω α : Type) := EStateM ε (ReaderState ω) α

namespace Reader

variable {ε ω α β : Type}

/-- Take exactly `size` bytes. -/
def take (truncated : ε) (size : Nat) : Reader ε ω (List UInt8) := do
  let state ← get
  if size > state.unread.length then
    throw truncated
  set { state with unread := state.unread.drop size }
  return state.unread.take size

/-- Take one byte. -/
def byte (truncated : ε) : Reader ε ω UInt8 := do
  let state ← get
  match state.unread with
  | [] => throw truncated
  | b :: rest =>
    set { state with unread := rest }
    return b

/-- Assemble `count` bytes, least significant first. -/
def little (truncated : ε) (count : Nat) : Reader ε ω Nat :=
  (List.range count).foldlM
    (fun value index => do
      let b ← byte truncated
      return value ||| (b.toNat <<< (index * 8)))
    0

/-- The number of unread bytes. -/
def remaining : Reader ε ω Nat := do
  let state ← get
  return state.unread.length

/-- Fail unless the number of unread bytes passes the test. -/
def check (fits : Nat → Bool) (failure : ε) : Reader ε ω Unit := do
  let n ← remaining
  if !fits n then
    throw failure

/-- Record one observation of the number of unread bytes. -/
def observe (o : Nat → ω) : Reader ε ω Unit :=
  modify fun state => { state with observed := o state.unread.length :: state.observed }

/-- Fail when the condition holds. -/
def throwIf (condition : Bool) (failure : ε) : Reader ε ω Unit :=
  if condition then throw failure else pure ()

/-- Run a reader `count` times and collect the results in order. -/
def many (r : Reader ε ω α) : Nat → Reader ε ω (List α)
  | 0 => pure []
  | count + 1 => do
    let a ← r
    let rest ← many r count
    return a :: rest

/-- Thread an accumulator through `count` runs of a reader. -/
def iterate (f : β → Reader ε ω β) : Nat → β → Reader ε ω β
  | 0, acc => pure acc
  | count + 1, acc => do
    let acc ← f acc
    iterate f count acc

end Reader

/-! ## Running binds -/

section Running

variable {ε ω α β : Type}

theorem Reader.bind_ok {r : Reader ε ω α} {f : α → Reader ε ω β} {s s' : ReaderState ω} {a : α}
    (h : r s = .ok a s') : (r >>= f) s = f a s' := by
  show EStateM.bind r f s = f a s'
  simp [EStateM.bind, h]

theorem Reader.bind_error {r : Reader ε ω α} {f : α → Reader ε ω β} {s s' : ReaderState ω} {e : ε}
    (h : r s = .error e s') : (r >>= f) s = .error e s' := by
  show EStateM.bind r f s = .error e s'
  simp [EStateM.bind, h]

theorem Reader.bind_eq_ok {r : Reader ε ω α} {f : α → Reader ε ω β} {s s'' : ReaderState ω} {b : β}
    (h : (r >>= f) s = .ok b s'') : ∃ a s', r s = .ok a s' ∧ f a s' = .ok b s'' := by
  cases hr : r s with
  | ok a s' => exact ⟨a, s', rfl, by rwa [Reader.bind_ok hr] at h⟩
  | error e s' => rw [Reader.bind_error hr] at h; cases h

theorem Reader.pure_run (a : α) (s : ReaderState ω) : (pure a : Reader ε ω α) s = .ok a s := rfl

theorem Reader.throwIf_true (e : ε) (s : ReaderState ω) :
    (Reader.throwIf true e : Reader ε ω Unit) s = .error e s := rfl

theorem Reader.throwIf_false (e : ε) (s : ReaderState ω) :
    (Reader.throwIf false e : Reader ε ω Unit) s = .ok () s := rfl

theorem Reader.throwIf_eq_ok {c : Bool} {e : ε} {s s' : ReaderState ω} {u : Unit}
    (h : (Reader.throwIf c e : Reader ε ω Unit) s = .ok u s') : c = false ∧ s' = s := by
  cases c with
  | true => cases h
  | false => cases h; exact ⟨rfl, rfl⟩

/-- What follows a guard only runs when the guard passed. -/
theorem Reader.throwIf_bind_eq_ok {c : Bool} {e : ε} {f : Unit → Reader ε ω α}
    {s s' : ReaderState ω} {a : α} (h : (Reader.throwIf c e >>= f) s = .ok a s') :
    c = false ∧ f () s = .ok a s' := by
  cases c with
  | true => cases h
  | false => exact ⟨rfl, h⟩

theorem Reader.take_run (e : ε) (size : Nat) (s : ReaderState ω) :
    Reader.take e size s =
      if size > s.unread.length then .error e s
      else .ok (s.unread.take size) { s with unread := s.unread.drop size } := by
  show (if size > s.unread.length then _ else _ : Reader ε ω (List UInt8)) s = _
  split <;> rfl

theorem Reader.byte_run (e : ε) (s : ReaderState ω) :
    Reader.byte e s =
      match s.unread with
      | [] => .error e s
      | b :: rest => .ok b { s with unread := rest } := by
  obtain ⟨unread, observed⟩ := s
  cases unread <;> rfl

theorem Reader.check_run (fits : Nat → Bool) (e : ε) (s : ReaderState ω) :
    (Reader.check fits e : Reader ε ω Unit) s =
      if fits s.unread.length then .ok () s else .error e s := by
  show (if !fits s.unread.length then _ else _ : Reader ε ω Unit) s = _
  cases fits s.unread.length <;> rfl

theorem Writer.bind_eq_ok {w : Writer ε α} {f : α → Writer ε β} {p p'' : List UInt8} {b : β}
    (h : (w >>= f).run p = .ok (b, p'')) : ∃ a p', w.run p = .ok (a, p') ∧
      (f a).run p' = .ok (b, p'') := by
  rw [StateT.run_bind] at h
  cases hw : w.run p with
  | error e => rw [hw] at h; cases h
  | ok q => rw [hw] at h; exact ⟨q.1, q.2, rfl, h⟩

theorem Writer.append_run (limit : Nat) (overflow : ε) (data p : List UInt8) :
    (Writer.append limit overflow data).run p =
      if data.length > limit - p.length then .error overflow else .ok ((), p ++ data) := by
  show (if data.length > limit - p.length then throw overflow else set (p ++ data) :
    Writer ε Unit).run p = _
  split <;> rfl

theorem Writer.append_eq_ok {limit : Nat} {overflow : ε} {data p p' : List UInt8} {u : Unit}
    (h : (Writer.append limit overflow data).run p = .ok (u, p')) :
    data.length ≤ limit - p.length ∧ p' = p ++ data := by
  rw [Writer.append_run] at h
  split at h
  · cases h
  · rename_i hroom
    cases h
    exact ⟨Nat.le_of_not_lt hroom, rfl⟩

end Running

/-! ## Writers that have room -/

section Writing

variable {ε α : Type} {limit m n : Nat}

/-- From any payload that leaves room for `n` bytes, the writer succeeds and appends at most
`n` bytes. -/
def Writes (limit n : Nat) (w : Writer ε Unit) : Prop :=
  ∀ p, p.length + n ≤ limit → ∃ p', w.run p = .ok ((), p') ∧ p'.length ≤ p.length + n

namespace Writes

theorem pure : Writes limit 0 (pure () : Writer ε Unit) := fun p _ => ⟨p, rfl, by omega⟩

theorem mono {w : Writer ε Unit} (h : Writes limit m w) (hmn : m ≤ n) : Writes limit n w := by
  intro p hp
  obtain ⟨p', hrun, hlength⟩ := h p (by omega)
  exact ⟨p', hrun, by omega⟩

theorem bind {w w' : Writer ε Unit} (h : Writes limit m w) (h' : Writes limit n w') :
    Writes limit (m + n) (w >>= fun _ => w') := by
  intro p hp
  obtain ⟨p', hrun, hlength⟩ := h p (by omega)
  obtain ⟨p'', hrun', hlength'⟩ := h' p' (by omega)
  refine ⟨p'', ?_, by omega⟩
  rw [StateT.run_bind, hrun]
  exact hrun'

theorem throwIf_bind {c : Bool} {e : ε} {w : Writer ε Unit} (hc : c = false)
    (h : Writes limit n w) : Writes limit n (Writer.throwIf c e >>= fun _ => w) := by
  subst hc
  exact h

theorem append (overflow : ε) (data : List UInt8) :
    Writes limit data.length (Writer.append limit overflow data) := by
  intro p hp
  refine ⟨p ++ data, ?_, by simp⟩
  rw [Writer.append_run, if_neg (by omega)]

theorem forM {w : α → Writer ε Unit} {size : α → Nat} {xs : List α}
    (h : ∀ x ∈ xs, Writes limit (size x) (w x)) :
    Writes limit (xs.map size).sum (forM xs w) := by
  induction xs with
  | nil => exact Writes.pure
  | cons x xs ih =>
    rw [List.forM_cons, List.map_cons, List.sum_cons]
    exact (h x List.mem_cons_self).bind (ih fun y hy => h y (List.mem_cons_of_mem _ hy))

theorem little (overflow : ε) (count value : Nat) :
    Writes limit count (Writer.little limit overflow count value) := by
  have hsize : ((List.range count).map fun _ => 1).sum = count := by simp
  have h : Writes limit ((List.range count).map fun _ => 1).sum
      (Writer.little limit overflow count value) :=
    Writes.forM fun index _ => Writes.append overflow [UInt8.ofNat (value >>> (index * 8))]
  rwa [hsize] at h

end Writes

/-- With room for `n` bytes, the writer fails with `e`. -/
def FailsWith (limit n : Nat) (w : Writer ε α) (e : ε) : Prop :=
  ∀ p, p.length + n ≤ limit → w.run p = .error e

namespace FailsWith

theorem throwIf {c : Bool} {e : ε} {f : Unit → Writer ε α} (hc : c = true) :
    FailsWith limit 0 (Writer.throwIf c e >>= f) e := by
  subst hc
  exact fun p _ => rfl

theorem throwIf_bind {c : Bool} {e e' : ε} {w : Writer ε α} (hc : c = false)
    (h : FailsWith limit n w e) : FailsWith limit n (Writer.throwIf c e' >>= fun _ => w) e := by
  subst hc
  exact h

theorem bind {w : Writer ε Unit} {w' : Writer ε α} {e : ε} (hw : Writes limit m w)
    (h : FailsWith limit n w' e) : FailsWith limit (m + n) (w >>= fun _ => w') e := by
  intro p hp
  obtain ⟨p', hrun, hlength⟩ := hw p (by omega)
  rw [StateT.run_bind, hrun]
  exact h p' (by omega)

end FailsWith

/-- No run of the writer succeeds. -/
def Fails (w : Writer ε α) : Prop := ∀ p result, w.run p ≠ .ok result

namespace Fails

theorem bind_left {w : Writer ε α} {f : α → Writer ε β} (h : Fails w) : Fails (w >>= f) := by
  rintro p ⟨b, p''⟩ hrun
  obtain ⟨a, p', hw, -⟩ := Writer.bind_eq_ok hrun
  exact h p (a, p') hw

theorem bind_right {w : Writer ε α} {f : α → Writer ε β} (h : ∀ a, Fails (f a)) :
    Fails (w >>= f) := by
  rintro p ⟨b, p''⟩ hrun
  obtain ⟨a, p', -, hf⟩ := Writer.bind_eq_ok hrun
  exact h a p' (b, p'') hf

theorem append {overflow : ε} {data : List UInt8} (h : limit < data.length) :
    Fails (Writer.append limit overflow data) := by
  rintro p ⟨u, p'⟩ hrun
  obtain ⟨hroom, -⟩ := Writer.append_eq_ok hrun
  omega

theorem forM {w : α → Writer ε Unit} {xs : List α} {x : α} (hx : x ∈ xs) (h : Fails (w x)) :
    Fails (forM xs w) := by
  induction xs with
  | nil => cases hx
  | cons y ys ih =>
    rw [List.forM_cons]
    rcases List.mem_cons.mp hx with rfl | hx
    · exact h.bind_left
    · exact bind_right fun _ => ih hx

end Fails

end Writing

/-! ## Exact reading and rejection -/

section Reading

variable {ε ω α β : Type}

/-- The reader consumes exactly `bs`, whatever follows, and returns `a`. -/
def Reads (r : Reader ε ω α) (bs : List UInt8) (a : α) : Prop :=
  ∀ rest observed, ∃ observed', r ⟨bs ++ rest, observed⟩ = .ok a ⟨rest, observed'⟩

/-- The reader fails on `bs`, whatever follows. -/
def Rejects (r : Reader ε ω α) (bs : List UInt8) : Prop :=
  ∀ rest observed, ∃ e s, r ⟨bs ++ rest, observed⟩ = .error e s

namespace Reads

theorem pure (a : α) : Reads (pure a : Reader ε ω α) [] a := fun _ observed => ⟨observed, rfl⟩

theorem bind {r : Reader ε ω α} {f : α → Reader ε ω β} {bs cs : List UInt8} {a : α} {b : β}
    (hr : Reads r bs a) (hf : Reads (f a) cs b) : Reads (r >>= f) (bs ++ cs) b := by
  intro rest observed
  obtain ⟨observed₁, h₁⟩ := hr (cs ++ rest) observed
  obtain ⟨observed₂, h₂⟩ := hf rest observed₁
  refine ⟨observed₂, ?_⟩
  rw [List.append_assoc, Reader.bind_ok h₁, h₂]

/-- A step that consumes nothing. -/
theorem bind_nil {r : Reader ε ω α} {f : α → Reader ε ω β} {cs : List UInt8} {a : α} {b : β}
    (hr : Reads r [] a) (hf : Reads (f a) cs b) : Reads (r >>= f) cs b := hr.bind hf

theorem map {r : Reader ε ω α} {bs : List UInt8} {a : α} (hr : Reads r bs a) (g : α → β) :
    Reads (r >>= fun x => Pure.pure (g x)) bs (g a) := by
  have h : Reads (r >>= fun x => Pure.pure (g x)) (bs ++ []) (g a) := hr.bind (Reads.pure (g a))
  rwa [List.append_nil] at h

theorem throwIf {c : Bool} (hc : c = false) (e : ε) :
    Reads (Reader.throwIf c e : Reader ε ω Unit) [] () := by
  subst hc
  exact fun _ observed => ⟨observed, rfl⟩

theorem observe (o : Nat → ω) : Reads (Reader.observe o : Reader ε ω Unit) [] () :=
  fun _ _ => ⟨_, rfl⟩

theorem take (e : ε) (bs : List UInt8) : Reads (Reader.take e bs.length : Reader ε ω _) bs bs := by
  intro rest observed
  refine ⟨observed, ?_⟩
  rw [Reader.take_run, if_neg (by simp)]
  simp

theorem byte (e : ε) (b : UInt8) : Reads (Reader.byte e : Reader ε ω _) [b] b :=
  fun _ observed => ⟨observed, rfl⟩

end Reads

namespace Rejects

theorem bind_left {r : Reader ε ω α} {f : α → Reader ε ω β} {bs cs : List UInt8}
    (hr : Rejects r bs) : Rejects (r >>= f) (bs ++ cs) := by
  intro rest observed
  obtain ⟨e, s, h⟩ := hr (cs ++ rest) observed
  exact ⟨e, s, by rw [List.append_assoc, Reader.bind_error h]⟩

theorem bind_right {r : Reader ε ω α} {f : α → Reader ε ω β} {bs cs : List UInt8} {a : α}
    (hr : Reads r bs a) (hf : Rejects (f a) cs) : Rejects (r >>= f) (bs ++ cs) := by
  intro rest observed
  obtain ⟨observed₁, h₁⟩ := hr (cs ++ rest) observed
  obtain ⟨e, s, h₂⟩ := hf rest observed₁
  exact ⟨e, s, by rw [List.append_assoc, Reader.bind_ok h₁, h₂]⟩

theorem throwIf {c : Bool} (hc : c = true) (e : ε) :
    Rejects (Reader.throwIf c e : Reader ε ω Unit) [] := by
  subst hc
  exact fun _ _ => ⟨e, _, rfl⟩

end Rejects

end Reading

/-! ## Little-endian integers -/

theorem littleEndian_succ (count value : Nat) :
    littleEndian (count + 1) value =
      littleEndian count value ++ [UInt8.ofNat (value >>> (count * 8))] := by
  simp [littleEndian, List.range_succ]

/-- One more byte above an assembled prefix. -/
theorem or_shiftLeft_digit (count value : Nat) :
    (value % 256 ^ count ||| ((UInt8.ofNat (value >>> (count * 8))).toNat <<< (count * 8))) =
      value % 256 ^ (count + 1) := by
  have hpow : (256 : Nat) ^ count = 2 ^ (count * 8) := by
    rw [Nat.mul_comm, Nat.pow_mul]
  have hlt : value % 2 ^ (count * 8) < 2 ^ (count * 8) := Nat.mod_lt _ (Nat.two_pow_pos _)
  have hdigit : (UInt8.ofNat (value >>> (count * 8))).toNat = value / 2 ^ (count * 8) % 256 := by
    simp [UInt8.toNat_ofNat', Nat.shiftRight_eq_div_pow]
  rw [hdigit, Nat.pow_succ, hpow, Nat.or_comm, Nat.shiftLeft_eq, Nat.mul_comm _ (2 ^ _),
    ← Nat.two_pow_add_eq_or_of_lt hlt, Nat.mod_mul, Nat.add_comm]

theorem Reads.little {ε ω : Type} (e : ε) (count value : Nat) :
    Reads (Reader.little e count : Reader ε ω Nat) (littleEndian count value)
      (value % 256 ^ count) := by
  induction count with
  | zero =>
    simp only [Nat.pow_zero, Nat.mod_one]
    exact Reads.pure 0
  | succ count ih =>
    unfold Reader.little
    rw [List.range_succ, List.foldlM_append, littleEndian_succ, ← or_shiftLeft_digit]
    refine ih.bind ?_
    rw [List.foldlM_cons]
    have hb : Reads (Reader.byte e : Reader ε ω UInt8) _ _ :=
      Reads.byte e (UInt8.ofNat (value >>> (count * 8)))
    exact (hb.map (fun b => value % 256 ^ count ||| b.toNat <<< (count * 8))).map id

/-- The bytes of an assembled number, put together by their index. -/
theorem foldl_digits (count value : Nat) :
    (List.range count).foldl
      (fun low index => low ||| (UInt8.ofNat (value >>> (index * 8))).toNat <<< (index * 8)) 0 =
      value % 256 ^ count := by
  induction count with
  | zero => simp [Nat.mod_one]
  | succ count ih => rw [List.range_succ, List.foldl_append, ih, List.foldl_cons, List.foldl_nil,
      or_shiftLeft_digit]

theorem littleEndian_mod (count value : Nat) :
    littleEndian count (value % 256 ^ count) = littleEndian count value := by
  refine List.map_congr_left fun index hindex => ?_
  have hlt : index < count := List.mem_range.mp hindex
  obtain ⟨k, rfl⟩ : ∃ k, count = index + (k + 1) := ⟨count - index - 1, by omega⟩
  have hpow : (2 : Nat) ^ (index * 8) = 256 ^ index := by rw [Nat.mul_comm, Nat.pow_mul]
  rw [← UInt8.toNat_inj]
  simp only [UInt8.toNat_ofNat', Nat.shiftRight_eq_div_pow, hpow]
  rw [Nat.pow_add, Nat.mod_mul_right_div_self, Nat.pow_succ, Nat.mod_mul_left_mod]

/-- Every byte list is a little-endian number. -/
theorem exists_littleEndian (bs : List UInt8) :
    ∃ value, value < 256 ^ bs.length ∧ littleEndian bs.length value = bs := by
  induction bs using List.reverseRecOn with
  | nil => exact ⟨0, by simp, rfl⟩
  | append_singleton bs b ih =>
    obtain ⟨value, hlt, heq⟩ := ih
    have hpow : (2 : Nat) ^ (bs.length * 8) = 256 ^ bs.length := by rw [Nat.mul_comm, Nat.pow_mul]
    refine ⟨value + 256 ^ bs.length * b.toNat, ?_, ?_⟩
    · rw [List.length_append, List.length_singleton, Nat.pow_succ]
      calc value + 256 ^ bs.length * b.toNat
          < 256 ^ bs.length + 256 ^ bs.length * b.toNat := Nat.add_lt_add_right hlt _
        _ = 256 ^ bs.length * (b.toNat + 1) := by rw [Nat.mul_succ, Nat.add_comm]
        _ ≤ 256 ^ bs.length * 256 := Nat.mul_le_mul_left _ b.toNat_lt
    · rw [List.length_append, List.length_singleton, littleEndian_succ, ← littleEndian_mod,
        Nat.add_mul_mod_self_left, Nat.mod_eq_of_lt hlt, heq, Nat.shiftRight_eq_div_pow, hpow,
        Nat.add_mul_div_left _ _ (Nat.pow_pos (by decide)), Nat.div_eq_of_lt hlt, Nat.zero_add,
        UInt8.ofNat_toNat]

/-! ## Bytes consumed by a successful run -/

section Consuming

variable {ε ω α β : Type}

/-- A successful run consumes at least `n` bytes. -/
def Consumes (n : Nat) (r : Reader ε ω α) : Prop :=
  ∀ s a s', r s = .ok a s' → n + s'.unread.length ≤ s.unread.length

namespace Consumes

theorem pure (a : α) : Consumes 0 (pure a : Reader ε ω α) := by
  intro s b s' h
  cases h
  simp

theorem mono {m n : Nat} {r : Reader ε ω α} (h : Consumes n r) (hle : m ≤ n) : Consumes m r := by
  intro s a s' hs
  have := h s a s' hs
  omega

theorem bind {m n : Nat} {r : Reader ε ω α} {f : α → Reader ε ω β} (hr : Consumes m r)
    (hf : ∀ a, Consumes n (f a)) : Consumes (m + n) (r >>= f) := by
  intro s b s'' h
  obtain ⟨a, s', h₁, h₂⟩ := Reader.bind_eq_ok h
  have := hr s a s' h₁
  have := hf a s' b s'' h₂
  omega

theorem throwIf (c : Bool) (e : ε) : Consumes 0 (Reader.throwIf c e : Reader ε ω Unit) := by
  intro s u s' h
  obtain ⟨-, rfl⟩ := Reader.throwIf_eq_ok h
  simp

theorem throw (e : ε) (n : Nat) : Consumes n (throw e : Reader ε ω α) := by
  intro s a s' h
  cases h

theorem remaining : Consumes 0 (Reader.remaining : Reader ε ω Nat) := by
  intro s k s' h
  cases h
  simp

theorem observe (o : Nat → ω) : Consumes 0 (Reader.observe o : Reader ε ω Unit) := by
  intro s u s' h
  cases h
  simp

theorem take (e : ε) (size : Nat) : Consumes size (Reader.take e size : Reader ε ω _) := by
  intro s bs s' h
  rw [Reader.take_run] at h
  split at h
  · cases h
  · cases h
    simp only [List.length_drop]
    omega

theorem byte (e : ε) : Consumes 1 (Reader.byte e : Reader ε ω _) := by
  intro s b s' h
  rw [Reader.byte_run] at h
  split at h
  · cases h
  · rename_i hs
    cases h
    simp [hs, Nat.add_comm]

theorem foldlM {n : Nat} {f : β → α → Reader ε ω β} (hf : ∀ b a, Consumes n (f b a)) (xs : List α)
    (init : β) : Consumes (xs.length * n) (xs.foldlM f init) := by
  induction xs generalizing init with
  | nil =>
    simp only [List.length_nil, Nat.zero_mul]
    exact Consumes.pure init
  | cons x xs ih =>
    rw [List.foldlM_cons, List.length_cons, Nat.succ_mul, Nat.add_comm]
    exact (hf init x).bind ih

theorem little (e : ε) (count : Nat) : Consumes count (Reader.little e count : Reader ε ω Nat) := by
  have hbody : ∀ (value index : Nat), Consumes 1 (do
      let b ← (Reader.byte e : Reader ε ω UInt8)
      return value ||| (b.toNat <<< (index * 8))) :=
    fun _ _ => (Consumes.byte e).bind (fun _ => Consumes.pure _)
  exact (foldlM hbody (List.range count) 0).mono (by simp)

theorem many {n : Nat} {r : Reader ε ω α} (hr : Consumes n r) (count : Nat) :
    Consumes (count * n) (Reader.many r count) := by
  induction count with
  | zero =>
    rw [Nat.zero_mul]
    exact Consumes.pure []
  | succ count ih =>
    rw [Nat.succ_mul, Nat.add_comm]
    exact hr.bind (fun _ => ih.bind (fun _ => Consumes.pure _))

theorem iterate {n : Nat} {f : β → Reader ε ω β} (hf : ∀ b, Consumes n (f b)) (count : Nat)
    (acc : β) : Consumes (count * n) (Reader.iterate f count acc) := by
  induction count generalizing acc with
  | zero =>
    rw [Nat.zero_mul]
    exact Consumes.pure acc
  | succ count ih =>
    rw [Nat.succ_mul, Nat.add_comm]
    exact (hf acc).bind ih

end Consumes

end Consuming

/-- A number that was read stands in front of what is left, in its canonical form. -/
theorem Reader.little_eq_ok {ε ω : Type} {e : ε} {count value : Nat} {s s' : ReaderState ω}
    (h : Reader.little e count s = .ok value s') :
    value < 256 ^ count ∧ s.unread = littleEndian count value ++ s'.unread := by
  obtain ⟨unread, observed⟩ := s
  have hroom : count ≤ unread.length :=
    Nat.le_trans (Nat.le_add_right _ _) (Consumes.little e count _ _ _ h)
  have hlength : (unread.take count).length = count := by simpa using hroom
  obtain ⟨number, hlt, hnumber⟩ := exists_littleEndian (unread.take count)
  rw [hlength] at hlt hnumber
  obtain ⟨observed', hreads⟩ := Reads.little (ω := ω) e count number (unread.drop count) observed
  rw [hnumber, List.take_append_drop, h, Nat.mod_eq_of_lt hlt] at hreads
  cases hreads
  exact ⟨hlt, by rw [hnumber, List.take_append_drop]⟩

/-! ## Readers with and without redundant checks -/

section Covering

variable {ε ω α β : Type}

/-- Whatever `r` accepts, `r'` accepts with the same result. -/
def Weakens (r r' : Reader ε ω α) : Prop := ∀ s a s', r s = .ok a s' → r' s = .ok a s'

/-- Whatever `r'` accepts with at least `n` bytes left, `r` accepts with the same result. -/
def Covers (n : Nat) (r r' : Reader ε ω α) : Prop :=
  ∀ s a s', r' s = .ok a s' → n ≤ s'.unread.length → r s = .ok a s'

namespace Weakens

theorem refl (r : Reader ε ω α) : Weakens r r := fun _ _ _ h => h

theorem bind {r r' : Reader ε ω α} {f f' : α → Reader ε ω β} (hr : Weakens r r')
    (hf : ∀ a, Weakens (f a) (f' a)) : Weakens (r >>= f) (r' >>= f') := by
  intro s b s'' h
  obtain ⟨a, s', h₁, h₂⟩ := Reader.bind_eq_ok h
  rw [Reader.bind_ok (hr s a s' h₁)]
  exact hf a s' b s'' h₂

theorem check_bind {fits : Nat → Bool} {e : ε} {r r' : Reader ε ω α} (hr : Weakens r r') :
    Weakens (Reader.check fits e >>= fun _ => r) r' := by
  intro s a s'' h
  obtain ⟨_, s', h₁, h₂⟩ := Reader.bind_eq_ok h
  rw [Reader.check_run] at h₁
  split at h₁
  · cases h₁
    exact hr _ _ _ h₂
  · cases h₁

theorem many {r r' : Reader ε ω α} (hr : Weakens r r') (count : Nat) :
    Weakens (Reader.many r count) (Reader.many r' count) := by
  induction count with
  | zero => exact refl _
  | succ count ih => exact hr.bind (fun _ => ih.bind (fun _ => refl _))

theorem iterate {f f' : β → Reader ε ω β} (hf : ∀ b, Weakens (f b) (f' b)) (count : Nat) (acc : β) :
    Weakens (Reader.iterate f count acc) (Reader.iterate f' count acc) := by
  induction count generalizing acc with
  | zero => exact refl _
  | succ count ih => exact (hf acc).bind ih

end Weakens

namespace Covers

theorem refl (n : Nat) (r : Reader ε ω α) : Covers n r r := fun _ _ _ h _ => h

theorem bind {m n : Nat} {r r' : Reader ε ω α} {f f' : α → Reader ε ω β}
    (hr : Covers (m + n) r r') (hc : ∀ a, Consumes m (f' a)) (hf : ∀ a, Covers n (f a) (f' a)) :
    Covers n (r >>= f) (r' >>= f') := by
  intro s b s'' h hn
  obtain ⟨a, s', h₁, h₂⟩ := Reader.bind_eq_ok h
  have hm := hc a s' b s'' h₂
  rw [Reader.bind_ok (hr s a s' h₁ (by omega))]
  exact hf a s' b s'' h₂ hn

/-- A reader without checks in front of one with checks. -/
theorem bind_same {n : Nat} {r : Reader ε ω α} {f f' : α → Reader ε ω β}
    (hf : ∀ a, Covers n (f a) (f' a)) : Covers n (r >>= f) (r >>= f') := by
  intro s b s'' h hn
  obtain ⟨a, s', h₁, h₂⟩ := Reader.bind_eq_ok h
  rw [Reader.bind_ok h₁]
  exact hf a s' b s'' h₂ hn

/-- The check passes because the rest of the accepted input is long enough. -/
theorem check_bind {m n : Nat} {fits : Nat → Bool} {e : ε} {r r' : Reader ε ω α}
    (hr : Covers n r r') (hm : Consumes m r') (hfits : ∀ k, m + n ≤ k → fits k = true) :
    Covers n (Reader.check fits e >>= fun _ => r) r' := by
  intro s a s' h hn
  have hlen := hm s a s' h
  have hrun : (Reader.check fits e : Reader ε ω Unit) s = .ok () s := by
    rw [Reader.check_run, if_pos (hfits _ (by omega))]
  rw [Reader.bind_ok hrun]
  exact hr s a s' h hn

theorem many {n : Nat} {r r' : Reader ε ω α} (hc : Consumes 0 r') (hr : Covers n r r')
    (count : Nat) : Covers n (Reader.many r count) (Reader.many r' count) := by
  induction count with
  | zero => exact refl n _
  | succ count ih =>
    have hrest : Consumes 0 (Reader.many r' count) := (hc.many count).mono (by omega)
    refine bind (m := 0) (by rwa [Nat.zero_add]) (fun _ => ?_) (fun _ => ?_)
    · exact hrest.bind (fun _ => Consumes.pure _)
    · exact bind (m := 0) (by rwa [Nat.zero_add]) (fun _ => Consumes.pure _) (fun _ => refl n _)

theorem iterate {n : Nat} {f f' : β → Reader ε ω β} (hc : ∀ b, Consumes 0 (f' b))
    (hf : ∀ b, Covers n (f b) (f' b)) (count : Nat) (acc : β) :
    Covers n (Reader.iterate f count acc) (Reader.iterate f' count acc) := by
  induction count generalizing acc with
  | zero => exact refl n _
  | succ count ih =>
    refine bind (m := 0) ?_ (fun b => ?_) ih
    · rw [Nat.zero_add]
      exact hf acc
    · exact (Consumes.iterate hc count b).mono (by omega)

end Covers

end Covering

/-! ## Observations -/

section Observing

variable {ε ω α β : Type} {P : ω → Prop}

/-- If every earlier observation satisfies `P`, every later one does, also when the reader
fails. -/
def Keeps (P : ω → Prop) (r : Reader ε ω α) : Prop :=
  ∀ s, (∀ o ∈ s.observed, P o) →
    (∀ a s', r s = .ok a s' → ∀ o ∈ s'.observed, P o) ∧
    (∀ e s', r s = .error e s' → ∀ o ∈ s'.observed, P o)

namespace Keeps

theorem of_observed_eq {r : Reader ε ω α}
    (hok : ∀ s a s', r s = .ok a s' → s'.observed = s.observed)
    (herr : ∀ s e s', r s = .error e s' → s'.observed = s.observed) : Keeps P r := by
  intro s hs
  refine ⟨fun a s' h => ?_, fun e s' h => ?_⟩
  · rw [hok s a s' h]
    exact hs
  · rw [herr s e s' h]
    exact hs

theorem pure (a : α) : Keeps P (pure a : Reader ε ω α) :=
  of_observed_eq (fun _ _ _ h => by cases h; rfl) (fun _ _ _ h => by cases h)

theorem throw (e : ε) : Keeps P (throw e : Reader ε ω α) :=
  of_observed_eq (fun _ _ _ h => by cases h) (fun _ _ _ h => by cases h; rfl)

theorem bind {r : Reader ε ω α} {f : α → Reader ε ω β} (hr : Keeps P r) (hf : ∀ a, Keeps P (f a)) :
    Keeps P (r >>= f) := by
  intro s hs
  cases h : r s with
  | ok a s' =>
    rw [Reader.bind_ok h]
    exact hf a s' ((hr s hs).1 a s' h)
  | error e s' =>
    rw [Reader.bind_error h]
    refine ⟨fun b s'' h' => (by cases h'), fun e' s'' h' => ?_⟩
    cases h'
    exact (hr s hs).2 e s' h

theorem throwIf (c : Bool) (e : ε) : Keeps P (Reader.throwIf c e : Reader ε ω Unit) := by
  cases c with
  | true => exact throw e
  | false => exact pure ()

theorem remaining : Keeps P (Reader.remaining : Reader ε ω Nat) :=
  of_observed_eq (fun _ _ _ h => by cases h; rfl) (fun _ _ _ h => by cases h)

theorem take (e : ε) (size : Nat) : Keeps P (Reader.take e size : Reader ε ω _) := by
  refine of_observed_eq (fun s a s' h => ?_) (fun s a s' h => ?_)
  all_goals
    rw [Reader.take_run] at h
    split at h <;> cases h
    rfl

theorem byte (e : ε) : Keeps P (Reader.byte e : Reader ε ω _) := by
  refine of_observed_eq (fun s a s' h => ?_) (fun s a s' h => ?_)
  all_goals
    rw [Reader.byte_run] at h
    split at h <;> cases h
    rfl

theorem foldlM {f : β → α → Reader ε ω β} (hf : ∀ b a, Keeps P (f b a)) (xs : List α) (init : β) :
    Keeps P (xs.foldlM f init) := by
  induction xs generalizing init with
  | nil => exact pure init
  | cons x xs ih =>
    rw [List.foldlM_cons]
    exact (hf init x).bind ih

theorem little (e : ε) (count : Nat) : Keeps P (Reader.little e count : Reader ε ω Nat) :=
  foldlM (fun _ _ => (Keeps.byte e).bind (fun _ => Keeps.pure _)) _ _

theorem many {r : Reader ε ω α} (hr : Keeps P r) (count : Nat) : Keeps P (Reader.many r count) := by
  induction count with
  | zero => exact pure []
  | succ count ih => exact hr.bind (fun _ => ih.bind (fun _ => pure _))

theorem iterate {f : β → Reader ε ω β} (hf : ∀ b, Keeps P (f b)) (count : Nat) (acc : β) :
    Keeps P (Reader.iterate f count acc) := by
  induction count generalizing acc with
  | zero => exact pure acc
  | succ count ih => exact (hf acc).bind ih

/-- A check in front of an observation: only a checked number of unread bytes is recorded. -/
theorem check_observe {fits : Nat → Bool} {e : ε} {o : Nat → ω}
    (h : ∀ k, fits k = true → P (o k)) :
    Keeps P (Reader.check fits e >>= fun _ => Reader.observe o : Reader ε ω Unit) := by
  intro s hs
  by_cases hfits : fits s.unread.length = true
  · have hrun : (Reader.check fits e : Reader ε ω Unit) s = .ok () s := by
      rw [Reader.check_run, if_pos hfits]
    rw [Reader.bind_ok hrun]
    refine ⟨fun u s' h' => ?_, fun _ _ h' => by cases h'⟩
    cases h'
    intro x hx
    rcases List.mem_cons.mp hx with rfl | hx
    · exact h _ hfits
    · exact hs x hx
  · have hrun : (Reader.check fits e : Reader ε ω Unit) s = .error e s := by
      rw [Reader.check_run, if_neg hfits]
    rw [Reader.bind_error hrun]
    refine ⟨fun _ _ h' => (by cases h'), fun _ s' h' => ?_⟩
    cases h'
    exact hs

end Keeps

end Observing

/-! ## Guarded readers -/

section Guarding

variable {ε ω α β : Type} {P : ω → Prop} {m n : Nat}

/-- The reader `r` is `r'` with additional length checks that never decide anything. It
consumes at least `m` bytes, its checks rely on at least `n` bytes being consumed after it,
and every observation it makes satisfies `P`. -/
structure Guarded (P : ω → Prop) (m n : Nat) (r r' : Reader ε ω α) : Prop where
  weakens : Weakens r r'
  consumes : Consumes m r'
  covers : Covers n r r'
  keeps : Keeps P r

namespace Guarded

/-- A reader without checks. -/
theorem plain {r : Reader ε ω α} (hc : Consumes m r) (hk : Keeps P r) : Guarded P m n r r :=
  ⟨Weakens.refl r, hc, Covers.refl n r, hk⟩

theorem pure (a : α) : Guarded P 0 n (pure a : Reader ε ω α) (pure a) :=
  plain (Consumes.pure a) (Keeps.pure a)

theorem throw (e : ε) : Guarded P m n (throw e : Reader ε ω α) (throw e) :=
  plain (Consumes.throw e m) (Keeps.throw e)

theorem mono {m' : Nat} {r r' : Reader ε ω α} (h : Guarded P m n r r') (hm : m' ≤ m) :
    Guarded P m' n r r' :=
  ⟨h.weakens, h.consumes.mono hm, h.covers, h.keeps⟩

theorem bind {k : Nat} {r r' : Reader ε ω α} {f f' : α → Reader ε ω β}
    (hr : Guarded P m (k + n) r r') (hf : ∀ a, Guarded P k n (f a) (f' a)) :
    Guarded P (m + k) n (r >>= f) (r' >>= f') where
  weakens := hr.weakens.bind fun a => (hf a).weakens
  consumes := hr.consumes.bind fun a => (hf a).consumes
  covers := hr.covers.bind (fun a => (hf a).consumes) (fun a => (hf a).covers)
  keeps := hr.keeps.bind fun a => (hf a).keeps

theorem throwIf_bind {c : Bool} {e : ε} {f f' : Unit → Reader ε ω α}
    (hf : c = false → Guarded P m n (f ()) (f' ())) :
    Guarded P m n (Reader.throwIf c e >>= f) (Reader.throwIf c e >>= f') := by
  cases c with
  | true => exact throw e
  | false => exact hf rfl

/-- A check in front of an observation. It passes because what follows is long enough. -/
theorem check_bind {fits : Nat → Bool} {e : ε} {o : Nat → ω} {r r' : Unit → Reader ε ω α}
    (hr : Guarded P m n (r ()) (r' ())) (hfits : ∀ k, m + n ≤ k → fits k = true)
    (hP : ∀ k, fits k = true → P (o k)) :
    Guarded P m n ((Reader.check fits e >>= fun _ => Reader.observe o) >>= r)
      (Reader.observe o >>= r') where
  weakens := (Weakens.check_bind (Weakens.refl _)).bind fun _ => hr.weakens
  consumes := ((Consumes.observe o).bind fun _ => hr.consumes).mono (by omega)
  covers := by
    have hrest : Covers n (Reader.observe o >>= r) (Reader.observe o >>= r') :=
      Covers.bind_same fun _ => hr.covers
    have hlen : Consumes m (Reader.observe o >>= r') :=
      ((Consumes.observe o).bind fun _ => hr.consumes).mono (by omega)
    rw [bind_assoc]
    exact hrest.check_bind hlen hfits
  keeps := (Keeps.check_observe hP).bind fun _ => hr.keeps

theorem many {r r' : Reader ε ω α} (hr : Guarded P m n r r') (count : Nat) :
    Guarded P (count * m) n (Reader.many r count) (Reader.many r' count) where
  weakens := hr.weakens.many count
  consumes := hr.consumes.many count
  covers := Covers.many (hr.consumes.mono (by omega)) hr.covers count
  keeps := hr.keeps.many count

theorem iterate {f f' : β → Reader ε ω β} (hf : ∀ b, Guarded P m n (f b) (f' b)) (count : Nat)
    (acc : β) : Guarded P (count * m) n (Reader.iterate f count acc)
      (Reader.iterate f' count acc) where
  weakens := Weakens.iterate (fun b => (hf b).weakens) count acc
  consumes := Consumes.iterate (fun b => (hf b).consumes) count acc
  covers := Covers.iterate (fun b => (hf b).consumes.mono (by omega)) (fun b => (hf b).covers) count
    acc
  keeps := Keeps.iterate (fun b => (hf b).keeps) count acc

end Guarded

end Guarding

end PhotospiderDaemon.Foundation
