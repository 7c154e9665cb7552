import PhotospiderDaemon.Ipc.Protocol

/-!
# The UTF-8 check of the codec

`valid_utf8` of `src/lib/ipc/codec.cpp`, with its index arithmetic. A read outside the
text and a subtraction below zero have no meaning in the source, so both are `none` here
and the loop runs in `Option`.
-/

namespace PhotospiderDaemon.Ipc

/-- Unsigned subtraction where the source relies on it not wrapping. -/
def checkedSub (a b : Nat) : Option Nat := if b ≤ a then some (a - b) else none

/-- The continuation bytes after a lead byte at `index`. `none` is a read outside the text,
`some none` a byte that is no continuation byte. -/
def utf8Continuations (value : Bytes) (index : Nat) : (remaining continuation scalar : Nat) →
    Option (Option Nat)
  | 0, _, scalar => some (some scalar)
  | remaining + 1, continuation, scalar => do
    let byte ← value[index + continuation + 1]?
    if byte &&& 0xc0 ≠ 0x80 then
      return none
    utf8Continuations value index remaining (continuation + 1)
      ((scalar <<< 6) ||| (byte &&& 0x3f).toNat)

/-- The lead byte of a longer sequence: continuation count, high bits and least scalar. -/
def utf8Lead (first : UInt8) : Option (Nat × Nat × Nat) :=
  if first ≥ 0xc2 ∧ first ≤ 0xdf then
    some (1, (first &&& 0x1f).toNat, 0x80)
  else if first ≥ 0xe0 ∧ first ≤ 0xef then
    some (2, (first &&& 0x0f).toNat, 0x800)
  else if first ≥ 0xf0 ∧ first ≤ 0xf4 then
    some (3, (first &&& 0x07).toNat, 0x10000)
  else none

/-- The loop of `valid_utf8`. Each turn advances the index, so `value.length` turns reach
the end. -/
def validUtf8Loop (value : Bytes) : (turns index : Nat) → Option Bool
  | 0, _ => some true
  | turns + 1, index => do
    if ¬ index < value.length then
      return true
    let first ← value[index]?
    if first ≤ 0x7f then
      validUtf8Loop value turns (index + 1)
    else
      match utf8Lead first with
      | none => return false
      | some (continuationCount, high, minimum) =>
        let after ← checkedSub value.length index
        let room ← checkedSub after 1
        if continuationCount > room then
          return false
        match ← utf8Continuations value index continuationCount 0 high with
        | none => return false
        | some scalar =>
          if scalar < minimum ∨ scalar > 0x10ffff ∨ (scalar ≥ 0xd800 ∧ scalar ≤ 0xdfff) then
            return false
          validUtf8Loop value turns (index + continuationCount + 1)

/-- `valid_utf8`. -/
def validUtf8 (value : Bytes) : Bool := validUtf8Loop value value.length 0 = some true

example : validUtf8 [0x68, 0xc3, 0xa9, 0xf0, 0x9f, 0x95, 0xb7] = true := by decide

example : validUtf8 [0xed, 0xa0, 0x80] = false := by decide

end PhotospiderDaemon.Ipc
