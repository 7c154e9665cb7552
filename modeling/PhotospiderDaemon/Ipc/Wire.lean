import PhotospiderDaemon.Foundation.RoundTrip
import PhotospiderDaemon.Ipc.Utf8

/-!
# Wire scalars

The classes `Encoder` and `Decoder` of `src/lib/ipc/codec.cpp`, and the count contracts.
A `CodecFailure` and the `std::invalid_argument` that a `Region` may throw are the two
exceptions that unwind them.

The decoders are written over a `Fence`, the action taken between the semantic bound of a
count and the loop it controls. The daemon runs them with `fenced`, which is
`require_count_fits` followed by the observation seam of the test runtime; `unfenced` keeps
only the seam, so the two differ in the `require_count_fits` calls and nothing else. The
seam records the unread bytes next to the count, which the source's observer does not.
-/

namespace PhotospiderDaemon.Ipc

open Foundation

/-- What unwinds the codec. -/
inductive Thrown where
  | codecFailure (code : ErrorCode) (message : Bytes)
  | invalidArgument (what : Bytes)
deriving DecidableEq

/-! ## Count contracts -/

/-- `CountContract`. -/
structure CountContract where
  minimumEntryBytes : Nat
  requiredSuffixBytes : Nat
deriving DecidableEq

/-- `codec_test::DecoderCountKind`. -/
inductive DecoderCountKind where
  | workflowNodes
  | workflowInputs
  | workflowParameters
  | workflowOutputs
  | valueAxes
  | valueFacets
  | diagnosticBackends
  | diagnosticFallbackReasons
  | diagnosticOperationTimings
  | resultNamedValues
  | daemonMethods
deriving DecidableEq, Repr

/-- `count_contract`, with the eleven contract constants. -/
def countContract : DecoderCountKind → CountContract
  | .workflowNodes => ⟨20, 4⟩
  | .workflowInputs => ⟨12, 8⟩
  | .workflowParameters => ⟨6, 4⟩
  | .workflowOutputs => ⟨16, 0⟩
  | .valueAxes => ⟨32, 65⟩
  | .valueFacets => ⟨12, 56⟩
  | .diagnosticBackends => ⟨9, 40⟩
  | .diagnosticFallbackReasons => ⟨4, 12⟩
  | .diagnosticOperationTimings => ⟨18, 8⟩
  | .resultNamedValues => ⟨54, 52⟩
  | .daemonMethods => ⟨4, 24⟩

/-- `count_fits`. The operands are below `2 ^ 64`, and the subtraction is guarded. -/
def countFits (count : UInt64) (remainingBytes : Nat) (contract : CountContract) : Bool :=
  contract.minimumEntryBytes ≠ 0 &&
    contract.requiredSuffixBytes ≤ remainingBytes &&
    count.toNat ≤ (remainingBytes - contract.requiredSuffixBytes) / contract.minimumEntryBytes

/-- One count that passed its fences, with the bytes that were unread at that moment. -/
structure CountObservation where
  kind : DecoderCountKind
  count : UInt64
  remaining : Nat
deriving DecidableEq

variable [Kernel]

/-! ## The encoder -/

abbrev Encoder := Foundation.Writer Thrown Unit

namespace Encoder

def overflow : Thrown :=
  .codecFailure .resourceExhausted (ascii "wire payload exceeds maximum frame size")

def append (data : Bytes) : Encoder := Writer.append maximumFramePayloadBytes overflow data

def u8 (value : UInt8) : Encoder := append [value]

/-- The loop shared by the fixed-width integers. -/
def unsigned (width value : Nat) : Encoder :=
  Writer.little maximumFramePayloadBytes overflow width value

def u16 (value : UInt16) : Encoder := unsigned 2 value.toNat

def u32 (value : UInt32) : Encoder := unsigned 4 value.toNat

def u64 (value : UInt64) : Encoder := unsigned 8 value.toNat

def i64 (value : Int64) : Encoder := u64 value.toUInt64

def f64 (value : Binary64) : Encoder := u64 value.bits

def boolean (value : Bool) : Encoder := u8 (if value then 1 else 0)

def fail (code : ErrorCode) (message : String) : Encoder :=
  throw (Thrown.codecFailure code (ascii message))

def throwIf (condition : Bool) (code : ErrorCode) (message : String) : Encoder :=
  Writer.throwIf condition (.codecFailure code (ascii message))

def text (value : Bytes) (maximum : Nat) : Encoder := do
  throwIf (value.length > maximum || value.length > 2 ^ 32 - 1 || !validUtf8 value)
    .invalidArgument "wire text exceeds its bound or is invalid UTF-8"
  u32 (UInt32.ofNat value.length)
  append value

def bytes (value : Bytes) : Encoder := do
  throwIf (value.length > 2 ^ 32 - 1) .resourceExhausted "wire byte vector exceeds uint32"
  u32 (UInt32.ofNat value.length)
  append value

end Encoder

/-! ## The decoder -/

abbrev Decoder (α : Type) := Reader Thrown CountObservation α

namespace Decoder

def truncated : Thrown := .codecFailure .invalidArgument (ascii "wire payload is truncated")

def throwIf (condition : Bool) (message : String) : Decoder Unit :=
  Reader.throwIf condition (.codecFailure .invalidArgument (ascii message))

def fail {α : Type} (message : String) : Decoder α :=
  throw (Thrown.codecFailure .invalidArgument (ascii message))

def u8 : Decoder UInt8 := Reader.byte truncated

/-- The loop shared by the fixed-width integers. -/
def unsigned (width : Nat) : Decoder Nat := Reader.little truncated width

def u16 : Decoder UInt16 := return UInt16.ofNat (← unsigned 2)

def u32 : Decoder UInt32 := return UInt32.ofNat (← unsigned 4)

def u64 : Decoder UInt64 := return UInt64.ofNat (← unsigned 8)

def i64 : Decoder Int64 := return (← u64).toInt64

def f64 : Decoder Binary64 := return ⟨← u64⟩

def boolean : Decoder Bool := do
  let value ← u8
  throwIf (value > 1) "wire boolean is not zero or one"
  return value ≠ 0

def text (maximum : Nat) : Decoder Bytes := do
  let size ← u32
  throwIf (size.toNat > maximum) "wire text exceeds its method bound"
  let value ← Reader.take truncated size.toNat
  throwIf (!validUtf8 value) "wire text is invalid UTF-8"
  return value

def bytes (maximum : Nat) : Decoder Bytes := do
  let size ← u32
  throwIf (size.toNat > maximum) "wire byte vector exceeds its method bound"
  Reader.take truncated size.toNat

def requireCountFits (count : UInt64) (contract : CountContract) : Decoder Unit :=
  Reader.check (fun remaining => countFits count remaining contract)
    (.codecFailure .invalidArgument (ascii "wire collection count exceeds remaining bytes"))

def observeDecoderCount (kind : DecoderCountKind) (count : UInt64) : Decoder Unit :=
  Reader.observe (fun remaining => ⟨kind, count, remaining⟩)

def requireEnd : Decoder Unit := do
  let remaining ← Reader.remaining
  throwIf (remaining ≠ 0) "wire payload has trailing bytes"

end Decoder

/-- What happens between a count and the loop it controls. -/
abbrev Fence := DecoderCountKind → UInt64 → Decoder Unit

/-- The daemon's fence. -/
def fenced : Fence := fun kind count => do
  Decoder.requireCountFits count (countContract kind)
  Decoder.observeDecoderCount kind count

/-- The same decoders without `require_count_fits`. -/
def unfenced : Fence := fun kind count => Decoder.observeDecoderCount kind count

/-! ## Room for scalars -/

section Room

variable {n : Nat}

/-- The encoder succeeds when the frame has room for `n` more bytes. -/
abbrev WireWrites (n : Nat) (encoder : Encoder) : Prop := Writes maximumFramePayloadBytes n encoder

theorem writes_u8 (value : UInt8) : WireWrites 1 (Encoder.u8 value) := Writes.append _ [value]

theorem writes_u16 (value : UInt16) : WireWrites 2 (Encoder.u16 value) := Writes.little _ 2 _

theorem writes_u32 (value : UInt32) : WireWrites 4 (Encoder.u32 value) := Writes.little _ 4 _

theorem writes_u64 (value : UInt64) : WireWrites 8 (Encoder.u64 value) := Writes.little _ 8 _

theorem writes_i64 (value : Int64) : WireWrites 8 (Encoder.i64 value) := writes_u64 _

theorem writes_text (value : Bytes) (maximum : Nat) (hmaximum : value.length ≤ maximum)
    (hsize : value.length ≤ 2 ^ 32 - 1) (hutf8 : validUtf8 value = true) :
    WireWrites (4 + value.length) (Encoder.text value maximum) := by
  refine Writes.throwIf_bind ?_ ((writes_u32 _).bind (Writes.append _ value))
  simp only [hutf8, Bool.not_true, Bool.or_false, Bool.or_eq_false_iff, decide_eq_false_iff_not]
  omega

theorem writes_bytes (value : Bytes) (hsize : value.length ≤ 2 ^ 32 - 1) :
    WireWrites (4 + value.length) (Encoder.bytes value) :=
  Writes.throwIf_bind (decide_eq_false (by omega)) ((writes_u32 _).bind (Writes.append _ value))

end Room

/-! ## Scalars are read without fences -/

section Scalars

variable {P : CountObservation → Prop} {n : Nat}

namespace Decoder

theorem guarded_u8 : Guarded P 1 n u8 u8 := .plain (Consumes.byte _) (Keeps.byte _)

theorem guarded_unsigned (width : Nat) : Guarded P width n (unsigned width) (unsigned width) :=
  .plain (Consumes.little _ width) (Keeps.little _ width)

theorem guarded_u16 : Guarded P 2 n u16 u16 := (guarded_unsigned 2).bind fun _ => .pure _

theorem guarded_u32 : Guarded P 4 n u32 u32 := (guarded_unsigned 4).bind fun _ => .pure _

theorem guarded_u64 : Guarded P 8 n u64 u64 := (guarded_unsigned 8).bind fun _ => .pure _

theorem guarded_i64 : Guarded P 8 n i64 i64 := guarded_u64.bind fun _ => .pure _

theorem guarded_f64 : Guarded P 8 n f64 f64 := guarded_u64.bind fun _ => .pure _

theorem guarded_boolean : Guarded P 1 n boolean boolean :=
  .mono (guarded_u8.bind fun _ => .throwIf_bind fun _ => .pure _) (by decide)

theorem guarded_take (size : Nat) :
    Guarded P 0 n (Reader.take truncated size : Decoder Bytes) (Reader.take truncated size) :=
  .plain ((Consumes.take _ size).mono (Nat.zero_le _)) (Keeps.take _ size)

theorem guarded_text (maximum : Nat) : Guarded P 4 n (text maximum) (text maximum) :=
  .mono (guarded_u32.bind fun _ => .throwIf_bind fun _ => (guarded_take _).bind fun _ =>
    .throwIf_bind fun _ => .pure _) (by decide)

theorem guarded_bytes (maximum : Nat) : Guarded P 4 n (bytes maximum) (bytes maximum) :=
  .mono (guarded_u32.bind fun _ => .throwIf_bind fun _ => guarded_take _) (by decide)

theorem guarded_requireEnd : Guarded P 0 n requireEnd requireEnd :=
  .plain (Consumes.remaining.bind fun _ => Consumes.throwIf _ _)
    (Keeps.remaining.bind fun _ => Keeps.throwIf _ _)

end Decoder

end Scalars

/-! ## What a scalar was read from -/

section Origins

variable {s s' : ReaderState CountObservation}

namespace Decoder

theorem u8_eq_ok {value : UInt8} (h : u8 s = .ok value s') : s.unread = value :: s'.unread := by
  rw [u8, Reader.byte_run] at h
  split at h
  · cases h
  · rename_i heq
    cases h
    exact heq

theorem u16_eq_ok {value : UInt16} (h : u16 s = .ok value s') :
    s.unread = littleEndian 2 value.toNat ++ s'.unread := by
  obtain ⟨number, _, hnumber, hpure⟩ := Reader.bind_eq_ok h
  cases hpure
  obtain ⟨hlt, heq⟩ := Reader.little_eq_ok hnumber
  rwa [UInt16.toNat_ofNat_of_lt' hlt]

theorem u64_eq_ok {value : UInt64} (h : u64 s = .ok value s') :
    s.unread = littleEndian 8 value.toNat ++ s'.unread := by
  obtain ⟨number, _, hnumber, hpure⟩ := Reader.bind_eq_ok h
  cases hpure
  obtain ⟨hlt, heq⟩ := Reader.little_eq_ok hnumber
  rwa [UInt64.toNat_ofNat_of_lt' hlt]

end Decoder

end Origins

/-! ## Round trips of scalars -/

/-- The decoder reads back what the encoder wrote. -/
abbrev WireRoundTrip {α : Type} (encoder : Encoder) (decoder : Decoder α) (value : α) : Prop :=
  RoundTrip maximumFramePayloadBytes encoder decoder value

/-- The decoder returns the value exactly under a condition, and rejects otherwise. -/
abbrev WireDecides {α : Type} (encoder : Encoder) (decoder : Decoder α) (value : α) (good : Prop) :
    Prop :=
  Decides maximumFramePayloadBytes encoder decoder value good

theorem roundTrip_u8 (value : UInt8) : WireRoundTrip (Encoder.u8 value) Decoder.u8 value :=
  RoundTrip.append_byte _ _ value

theorem roundTrip_unsigned (width : Nat) {value : Nat} (h : value < 256 ^ width) :
    WireRoundTrip (Encoder.unsigned width value) (Decoder.unsigned width) value :=
  RoundTrip.little _ _ h

theorem roundTrip_u16 (value : UInt16) : WireRoundTrip (Encoder.u16 value) Decoder.u16 value := by
  have h := (roundTrip_unsigned 2 value.toNat_lt).map UInt16.ofNat
  rwa [UInt16.ofNat_toNat] at h

theorem roundTrip_u32 (value : UInt32) : WireRoundTrip (Encoder.u32 value) Decoder.u32 value := by
  have h := (roundTrip_unsigned 4 value.toNat_lt).map UInt32.ofNat
  rwa [UInt32.ofNat_toNat] at h

theorem roundTrip_u64 (value : UInt64) : WireRoundTrip (Encoder.u64 value) Decoder.u64 value := by
  have h := (roundTrip_unsigned 8 value.toNat_lt).map UInt64.ofNat
  rwa [UInt64.ofNat_toNat] at h

theorem roundTrip_i64 (value : Int64) : WireRoundTrip (Encoder.i64 value) Decoder.i64 value :=
  (roundTrip_u64 value.toUInt64).map UInt64.toInt64

theorem roundTrip_f64 (value : Binary64) : WireRoundTrip (Encoder.f64 value) Decoder.f64 value :=
  (roundTrip_u64 value.bits).map Binary64.mk

theorem roundTrip_boolean (value : Bool) :
    WireRoundTrip (Encoder.boolean value) Decoder.boolean value := by
  refine (roundTrip_u8 (if value then 1 else 0)).bind_right ?_
  cases value with
  | false => exact (Reads.throwIf (by decide) _).bind_nil (Reads.pure _)
  | true => exact (Reads.throwIf (by decide) _).bind_nil (Reads.pure _)

omit [Kernel] in
/-- A size that fits is not changed by the cast to the wire width. -/
theorem toNat_ofNat_size {size : Nat} (h : size ≤ 2 ^ 32 - 1) : (UInt32.ofNat size).toNat = size :=
  UInt32.toNat_ofNat_of_lt' (Nat.lt_of_le_of_lt h (by decide))

theorem roundTrip_text (value : Bytes) (maximum : Nat) :
    WireRoundTrip (Encoder.text value maximum) (Decoder.text maximum) value := by
  refine RoundTrip.guard_left fun hguard => ?_
  simp only [Bool.or_eq_false_iff, decide_eq_false_iff_not, Bool.not_eq_false'] at hguard
  obtain ⟨⟨hmaximum, hsize⟩, hutf8⟩ := hguard
  refine (roundTrip_u32 _).bind ?_
  rw [toNat_ofNat_size (Nat.le_of_not_lt hsize)]
  refine RoundTrip.guard_right (decide_eq_false hmaximum) ?_
  refine (RoundTrip.append_take _ _ value).bind_right ?_
  exact (Reads.throwIf (by simp [hutf8]) _).bind_nil (Reads.pure _)

/-- A 32-bit count, its semantic bound and its fence. -/
theorem decides_count {α : Type} {count : Nat} {bound : UInt32} {kind : DecoderCountKind}
    {message : String} {encoder : Encoder} {decoder : UInt32 → Decoder α} {value : α} {good : Prop}
    (hbound : count ≤ bound.toNat)
    (hrest : ∀ c : UInt32, c.toNat = count → WireDecides encoder (decoder c) value good) :
    WireDecides (do Encoder.u32 (UInt32.ofNat count); encoder)
      (do
        let c ← Decoder.u32
        Decoder.throwIf (c > bound) message
        unfenced kind c.toUInt64
        decoder c)
      value good := by
  have hcount : (UInt32.ofNat count).toNat = count :=
    toNat_ofNat_size (Nat.le_trans hbound (Nat.le_of_lt_succ bound.toNat_lt))
  refine Decides.bind_left (roundTrip_u32 _) (Decides.read_nil (Reads.throwIf ?_ _) ?_)
  · simp only [gt_iff_lt, decide_eq_false_iff_not, UInt32.lt_iff_toNat_lt, hcount]
    omega
  · exact Decides.read_nil (Reads.observe _) (hrest _ hcount)

/-- An 8-bit count, its semantic bound and its fence. -/
theorem decides_count8 {α : Type} {count : Nat} {bound : UInt8} {kind : DecoderCountKind}
    {message : String} {encoder : Encoder} {decoder : UInt8 → Decoder α} {value : α} {good : Prop}
    (hbound : count ≤ bound.toNat)
    (hrest : ∀ c : UInt8, c.toNat = count → WireDecides encoder (decoder c) value good) :
    WireDecides (do Encoder.u8 (UInt8.ofNat count); encoder)
      (do
        let c ← Decoder.u8
        Decoder.throwIf (c > bound) message
        unfenced kind c.toUInt64
        decoder c)
      value good := by
  have hcount : (UInt8.ofNat count).toNat = count :=
    UInt8.toNat_ofNat_of_lt' (Nat.lt_of_le_of_lt hbound bound.toNat_lt)
  refine Decides.bind_left (roundTrip_u8 _) (Decides.read_nil (Reads.throwIf ?_ _) ?_)
  · simp only [gt_iff_lt, decide_eq_false_iff_not, UInt8.lt_iff_toNat_lt, hcount]
    omega
  · exact Decides.read_nil (Reads.observe _) (hrest _ hcount)

theorem roundTrip_count {α : Type} {count : Nat} {bound : UInt32} {kind : DecoderCountKind}
    {message : String} {encoder : Encoder} {decoder : UInt32 → Decoder α} {value : α}
    (hbound : count ≤ bound.toNat)
    (hrest : ∀ c : UInt32, c.toNat = count → WireRoundTrip encoder (decoder c) value) :
    WireRoundTrip (do Encoder.u32 (UInt32.ofNat count); encoder)
      (do
        let c ← Decoder.u32
        Decoder.throwIf (c > bound) message
        unfenced kind c.toUInt64
        decoder c)
      value :=
  (decides_count hbound fun c hc => Decides.of_roundTrip (hrest c hc)).roundTrip trivial

end PhotospiderDaemon.Ipc
