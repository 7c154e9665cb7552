import PhotospiderDaemon.Ipc.Codec

/-!
# Loops behind their fences

The observation seam sees the counts that pass `require_count_fits`. Here every loop of the decoders
is shown to run with such a count: `Counted` is the way in which a decoder is put together, and a
loop is admitted only with a count that a fence in front of it has let through.

* `Counted`: every loop has a count that has passed a fence.
* `counted_requestFields`, `counted_responseFields`: both messages.
-/

namespace PhotospiderDaemon.Ipc

open Foundation Decoder

variable [Kernel]

/-- The decoder is made of primitives, fences and loops, and every loop has a count that has passed
a fence, of the decoder itself or in front of it. -/
inductive Counted : List Nat → {α : Type} → Decoder α → Prop where
  | pure {passed : List Nat} {α : Type} (a : α) : Counted passed (pure a)
  | throw {passed : List Nat} {α : Type} (thrown : Thrown) :
    Counted passed (throw thrown : Decoder α)
  | throwIf {passed : List Nat} (condition : Bool) (thrown : Thrown) :
    Counted passed (Reader.throwIf condition thrown)
  | byte {passed : List Nat} (thrown : Thrown) : Counted passed (Reader.byte thrown)
  | little {passed : List Nat} (thrown : Thrown) (width : Nat) :
    Counted passed (Reader.little thrown width)
  | take {passed : List Nat} (thrown : Thrown) (size : Nat) :
    Counted passed (Reader.take thrown size)
  | bind {passed : List Nat} {α β : Type} {r : Decoder α} {f : α → Decoder β}
    (hr : Counted passed r) (hf : ∀ a, Counted passed (f a)) : Counted passed (r >>= f)
  | fence {passed : List Nat} {α : Type} {kind : DecoderCountKind} {count : UInt64}
    {rest : Unit → Decoder α} (hrest : Counted (count.toNat :: passed) (rest ())) :
    Counted passed (fenced kind count >>= rest)
  | many {passed : List Nat} {α : Type} {entry : Decoder α} {count : Nat}
    (hcount : count ∈ passed) (hentry : Counted [] entry) :
    Counted passed (Reader.many entry count)
  | iterate {passed : List Nat} {β : Type} {f : β → Decoder β} {count : Nat} {acc : β}
    (hcount : count ∈ passed) (hentry : ∀ b, Counted [] (f b)) :
    Counted passed (Reader.iterate f count acc)

variable {passed : List Nat}

/-! ## Decoders without loops -/

theorem counted_u8 : Counted passed u8 := .byte _

theorem counted_u16 : Counted passed u16 := .bind (.little _ _) fun _ => .pure _

theorem counted_u32 : Counted passed u32 := .bind (.little _ _) fun _ => .pure _

theorem counted_u64 : Counted passed u64 := .bind (.little _ _) fun _ => .pure _

theorem counted_i64 : Counted passed i64 := .bind counted_u64 fun _ => .pure _

theorem counted_f64 : Counted passed f64 := .bind counted_u64 fun _ => .pure _

theorem counted_boolean : Counted passed boolean :=
  .bind counted_u8 fun _ => .bind (.throwIf _ _) fun _ => .pure _

theorem counted_text (maximum : Nat) : Counted passed (text maximum) :=
  .bind counted_u32 fun _ => .bind (.throwIf _ _) fun _ => .bind (.take _ _) fun _ =>
    .bind (.throwIf _ _) fun _ => .pure _

theorem counted_bytes (maximum : Nat) : Counted passed (bytes maximum) :=
  .bind counted_u32 fun _ => .bind (.throwIf _ _) fun _ => .take _ _

theorem counted_decodeStatus : Counted passed decodeStatus :=
  .bind counted_u8 fun _ => .bind (.throwIf _ _) fun _ => .bind (counted_text _) fun _ =>
    .bind (.throwIf _ _) fun _ => .pure _

theorem counted_decodeParameter : Counted passed decodeParameter := by
  refine .bind counted_u8 fun tag => ?_
  split
  · exact .bind counted_i64 fun _ => .pure _
  split
  · exact .bind counted_f64 fun _ => .pure _
  split
  · exact .bind counted_boolean fun _ => .pure _
  split
  · exact .bind (counted_text _) fun _ => .pure _
  · exact .throw _

theorem counted_decodeInput : Counted passed decodeInput :=
  .bind counted_u64 fun _ => .bind (counted_text _) fun _ => .pure _

theorem counted_decodeParameterEntry (parameters : OrderedMap Bytes ParameterValue) :
    Counted passed (decodeParameterEntry parameters) :=
  .bind (counted_text _) fun _ => .bind counted_decodeParameter fun _ =>
    .bind (.throwIf _ _) fun _ => .pure _

theorem counted_decodeOutput : Counted passed decodeOutput :=
  .bind (counted_text _) fun _ => .bind counted_u64 fun _ => .bind (counted_text _) fun _ => .pure _

theorem counted_decodeDimension : Counted passed decodeDimension :=
  .bind counted_u64 fun _ => .bind counted_u64 fun _ => .pure _

theorem counted_decodeFacet : Counted passed decodeFacet :=
  .bind (counted_text _) fun _ => .bind counted_u32 fun _ => .bind (counted_bytes _)
    fun _ => .pure _

theorem counted_publishValue (descriptor : ValueDescriptor) (dimensions : List RegionDimension)
    (layout : StridedLayout) (payload : Bytes) (facets : List ValueFacet) :
    Counted passed (publishValue descriptor dimensions layout payload facets) := by
  unfold publishValue
  split
  · exact .throw _
  · split
    · exact .pure _
    · exact .throw _

theorem counted_decodeBackendEntry (backends : OrderedMap UInt64 Backend) :
    Counted passed (decodeBackendEntry backends) :=
  .bind counted_u64 fun _ => .bind counted_u8 fun _ => .bind (.throwIf _ _) fun _ => .pure _

theorem counted_decodeTiming : Counted passed decodeTiming :=
  .bind counted_u64 fun _ => .bind counted_u8 fun _ => .bind (.throwIf _ _) fun _ =>
    .bind counted_u64 fun _ => .bind counted_u8 fun _ => .bind (.throwIf _ _) fun _ => .pure _

theorem counted_decodeMethod (raw : UInt8) : Counted passed (decodeMethod raw) := by
  unfold decodeMethod
  split
  · exact .pure _
  · exact .throw _

theorem counted_decodeJobState (raw : UInt8) : Counted passed (decodeJobState raw) := by
  unfold decodeJobState
  split
  · exact .pure _
  · exact .throw _

theorem counted_decodeSessionId : Counted passed decodeSessionId :=
  .bind counted_u64 fun _ => .bind counted_u64 fun _ => .bind (.throwIf _ _) fun _ => .pure _

theorem counted_decodeJobId : Counted passed decodeJobId :=
  .bind counted_u64 fun _ => .bind counted_u64 fun _ => .bind (.throwIf _ _) fun _ => .pure _

theorem counted_decodeJobStatus : Counted passed decodeJobStatus :=
  .bind counted_u64 fun _ => .bind counted_u64 fun _ => .bind counted_u64 fun _ =>
    .bind counted_u64 fun _ => .bind counted_u8 fun _ => .bind (counted_decodeJobState _) fun _ =>
    .bind counted_decodeStatus fun _ => .bind (.throwIf _ _) fun _ => .pure _

theorem counted_decodeSubmit : Counted passed decodeSubmit :=
  .bind counted_u64 fun _ => .bind counted_u64 fun _ => .bind counted_boolean fun _ =>
    .bind counted_u32 fun _ => .bind (.throwIf _ _) fun _ => .pure _

/-! ## Decoders with loops -/

theorem counted_decodeNode : Counted passed (decodeNode fenced) := by
  refine .bind counted_u64 fun _ => .bind (counted_text _) fun _ => .bind counted_u32 fun _ =>
    .bind (.throwIf _ _) fun _ => .fence ?_
  refine .bind (.many (by simp) counted_decodeInput) fun _ => ?_
  refine .bind counted_u32 fun _ => .bind (.throwIf _ _) fun _ => .fence ?_
  exact .bind (.iterate (by simp) counted_decodeParameterEntry) fun _ => .pure _

theorem counted_decodeDocument : Counted passed (decodeDocument fenced) := by
  refine .bind counted_u32 fun _ => .bind counted_u32 fun _ => .bind (.throwIf _ _) fun _ =>
    .fence ?_
  refine .bind (.many (by simp) counted_decodeNode) fun _ => ?_
  refine .bind counted_u32 fun _ => .bind (.throwIf _ _) fun _ => .fence ?_
  exact .bind (.many (by simp) counted_decodeOutput) fun _ => .pure _

/-- One fence stands in front of the three loops over the axes. -/
theorem counted_decodeValue : Counted passed (decodeValue fenced) := by
  refine .bind counted_u32 fun _ => .bind (.throwIf _ _) fun _ => .bind counted_u8 fun _ =>
    .bind (.throwIf _ _) fun _ => .fence ?_
  refine .bind (.many (by simp) counted_u64) fun _ => ?_
  refine .bind (.many (by simp) counted_decodeDimension) fun _ => .bind counted_u64 fun _ => ?_
  refine .bind (.many (by simp) counted_i64) fun _ => ?_
  refine .bind counted_u8 fun _ => .bind (.throwIf _ _) fun _ => .fence ?_
  exact .bind (.many (by simp) counted_decodeFacet) fun _ => .bind (counted_bytes _) fun _ =>
    counted_publishValue _ _ _ _ _

theorem counted_decodeDiagnostics : Counted passed (decodeDiagnostics fenced) := by
  refine .bind counted_u64 fun _ => .bind counted_u32 fun _ => .bind (.throwIf _ _) fun _ =>
    .fence ?_
  refine .bind (.iterate (by simp) counted_decodeBackendEntry) fun _ => .bind counted_u64 fun _ =>
    .bind counted_u64 fun _ => .bind counted_u64 fun _ => ?_
  refine .bind counted_u32 fun _ => .bind (.throwIf _ _) fun _ => .fence ?_
  refine .bind (.many (by simp) (counted_text _)) fun _ => ?_
  refine .bind counted_u32 fun _ => .bind (.throwIf _ _) fun _ => .fence ?_
  exact .bind (.many (by simp) counted_decodeTiming) fun _ => .bind (counted_text _) fun _ =>
    .bind (counted_text _) fun _ => .pure _

theorem counted_decodeNamedValue (values : OrderedMap Bytes Value) :
    Counted passed (decodeNamedValue fenced values) :=
  .bind (counted_text _) fun _ => .bind counted_decodeValue fun _ => .bind (.throwIf _ _) fun _ =>
    .pure _

theorem counted_decodeExecutionResult : Counted passed (decodeExecutionResult fenced) := by
  refine .bind counted_u32 fun _ => .bind (.throwIf _ _) fun _ => .fence ?_
  exact .bind (.iterate (by simp) counted_decodeNamedValue) fun _ =>
    .bind counted_decodeDiagnostics fun _ => .pure _

theorem counted_decodeDaemonInfo : Counted passed (decodeDaemonInfo fenced) := by
  refine .bind counted_u16 fun _ => .bind counted_u64 fun _ => .bind (counted_text _) fun _ =>
    .bind (counted_text _) fun _ => .bind counted_u8 fun _ => .bind (.throwIf _ _)
      fun _ => .fence ?_
  exact .bind (.many (by simp) (counted_text _)) fun _ => .bind counted_u64 fun _ =>
    .bind counted_u64 fun _ => .bind counted_u32 fun _ => .bind counted_u32 fun _ =>
    .bind (.throwIf _ _) fun _ => .pure _

/-! ## Messages -/

theorem counted_requestFields : Counted passed (requestFields fenced) := by
  refine .bind counted_u16 fun _ => .bind (.throwIf _ _) fun _ => .bind counted_u64 fun _ =>
    .bind (.throwIf _ _) fun _ => .bind counted_u8 fun _ =>
      .bind (counted_decodeMethod _) fun _ => ?_
  unfold decodeRequestBody
  split
  · exact .bind counted_decodeDocument fun _ => .pure _
  · exact .bind counted_decodeSessionId fun _ => .pure _
  · exact .bind counted_decodeSubmit fun _ => .pure _
  all_goals first
    | exact .bind counted_decodeJobId fun _ => .pure _
    | exact .pure _

theorem counted_responseFields (expectedMethod : Method) (expectedRequestId : UInt64) :
    Counted passed (responseFields fenced expectedMethod expectedRequestId) := by
  refine .bind counted_u16 fun _ => .bind (.throwIf _ _) fun _ => .bind counted_u64 fun _ =>
    .bind counted_u8 fun _ => .bind (counted_decodeMethod _) fun _ => .bind (.throwIf _ _) fun _ =>
    .bind counted_decodeStatus fun status => ?_
  by_cases hok : status.ok = true
  · simp only [hok, if_true]
    unfold decodeResponseBody
    split
    · exact .bind counted_decodeSessionId fun _ => .pure _
    · exact .bind counted_decodeJobId fun _ => .pure _
    · exact .bind counted_decodeJobStatus fun _ => .pure _
    · exact .bind counted_decodeExecutionResult fun _ => .pure _
    · exact .bind counted_decodeDaemonInfo fun _ => .pure _
    all_goals exact .pure _
  · simp only [hok]
    exact .pure _

end PhotospiderDaemon.Ipc
