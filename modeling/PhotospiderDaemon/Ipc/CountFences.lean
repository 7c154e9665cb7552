import PhotospiderDaemon.Ipc.CountedLoops

/-!
# Count fences

Every count of the wire format passes `require_count_fits` before it controls an allocation
or a loop. Here each decoder is compared with itself without these calls. The comparison
goes through `Guarded`, which carries the least number of bytes a decoder consumes and the
number of bytes its own fences expect after it; both are read off the decoder from the end
to the beginning.

* `countFits_iff`, `countFitsWord_eq`: `count_fits` is an exact inequality, also in machine
  words.
* `guarded_decodeDocument`, `guarded_decodeExecutionResult`, `guarded_decodeDaemonInfo`: the
  eleven contracts.
* `countFences_redundant`: the fences decide nothing, and what they let through fits.
-/

namespace PhotospiderDaemon.Ipc

open Foundation Decoder

/-! ## The contract as an inequality -/

/-- The collection and its fixed suffix fit into the unread bytes, as exact integers. -/
def CountObservation.Fits (observation : CountObservation) : Prop :=
  observation.count.toNat * (countContract observation.kind).minimumEntryBytes +
    (countContract observation.kind).requiredSuffixBytes ≤ observation.remaining

theorem countFits_iff (kind : DecoderCountKind) (count : UInt64) (remaining : Nat) :
    countFits count remaining (countContract kind) = true ↔
      CountObservation.Fits ⟨kind, count, remaining⟩ := by
  have hentry : 0 < (countContract kind).minimumEntryBytes := by cases kind <;> decide
  simp only [countFits, CountObservation.Fits, Bool.and_eq_true, decide_eq_true_eq,
    Nat.le_div_iff_mul_le hentry]
  omega

/-- `count_fits` in 64-bit words, with the wrapping operations of the source. -/
def countFitsWord (count remainingBytes : UInt64) (contract : CountContract) : Bool :=
  UInt64.ofNat contract.minimumEntryBytes ≠ 0 &&
    UInt64.ofNat contract.requiredSuffixBytes ≤ remainingBytes &&
    count ≤ (remainingBytes - UInt64.ofNat contract.requiredSuffixBytes) /
      UInt64.ofNat contract.minimumEntryBytes

/-- The subtraction is only reached when it cannot wrap, and nothing is multiplied. -/
theorem countFitsWord_eq {contract : CountContract}
    (hentry : contract.minimumEntryBytes < UInt64.size)
    (hsuffix : contract.requiredSuffixBytes < UInt64.size) (count remaining : UInt64) :
    countFitsWord count remaining contract = countFits count remaining.toNat contract := by
  have he : (UInt64.ofNat contract.minimumEntryBytes).toNat = contract.minimumEntryBytes :=
    UInt64.toNat_ofNat_of_lt' hentry
  have hs : (UInt64.ofNat contract.requiredSuffixBytes).toNat = contract.requiredSuffixBytes :=
    UInt64.toNat_ofNat_of_lt' hsuffix
  by_cases hle : UInt64.ofNat contract.requiredSuffixBytes ≤ remaining
  · have hsub := UInt64.toNat_sub_of_le _ _ hle
    have hle' := UInt64.le_iff_toNat_le.mp hle
    rw [hs] at hle' hsub
    simp only [countFitsWord, countFits, UInt64.le_iff_toNat_le, UInt64.toNat_div, hsub, he, hs,
      hle', ne_eq, ← UInt64.toNat_inj, UInt64.toNat_zero]
  · have hle' : ¬ contract.requiredSuffixBytes ≤ remaining.toNat := by
      rwa [UInt64.le_iff_toNat_le, hs] at hle
    simp [countFitsWord, countFits, hle, hle']

variable [Kernel]

/-! ## Decoders without their own fences -/

section Plain

variable {P : CountObservation → Prop} {n : Nat}

theorem guarded_decodeStatus : Guarded P 5 n decodeStatus decodeStatus :=
  .mono (guarded_u8.bind fun _ => .throwIf_bind fun _ => (guarded_text _).bind fun _ =>
    .throwIf_bind fun _ => .pure _) (by decide)

/-- The shortest parameter is a tagged boolean. -/
theorem guarded_decodeParameter : Guarded P 2 n decodeParameter decodeParameter := by
  refine guarded_u8.bind (k := 1) fun tag => ?_
  split
  · exact .mono (guarded_i64.bind fun _ => .pure _) (by decide)
  split
  · exact .mono (guarded_f64.bind fun _ => .pure _) (by decide)
  split
  · exact .mono (guarded_boolean.bind fun _ => .pure _) (by decide)
  split
  · exact .mono ((guarded_text _).bind fun _ => .pure _) (by decide)
  · exact .throw _

theorem guarded_decodeInput : Guarded P 12 n decodeInput decodeInput :=
  .mono (guarded_u64.bind fun _ => (guarded_text _).bind fun _ => .pure _) (by decide)

theorem guarded_decodeParameterEntry (parameters : OrderedMap Bytes ParameterValue) :
    Guarded P 6 n (decodeParameterEntry parameters) (decodeParameterEntry parameters) :=
  .mono ((guarded_text _).bind fun _ => guarded_decodeParameter.bind fun _ =>
    .throwIf_bind fun _ => .pure _) (by decide)

theorem guarded_decodeOutput : Guarded P 16 n decodeOutput decodeOutput :=
  .mono ((guarded_text _).bind fun _ => guarded_u64.bind fun _ => (guarded_text _).bind fun _ =>
    .pure _) (by decide)

theorem guarded_decodeDimension : Guarded P 16 n decodeDimension decodeDimension :=
  .mono (guarded_u64.bind fun _ => guarded_u64.bind fun _ => .pure _) (by decide)

theorem guarded_decodeFacet : Guarded P 12 n decodeFacet decodeFacet :=
  .mono ((guarded_text _).bind fun _ => guarded_u32.bind fun _ => (guarded_bytes _).bind fun _ =>
    .pure _) (by decide)

theorem guarded_publishValue (descriptor : ValueDescriptor) (dimensions : List RegionDimension)
    (layout : StridedLayout) (payload : Bytes) (facets : List ValueFacet) :
    Guarded P 0 n (publishValue descriptor dimensions layout payload facets)
      (publishValue descriptor dimensions layout payload facets) := by
  unfold publishValue
  split
  · exact .throw _
  · split
    · exact .pure _
    · exact .throw _

theorem guarded_decodeBackendEntry (backends : OrderedMap UInt64 Backend) :
    Guarded P 9 n (decodeBackendEntry backends) (decodeBackendEntry backends) :=
  .mono (guarded_u64.bind fun _ => guarded_u8.bind fun _ => .throwIf_bind fun _ => .pure _)
    (by decide)

theorem guarded_decodeTiming : Guarded P 18 n decodeTiming decodeTiming :=
  .mono (guarded_u64.bind fun _ => guarded_u8.bind fun _ => .throwIf_bind fun _ =>
    guarded_u64.bind fun _ => guarded_u8.bind fun _ => .throwIf_bind fun _ => .pure _) (by decide)

theorem guarded_decodeMethod (raw : UInt8) :
    Guarded P 0 n (decodeMethod raw) (decodeMethod raw) := by
  unfold decodeMethod
  split
  · exact .pure _
  · exact .throw _

theorem guarded_decodeJobState (raw : UInt8) :
    Guarded P 0 n (decodeJobState raw) (decodeJobState raw) := by
  unfold decodeJobState
  split
  · exact .pure _
  · exact .throw _

theorem guarded_decodeSessionId : Guarded P 16 n decodeSessionId decodeSessionId :=
  .mono (guarded_u64.bind fun _ => guarded_u64.bind fun _ => .throwIf_bind fun _ => .pure _)
    (by decide)

theorem guarded_decodeJobId : Guarded P 16 n decodeJobId decodeJobId :=
  .mono (guarded_u64.bind fun _ => guarded_u64.bind fun _ => .throwIf_bind fun _ => .pure _)
    (by decide)

theorem guarded_decodeJobStatus : Guarded P 38 n decodeJobStatus decodeJobStatus :=
  .mono (guarded_u64.bind fun _ => guarded_u64.bind fun _ => guarded_u64.bind fun _ =>
    guarded_u64.bind fun _ => guarded_u8.bind fun _ => (guarded_decodeJobState _).bind fun _ =>
    guarded_decodeStatus.bind fun _ => .throwIf_bind fun _ => .pure _) (by decide)

theorem guarded_decodeSubmit : Guarded P 21 n decodeSubmit decodeSubmit :=
  .mono (guarded_u64.bind fun _ => guarded_u64.bind fun _ => guarded_boolean.bind fun _ =>
    guarded_u32.bind fun _ => .throwIf_bind fun _ => .pure _) (by decide)

end Plain

/-! ## Decoders with fences -/

/-- A fence passes when what it announces is consumed after it. -/
theorem guarded_fence {α : Type} {kind : DecoderCountKind} {count : UInt64} {m n : Nat}
    {rest rest' : Unit → Decoder α} (hrest : Guarded CountObservation.Fits m n (rest ()) (rest' ()))
    (hcount : CountObservation.Fits ⟨kind, count, m + n⟩) :
    Guarded CountObservation.Fits m n (fenced kind count >>= rest)
      (unfenced kind count >>= rest') := by
  refine hrest.check_bind (fun k hk => ?_) (fun k hk => ?_)
  · exact (countFits_iff kind count k).mpr (Nat.le_trans hcount hk)
  · exact (countFits_iff kind count k).mp hk

/-- A node, before the output count of its document. -/
theorem guarded_decodeNode :
    Guarded CountObservation.Fits 20 4 (decodeNode fenced) (decodeNode unfenced) := by
  refine .mono (m := 8 + (4 + (4 + 4))) ?_ (by decide)
  refine guarded_u64.bind fun _ => (guarded_text _).bind fun _ =>
    guarded_u32.bind fun inputCount => ?_
  refine .throwIf_bind fun _ => .mono (m := inputCount.toNat * 12 + (4 + 0))
    (guarded_fence ?_ ?_) (by omega)
  · refine (guarded_decodeInput.many _).bind fun _ => guarded_u32.bind (k := 0)
      fun parameterCount => ?_
    refine .throwIf_bind fun _ => .mono (m := parameterCount.toNat * 6 + 0)
      (guarded_fence ?_ ?_) (by omega)
    · exact (Guarded.iterate guarded_decodeParameterEntry _ _).bind fun _ => .pure _
    · simp [CountObservation.Fits, countContract]
  · simp [CountObservation.Fits, countContract]

theorem guarded_decodeDocument :
    Guarded CountObservation.Fits 12 0 (decodeDocument fenced) (decodeDocument unfenced) := by
  refine .mono (m := 4 + (4 + 4)) ?_ (by decide)
  refine guarded_u32.bind fun _ => guarded_u32.bind fun nodeCount => ?_
  refine .throwIf_bind fun _ => .mono (m := nodeCount.toNat * 20 + (4 + 0))
    (guarded_fence ?_ ?_) (by omega)
  · refine (guarded_decodeNode.many _).bind fun _ => guarded_u32.bind (k := 0) fun outputCount => ?_
    refine .throwIf_bind fun _ => .mono (m := outputCount.toNat * 16 + 0)
      (guarded_fence ?_ ?_) (by omega)
    · exact (guarded_decodeOutput.many _).bind fun _ => .pure _
    · simp [CountObservation.Fits, countContract]
  · simp [CountObservation.Fits, countContract]

/-- The shortest Value has one axis, no facet and no bytes. -/
theorem guarded_decodeValue :
    Guarded CountObservation.Fits 50 52 (decodeValue fenced) (decodeValue unfenced) := by
  refine .mono (m := 4 + (1 + 45)) ?_ (by decide)
  refine guarded_u32.bind fun _ => .throwIf_bind fun _ => guarded_u8.bind fun rank => ?_
  refine .throwIf_bind fun hrank => ?_
  have hpos : 0 < rank.toNat := by
    rw [Nat.pos_iff_ne_zero]
    intro h0
    have : rank = 0 := UInt8.toNat_inj.mp h0
    simp [this] at hrank
  refine .mono (m := rank.toNat * 8 + (rank.toNat * 16 + (8 + (rank.toNat * 8 + (1 + 4)))))
    (guarded_fence ?_ ?_) (by omega)
  · refine (guarded_u64.many _).bind fun _ => (guarded_decodeDimension.many _).bind fun _ => ?_
    refine guarded_u64.bind fun _ => (guarded_i64.many _).bind fun _ => ?_
    refine guarded_u8.bind fun facetCount => .throwIf_bind fun _ => ?_
    refine .mono (m := facetCount.toNat * 12 + (4 + 0)) (guarded_fence ?_ ?_) (by omega)
    · exact (guarded_decodeFacet.many _).bind fun _ => (guarded_bytes _).bind fun _ =>
        guarded_publishValue _ _ _ _ _
    · simp [CountObservation.Fits, countContract]
  · simp only [CountObservation.Fits, countContract, UInt8.toNat_toUInt64]
    omega

theorem guarded_decodeDiagnostics :
    Guarded CountObservation.Fits 52 0 (decodeDiagnostics fenced) (decodeDiagnostics unfenced) := by
  refine .mono (m := 8 + (4 + 40)) ?_ (by decide)
  refine guarded_u64.bind fun _ => guarded_u32.bind fun backendCount => .throwIf_bind fun _ => ?_
  refine .mono (m := backendCount.toNat * 9 + (8 + (8 + (8 + (4 + 12))))) (guarded_fence ?_ ?_)
    (by omega)
  · refine (Guarded.iterate guarded_decodeBackendEntry _ _).bind fun _ => guarded_u64.bind fun _ =>
      guarded_u64.bind fun _ => guarded_u64.bind fun _ => guarded_u32.bind fun reasonCount => ?_
    refine .throwIf_bind fun _ => .mono (m := reasonCount.toNat * 4 + (4 + 8)) (guarded_fence ?_ ?_)
      (by omega)
    · refine ((guarded_text _).many _).bind fun _ => guarded_u32.bind fun timingCount => ?_
      refine .throwIf_bind fun _ => .mono (m := timingCount.toNat * 18 + (4 + (4 + 0)))
        (guarded_fence ?_ ?_) (by omega)
      · exact (guarded_decodeTiming.many _).bind fun _ => (guarded_text _).bind fun _ =>
          (guarded_text _).bind fun _ => .pure _
      · simp [CountObservation.Fits, countContract]
    · simp [CountObservation.Fits, countContract]
  · simp [CountObservation.Fits, countContract]

theorem guarded_decodeNamedValue (values : OrderedMap Bytes Value) :
    Guarded CountObservation.Fits 54 52 (decodeNamedValue fenced values)
      (decodeNamedValue unfenced values) :=
  .mono ((guarded_text _).bind fun _ => guarded_decodeValue.bind fun _ =>
    .throwIf_bind fun _ => .pure _) (by decide)

theorem guarded_decodeExecutionResult :
    Guarded CountObservation.Fits 56 0 (decodeExecutionResult fenced)
      (decodeExecutionResult unfenced) := by
  refine .mono (m := 4 + 52) ?_ (by decide)
  refine guarded_u32.bind fun valueCount => .throwIf_bind fun _ => ?_
  refine .mono (m := valueCount.toNat * 54 + (52 + 0)) (guarded_fence ?_ ?_) (by omega)
  · exact (Guarded.iterate guarded_decodeNamedValue _ _).bind fun _ =>
      guarded_decodeDiagnostics.bind fun _ => .pure _
  · simp [CountObservation.Fits, countContract]

theorem guarded_decodeDaemonInfo :
    Guarded CountObservation.Fits 43 0 (decodeDaemonInfo fenced) (decodeDaemonInfo unfenced) := by
  refine .mono (m := 2 + (8 + (4 + (4 + (1 + 24))))) ?_ (by decide)
  refine guarded_u16.bind fun _ => guarded_u64.bind fun _ => (guarded_text _).bind fun _ =>
    (guarded_text _).bind fun _ => guarded_u8.bind fun methodCount => .throwIf_bind fun _ => ?_
  refine .mono (m := methodCount.toNat * 4 + (8 + (8 + (4 + (4 + 0))))) (guarded_fence ?_ ?_)
    (by omega)
  · exact ((guarded_text _).many _).bind fun _ => guarded_u64.bind fun _ =>
      guarded_u64.bind fun _ =>
      guarded_u32.bind fun _ => guarded_u32.bind fun _ => .throwIf_bind fun _ => .pure _
  · simp [CountObservation.Fits, countContract]

/-! ## Messages -/

theorem guarded_decodeRequestBody (request : Request) :
    Guarded CountObservation.Fits 0 0 (decodeRequestBody fenced request)
      (decodeRequestBody unfenced request) := by
  unfold decodeRequestBody
  split
  · exact .mono (guarded_decodeDocument.bind fun _ => .pure _) (Nat.zero_le _)
  · exact .mono (guarded_decodeSessionId.bind fun _ => .pure _) (Nat.zero_le _)
  · exact .mono (guarded_decodeSubmit.bind fun _ => .pure _) (Nat.zero_le _)
  all_goals first
    | exact .mono (guarded_decodeJobId.bind fun _ => .pure _) (Nat.zero_le _)
    | exact .pure _

theorem guarded_decodeResponseBody (response : Response) :
    Guarded CountObservation.Fits 0 0 (decodeResponseBody fenced response)
      (decodeResponseBody unfenced response) := by
  unfold decodeResponseBody
  split
  · exact .mono (guarded_decodeSessionId.bind fun _ => .pure _) (Nat.zero_le _)
  · exact .mono (guarded_decodeJobId.bind fun _ => .pure _) (Nat.zero_le _)
  · exact .mono (guarded_decodeJobStatus.bind fun _ => .pure _) (Nat.zero_le _)
  · exact .mono (guarded_decodeExecutionResult.bind fun _ => .pure _) (Nat.zero_le _)
  · exact .mono (guarded_decodeDaemonInfo.bind fun _ => .pure _) (Nat.zero_le _)
  all_goals exact .pure _

/-- The header is eleven bytes. -/
theorem guarded_requestFields :
    Guarded CountObservation.Fits 11 0 (requestFields fenced) (requestFields unfenced) :=
  .mono (guarded_u16.bind fun _ => .throwIf_bind fun _ => guarded_u64.bind fun _ =>
    .throwIf_bind fun _ => guarded_u8.bind fun _ => (guarded_decodeMethod _).bind fun _ =>
    guarded_decodeRequestBody _) (by decide)

theorem guarded_responseFields (expectedMethod : Method) (expectedRequestId : UInt64) :
    Guarded CountObservation.Fits 11 0 (responseFields fenced expectedMethod expectedRequestId)
      (responseFields unfenced expectedMethod expectedRequestId) := by
  refine .mono (m := 2 + (8 + (1 + (0 + (5 + 0))))) ?_ (by decide)
  refine guarded_u16.bind fun _ => .throwIf_bind fun _ => guarded_u64.bind fun _ =>
    guarded_u8.bind fun _ => (guarded_decodeMethod _).bind fun _ => .throwIf_bind fun _ =>
    guarded_decodeStatus.bind fun status => ?_
  by_cases hok : status.ok = true
  · simp only [hok, if_true]
    exact guarded_decodeResponseBody _
  · simp only [hok]
    exact .pure _

section Payloads

variable {α : Type} {m : Nat} {fields fields' : Decoder α}

theorem guarded_whole (h : Guarded CountObservation.Fits m 0 fields fields') :
    Guarded CountObservation.Fits m 0 fields.whole fields'.whole :=
  h.bind (k := 0) fun _ => guarded_requireEnd.bind (k := 0) fun _ => .pure _

theorem start_eq_ok {decoder : Decoder α} {payload : Bytes} {value : α} :
    (decoder.start payload).1 = .ok value ↔
      payload.length ≤ maximumFramePayloadBytes ∧
        ∃ state, decoder ⟨payload, []⟩ = .ok value state := by
  unfold Decoder.start
  split
  · simp
    omega
  · cases h : decoder ⟨payload, []⟩ <;> simp
    omega

theorem start_iff_of_guarded (h : Guarded CountObservation.Fits m 0 fields fields')
    (payload : Bytes)
    (value : α) : (fields.start payload).1 = .ok value ↔ (fields'.start payload).1 = .ok value := by
  rw [start_eq_ok, start_eq_ok]
  refine and_congr_right fun _ => exists_congr fun state => ⟨h.weakens _ _ _, fun hrun => ?_⟩
  exact h.covers _ _ _ hrun (Nat.zero_le _)

theorem fits_of_start (h : Guarded CountObservation.Fits m 0 fields fields') (payload : Bytes) :
    ∀ observation ∈ (fields.start payload).2, observation.Fits := by
  have hrun := h.keeps ⟨payload, []⟩ (by simp)
  unfold Decoder.start
  split
  · simp
  · cases hfields : fields ⟨payload, []⟩ with
    | ok value state => exact hrun.1 value state hfields
    | error thrown state => exact hrun.2 thrown state hfields

end Payloads

/-- Removing every `require_count_fits` changes no successful decoding. Every loop runs with a count
that has passed a fence, every count that has passed one fits into the unread bytes, and
`count_fits` computes that inequality exactly in machine words. -/
theorem countFences_redundant :
    (∀ payload request, decodeRequest payload = .ok request ↔
      (decodeRequestWith unfenced payload).1 = .ok request) ∧
    (∀ payload expectedMethod expectedRequestId response,
      decodeResponse payload expectedMethod expectedRequestId = .ok response ↔
        (decodeResponseWith unfenced payload expectedMethod expectedRequestId).1 = .ok response) ∧
    Counted [] (requestFields fenced) ∧
    (∀ expectedMethod expectedRequestId,
      Counted [] (responseFields fenced expectedMethod expectedRequestId)) ∧
    (∀ payload, ∀ observation ∈ (decodeRequestWith fenced payload).2, observation.Fits) ∧
    (∀ payload expectedMethod expectedRequestId,
      ∀ observation ∈ (decodeResponseWith fenced payload expectedMethod expectedRequestId).2,
        observation.Fits) ∧
    (∀ kind count remaining, countFitsWord count remaining (countContract kind) = true ↔
      CountObservation.Fits ⟨kind, count, remaining.toNat⟩) := by
  refine ⟨fun payload request => ?_, fun payload method requestId response => ?_,
    counted_requestFields, counted_responseFields, fun payload => ?_,
    fun payload method requestId => ?_, fun kind count remaining => ?_⟩
  · exact start_iff_of_guarded (guarded_whole guarded_requestFields) payload request
  · unfold decodeResponse decodeResponseWith
    split
    · exact Iff.rfl
    · exact start_iff_of_guarded (guarded_whole (guarded_responseFields method requestId)) payload _
  · exact fits_of_start (guarded_whole guarded_requestFields) payload
  · unfold decodeResponseWith
    split
    · simp
    · exact fits_of_start (guarded_whole (guarded_responseFields method requestId)) payload
  · rw [countFitsWord_eq (by cases kind <;> decide) (by cases kind <;> decide), countFits_iff]

end PhotospiderDaemon.Ipc
