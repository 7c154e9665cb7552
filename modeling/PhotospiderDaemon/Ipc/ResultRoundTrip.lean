import PhotospiderDaemon.Ipc.MessageRoundTrip

/-!
# Round trips of job results

`encode_value` and `decode_value` each carry their own bounds. The decoder refuses a rank of
zero and a facet payload above 64 KiB; the encoder checks neither. So a result is read back
exactly when none of its Values has one of the two, and is refused otherwise.

What the kernel is relied on for is collected in `Kernel.Contract`.

* `decides_value`, `decides_executionResult`: the sharp statement, Value by Value.
* `jobResult_roundTrip_iff`: the same for a whole response.
* `jobResult_unreadable`: a result that is written and cannot be read.
-/

namespace PhotospiderDaemon.Ipc

open Foundation

/-! ## Values -/

/-- The value with its storage origin dropped. -/
def Value.withoutOrigin (value : Value) : Value :=
  { value with layout := { value.layout with origin := [] } }

/-- What the kernel guarantees for a valid Value. -/
structure Kernel.Contract [Kernel] : Prop where
  elementType : ∀ value, Kernel.valid value = true →
    value.descriptor.elementType = Kernel.float32 ∨
      Kernel.uint8.raw ≤ value.descriptor.elementType.raw ∧
        value.descriptor.elementType.raw ≤ Kernel.float64.raw
  region_length : ∀ value, Kernel.valid value = true →
    value.region.length = value.descriptor.shape.length
  byteStrides_length : ∀ value, Kernel.valid value = true →
    value.layout.byteStrides.length = value.descriptor.shape.length
  regionFailure : ∀ value, Kernel.valid value = true → Kernel.regionFailure value.region = none
  create : ∀ value, Kernel.valid value = true → (∀ origin ∈ value.layout.origin, origin = 0) →
    Kernel.create value.descriptor value.region value.withoutOrigin.layout value.bytes
      value.facets = .ok value.withoutOrigin

/-- What the decoder demands of a Value beyond what the encoder checks. -/
def Value.Readable (value : Value) : Prop :=
  1 ≤ value.descriptor.shape.length ∧ ∀ facet ∈ value.facets, facet.payload.length ≤ 65536

section Kernel

variable [Kernel]

/-- The length bound of a byte vector is the reader's own. -/
theorem decides_bytes (value : Bytes) (maximum : Nat) :
    WireDecides (Encoder.bytes value) (Decoder.bytes maximum) value (value.length ≤ maximum) := by
  refine Decides.guard_left fun hsize => Decides.bind_left (roundTrip_u32 _) ?_
  rw [toNat_ofNat_size (Nat.le_of_not_lt (of_decide_eq_false hsize))]
  refine (Decides.guard_right (Decides.of_roundTrip (RoundTrip.append_take _ _ value))).congr ?_
  simp

/-- The frame limit bounds the bytes of a Value on both sides. -/
theorem roundTrip_bytes (value : Bytes) :
    WireRoundTrip (Encoder.bytes value) (Decoder.bytes maximumFramePayloadBytes) value := by
  refine RoundTrip.guard_left fun hsize => (roundTrip_u32 _).bind ?_
  rw [toNat_ofNat_size (Nat.le_of_not_lt (of_decide_eq_false hsize))]
  refine (Emits.append _ value).bounded.mono ?_
  rintro bs ⟨rfl, hlength⟩
  exact (Reads.throwIf (by simpa using hlength) _).bind_nil (Reads.take _ _)

theorem decides_facet (facet : ValueFacet) :
    WireDecides (encodeFacet facet) decodeFacet facet (facet.payload.length ≤ 65536) := by
  refine Decides.bind_left (roundTrip_text _ _) (Decides.bind_left (roundTrip_u32 _) ?_)
  exact (decides_bytes _ _).bind_right (Reads.pure _)

theorem roundTrip_dimension (dimension : RegionDimension) :
    WireRoundTrip (do Encoder.u64 dimension.offset; Encoder.u64 dimension.extent) decodeDimension
      dimension :=
  (roundTrip_u64 _).bind ((roundTrip_u64 _).bind_right (Reads.pure _))

theorem reads_publishValue (hkernel : Kernel.Contract) {value : Value}
    (hvalid : Kernel.valid value = true) (horigin : ∀ origin ∈ value.layout.origin, origin = 0) :
    Reads (publishValue value.descriptor value.region value.withoutOrigin.layout value.bytes
      value.facets) [] value.withoutOrigin := by
  rw [publishValue, hkernel.regionFailure value hvalid, hkernel.create value hvalid horigin]
  exact Reads.pure _

theorem roundTrip_region (hkernel : Kernel.Contract) {value : Value}
    (hvalid : Kernel.valid value = true) :
    WireRoundTrip (forM value.region fun dimension => do
        Encoder.u64 dimension.offset
        Encoder.u64 dimension.extent)
      (Reader.many decodeDimension value.descriptor.shape.length) value.region := by
  rw [← hkernel.region_length value hvalid]
  exact RoundTrip.forM_many fun dimension _ => roundTrip_dimension dimension

theorem roundTrip_byteStrides (hkernel : Kernel.Contract) {value : Value}
    (hvalid : Kernel.valid value = true) :
    WireRoundTrip (forM value.layout.byteStrides Encoder.i64)
      (Reader.many Decoder.i64 value.descriptor.shape.length) value.layout.byteStrides := by
  rw [← hkernel.byteStrides_length value hvalid]
  exact RoundTrip.forM_many fun stride _ => roundTrip_i64 stride

theorem decides_value (hkernel : Kernel.Contract) (value : Value) :
    WireDecides (encodeValue value) (decodeValue unfenced) value.withoutOrigin value.Readable := by
  refine Decides.guard_left fun hshape => Decides.guard_left fun htype => ?_
  simp only [Bool.or_eq_false_iff, Bool.not_eq_false', decide_eq_false_iff_not,
    Nat.not_lt] at hshape
  simp only [Bool.or_eq_false_iff, decide_eq_false_iff_not, List.any_eq_false,
    decide_eq_true_eq, not_not] at htype
  obtain ⟨hvalid, hrank⟩ := hshape
  obtain ⟨hfloat32, horigin⟩ := htype
  have hrange := (hkernel.elementType value hvalid).resolve_left hfloat32
  have hrankNat : (UInt8.ofNat value.descriptor.shape.length).toNat =
      value.descriptor.shape.length :=
        UInt8.toNat_ofNat_of_lt' (Nat.lt_of_le_of_lt hrank (by decide))
  -- The rank passed the encoder's upper bound; only zero is left to refuse.
  have hreadable : ((decide (UInt8.ofNat value.descriptor.shape.length = 0) ||
      decide (UInt8.ofNat value.descriptor.shape.length > 8)) = false ∧
        ∀ facet ∈ value.facets, facet.payload.length ≤ 65536) ↔ value.Readable := by
    refine and_congr_left fun _ => ?_
    simp only [Bool.or_eq_false_iff, decide_eq_false_iff_not, gt_iff_lt, ← UInt8.toNat_inj,
      UInt8.lt_iff_toNat_lt, hrankNat, UInt8.toNat_ofNat]
    omega
  refine Decides.bind_left (roundTrip_u32 _) (Decides.read_nil (Reads.throwIf ?_ _) ?_)
  · simpa using hrange
  refine Decides.congr (Decides.bind_left (roundTrip_u8 _) (Decides.guard_right
    (Decides.read_nil (Reads.observe _) ?_))) hreadable
  rw [hrankNat]
  refine Decides.bind_left (RoundTrip.forM_many fun extent _ => roundTrip_u64 extent) ?_
  refine Decides.bind_left (roundTrip_region hkernel hvalid)
    (Decides.bind_left (roundTrip_u64 _) ?_)
  refine Decides.bind_left (roundTrip_byteStrides hkernel hvalid) ?_
  refine Decides.guard_left fun hfacets => ?_
  refine decides_count8 (Nat.le_of_not_lt (of_decide_eq_false hfacets)) fun facetCount hcount => ?_
  rw [hcount]
  refine ((Decides.forM_many fun facet _ => decides_facet facet).bind
    (Decides.of_roundTrip ?_)).congr (iff_of_eq (and_true _))
  exact (roundTrip_bytes _).bind_right (reads_publishValue hkernel hvalid horigin)

/-! ## Diagnostics -/

theorem unknownBackendCode_raw (backend : Backend) :
    unknownBackendCode backend.raw = unknownBackend backend := by
  obtain ⟨raw⟩ := backend
  simp only [unknownBackendCode, unknownBackend, ne_eq, Backend.ext_iff]

theorem roundTrip_backend (entry : UInt64 × Backend) {backends : OrderedMap UInt64 Backend}
    (hnew : (backends.emplace entry.1 entry.2).2 = true) :
    WireRoundTrip (encodeBackend entry) (decodeBackendEntry backends)
      (backends.emplace entry.1 entry.2).1 := by
  refine RoundTrip.guard_left fun hguard => (roundTrip_u64 _).bind ((roundTrip_u8 _).bind_right ?_)
  refine (Reads.throwIf ?_ _).bind_nil (Reads.pure _)
  rw [unknownBackendCode_raw, hguard]
  simp [hnew]

theorem roundTrip_timing (timing : OperationTiming) :
    WireRoundTrip (encodeTiming timing) decodeTiming timing := by
  refine RoundTrip.guard_left fun hguard => ?_
  rw [Bool.or_eq_false_iff] at hguard
  refine (roundTrip_u64 _).bind ((roundTrip_u8 _).bind (RoundTrip.guard_right ?_ ?_))
  · rw [unknownBackendCode_raw]
    exact hguard.1
  · refine (roundTrip_u64 _).bind ((roundTrip_u8 _).bind_right ?_)
    exact (Reads.throwIf hguard.2 _).bind_nil (Reads.pure _)

theorem roundTrip_diagnostics (diagnostics : ExecutionDiagnostics) :
    WireRoundTrip (encodeDiagnostics diagnostics) (decodeDiagnostics unfenced) diagnostics := by
  refine RoundTrip.guard_left fun hguard => ?_
  simp only [Bool.or_eq_false_iff, decide_eq_false_iff_not, Nat.not_lt] at hguard
  obtain ⟨⟨hbackends, htimings⟩, hreasons⟩ := hguard
  refine (roundTrip_u64 _).bind (roundTrip_count hbackends fun backendCount hcount => ?_)
  rw [hcount]
  refine (RoundTrip.forM_emplace fun entry _ _ hnew => roundTrip_backend entry hnew).bind ?_
  refine (roundTrip_u64 _).bind ((roundTrip_u64 _).bind ((roundTrip_u64 _).bind ?_))
  refine roundTrip_count hreasons fun reasonCount hcount => ?_
  rw [hcount]
  refine (RoundTrip.forM_many fun reason _ => roundTrip_text reason 4096).bind ?_
  refine roundTrip_count htimings fun timingCount hcount => ?_
  rw [hcount]
  refine (RoundTrip.forM_many fun timing _ => roundTrip_timing timing).bind ?_
  exact (roundTrip_text _ _).bind ((roundTrip_text _ _).bind_right (Reads.pure _))

/-! ## Results -/

/-- The result with the storage origins dropped. -/
def ExecutionResult.withoutOrigins (result : ExecutionResult) : ExecutionResult :=
  { result with values := result.values.mapValues Value.withoutOrigin }

/-- Every named Value is readable. -/
def ExecutionResult.Readable (result : ExecutionResult) : Prop :=
  ∀ entry ∈ result.values.entries, entry.2.Readable

theorem decides_namedValue (hkernel : Kernel.Contract) (entry : Bytes × Value)
    {values : OrderedMap Bytes Value}
    (hnew : (values.emplace entry.1 entry.2.withoutOrigin).2 = true) :
    WireDecides (do Encoder.text entry.1 1024; encodeValue entry.2)
      (decodeNamedValue unfenced values) (values.emplace entry.1 entry.2.withoutOrigin).1
      entry.2.Readable := by
  refine Decides.bind_left (roundTrip_text _ _) ((decides_value hkernel _).bind_right ?_)
  exact (Reads.throwIf (by simp [hnew]) _).bind_nil (Reads.pure _)

theorem decides_executionResult (hkernel : Kernel.Contract) (result : ExecutionResult) :
    WireDecides (encodeExecutionResult result) (decodeExecutionResult unfenced)
      result.withoutOrigins result.Readable := by
  refine Decides.guard_left fun hguard => ?_
  refine decides_count (Nat.le_of_not_lt (of_decide_eq_false hguard)) fun valueCount hcount => ?_
  rw [hcount]
  refine ((Decides.forM_emplace fun entry _ _ hnew => decides_namedValue hkernel entry hnew).bind
    (Decides.of_roundTrip ?_)).congr (iff_of_eq (and_true _))
  exact (roundTrip_diagnostics _).bind_right (Reads.pure _)

/-! ## Responses -/

/-- Fields that reject a payload also reject it with the fences. -/
theorem start_of_rejects {α : Type} {m : Nat} {fields fields' : Decoder α} {payload : Bytes}
    (hrejects : Rejects fields' payload)
    (hguard : Guarded CountObservation.Fits m 0 fields fields') :
    ∃ status, (fields.whole.start payload).1 = .error status := by
  cases hstart : (fields.whole.start payload).1 with
  | error status => exact ⟨status, rfl⟩
  | ok value =>
    rw [start_iff_of_guarded (guarded_whole hguard), start_eq_ok] at hstart
    obtain ⟨-, state, hrun⟩ := hstart
    obtain ⟨_, _, hfields, -⟩ := Reader.bind_eq_ok hrun
    obtain ⟨thrown, state', herror⟩ := hrejects [] []
    rw [List.append_nil, hfields] at herror
    cases herror

theorem decides_jobResult (hkernel : Kernel.Contract) {response : Response}
    (hmethod : response.method = .jobResult) (hok : response.status.ok = true) :
    WireDecides (responseEncoder response)
      (responseFields unfenced response.method response.requestId)
      { response.selected with executionResult := response.executionResult.withoutOrigins }
      response.executionResult.Readable := by
  refine decides_response_of_body hok ?_
  rw [Response.selected, if_pos hok]
  obtain ⟨requestId, method, status, sessionId, jobId, jobStatus, executionResult, daemonInfo, _⟩ :=
    response
  obtain rfl : method = .jobResult := hmethod
  exact (decides_executionResult hkernel executionResult).bind_right (Reads.pure _)

/-- A Value that the decoder does not accept makes the whole response unreadable. -/
theorem decodeResponse_error_of_not_readable (hkernel : Kernel.Contract) {response : Response}
    {payload : Bytes} (hmethod : response.method = .jobResult) (hok : response.status.ok = true)
    (hencode : encodeResponse response = .ok payload)
    (hbad : ¬ response.executionResult.Readable) :
    ∃ status, decodeResponse payload .jobResult response.requestId = .error status := by
  obtain ⟨bs, hbs, -, hread⟩ := decides_jobResult hkernel hmethod hok [] payload (Nat.zero_le _)
    (finish_eq_ok.mp hencode)
  rw [List.nil_append] at hbs
  subst hbs
  rw [← hmethod, decodeResponse_eq_start hencode]
  exact start_of_rejects (hread.2 hbad) (guarded_responseFields _ _)

/-- A successful result that was written is read back exactly when each of its Values has an
axis and no facet payload above 64 KiB, and is refused otherwise. -/
theorem jobResult_roundTrip_iff (hkernel : Kernel.Contract) (response : Response) (payload : Bytes)
    (hmethod : response.method = .jobResult) (hok : response.status.ok = true)
    (hencode : encodeResponse response = .ok payload) :
    (decodeResponse payload .jobResult response.requestId = .ok
        { response.selected with executionResult := response.executionResult.withoutOrigins } ↔
      response.executionResult.Readable) ∧
    (¬ response.executionResult.Readable →
      ∃ status, decodeResponse payload .jobResult response.requestId = .error status) := by
  have hrefuse := decodeResponse_error_of_not_readable hkernel hmethod hok hencode
  refine ⟨⟨fun hread => ?_, fun hgood => ?_⟩, hrefuse⟩
  · by_contra hbad
    obtain ⟨status, herror⟩ := hrefuse hbad
    rw [herror] at hread
    cases hread
  · rw [← hmethod, decodeResponse_eq_start hencode]
    exact (start_of_roundTrip ((decides_jobResult hkernel hmethod hok).roundTrip hgood)
      (guarded_responseFields _ _) hencode).1

end Kernel

/-! ## One Value with one facet -/

theorem sampleKernel_contract : @Kernel.Contract sampleKernel := by
  refine @Kernel.Contract.mk sampleKernel ?_ ?_ ?_ (fun _ _ => rfl) (fun _ _ _ => rfl)
  all_goals
    intro value hvalid
    have hconsistent : value.consistent = true := hvalid
    simp only [Value.consistent, Bool.and_eq_true, decide_eq_true_eq] at hconsistent
  · exact Or.inr ⟨UInt32.zero_le, hconsistent.1.1⟩
  · exact hconsistent.1.2
  · exact hconsistent.2

/-- A Value of one axis and one byte, which has one facet. -/
def facetValue (payload : Bytes) : Value :=
  ⟨⟨⟨0⟩, [1]⟩, [⟨0, 1⟩], ⟨0, [1], []⟩, [7], [⟨ascii "icc", 1, payload⟩]⟩

/-- A successful response that carries only this Value. -/
def facetResponse [Kernel] (payload : Bytes) : Response := { (default : Response) with
  requestId := 1
  method := .jobResult
  executionResult :=
    ⟨⟨[(ascii "image", facetValue payload)], List.pairwise_singleton _ _⟩, default⟩ }

theorem writes_facetValue {payload : Bytes} (h : payload.length ≤ 2 ^ 32 - 1) :
    letI := sampleKernel
    WireWrites (70 + payload.length) (encodeValue (facetValue payload)) := by
  let _ : Kernel := sampleKernel
  have hkey : WireWrites (4 + 3) (Encoder.text (ascii "icc") 256) :=
    writes_text (ascii "icc") 256 (by decide) (by decide) (by decide)
  have hfacet : WireWrites (15 + payload.length) (encodeFacet ⟨ascii "icc", 1, payload⟩) :=
    (hkey.bind ((writes_u32 1).bind (writes_bytes payload h))).mono (by omega)
  have hfacets : WireWrites (15 + payload.length) (forM [(⟨ascii "icc", 1, payload⟩ : ValueFacet)]
      encodeFacet) := hfacet.bind Writes.pure
  have hbytes : WireWrites 5 (Encoder.bytes [7]) := writes_bytes [7] (by decide)
  have hdimensions : WireWrites 16 (forM [(⟨0, 1⟩ : RegionDimension)] fun dimension => do
      Encoder.u64 dimension.offset
      Encoder.u64 dimension.extent) := ((writes_u64 0).bind (writes_u64 1)).bind Writes.pure
  have hshape : WireWrites 8 (forM [(1 : UInt64)] Encoder.u64) := (writes_u64 1).bind Writes.pure
  have hstrides : WireWrites 8 (forM [(1 : Int64)] Encoder.i64) := (writes_i64 1).bind Writes.pure
  refine Writes.mono (Writes.throwIf_bind rfl (Writes.throwIf_bind rfl ((writes_u32 _).bind
    ((writes_u8 _).bind (hshape.bind (hdimensions.bind ((writes_u64 _).bind (hstrides.bind
    (Writes.throwIf_bind rfl ((writes_u8 _).bind (hfacets.bind hbytes))))))))))) ?_
  omega

theorem writes_facetResponse {payload : Bytes} (h : payload.length ≤ 2 ^ 32 - 1) :
    letI := sampleKernel
    WireWrites (200 + payload.length) (responseEncoder (facetResponse payload)) := by
  let _ : Kernel := sampleKernel
  have hstatus : WireWrites 5 (encodeStatus Status.success) :=
    Writes.throwIf_bind rfl
      ((writes_u8 _).bind (writes_text [] _ (by decide) (by decide) (by decide)))
  have hdigest : WireWrites 4 (Encoder.text [] 128) :=
    writes_text [] _ (by decide) (by decide) (by decide)
  have hdiagnostics : WireWrites 52 (encodeDiagnostics default) :=
    Writes.throwIf_bind rfl ((writes_u64 _).bind ((writes_u32 _).bind (Writes.pure.bind
      ((writes_u64 _).bind ((writes_u64 _).bind ((writes_u64 _).bind ((writes_u32 _).bind
      (Writes.pure.bind ((writes_u32 _).bind (Writes.pure.bind (hdigest.bind hdigest)))))))))))
  have hname : WireWrites 9 (Encoder.text (ascii "image") 1024) :=
    writes_text (ascii "image") 1024 (by decide) (by decide) (by decide)
  have hvalues : WireWrites (79 + payload.length)
      (forM [(ascii "image", facetValue payload)] fun value : Bytes × Value => do
        Encoder.text value.1 1024
        encodeValue value.2) :=
    ((hname.bind (writes_facetValue h)).bind Writes.pure).mono (by omega)
  have hresult : WireWrites (135 + payload.length)
      (encodeExecutionResult (facetResponse payload).executionResult) :=
    (Writes.throwIf_bind rfl ((writes_u32 _).bind (hvalues.bind hdiagnostics))).mono (by omega)
  refine Writes.mono (Writes.throwIf_bind rfl ((writes_u16 _).bind ((writes_u64 _).bind
    ((writes_u8 _).bind (hstatus.bind hresult))))) ?_
  omega

theorem encodeResponse_facetResponse (payload : Bytes) (h : payload.length ≤ 4000000) :
    letI := sampleKernel
    ∃ written, encodeResponse (facetResponse payload) = .ok written := by
  let _ : Kernel := sampleKernel
  have hroom : ([] : Bytes).length + (200 + payload.length) ≤ maximumFramePayloadBytes := by
    simp only [List.length_nil, maximumFramePayloadBytes]
    omega
  obtain ⟨written, hrun, -⟩ := writes_facetResponse (by omega) [] hroom
  exact ⟨written, finish_eq_ok.mpr hrun⟩

theorem facetResponse_readable_iff [Kernel] (payload : Bytes) :
    (facetResponse payload).executionResult.Readable ↔ payload.length ≤ 65536 := by
  simp [facetResponse, ExecutionResult.Readable, facetValue, Value.Readable]

/-- A facet of 64 KiB and one byte is written and cannot be read. -/
theorem jobResult_unreadable :
    ∃ _ : Kernel, Kernel.Contract ∧ ∃ (response : Response) (payload : Bytes),
      response.method = .jobResult ∧ response.status.ok = true ∧
      encodeResponse response = .ok payload ∧
      ∃ status, decodeResponse payload .jobResult response.requestId = .error status := by
  let _ : Kernel := sampleKernel
  obtain ⟨facet, hlength⟩ : ∃ facet : Bytes, facet.length = 65537 :=
    ⟨List.replicate 65537 0, List.length_replicate⟩
  obtain ⟨written, hencode⟩ := encodeResponse_facetResponse facet (by omega)
  refine ⟨sampleKernel, sampleKernel_contract, _, written, rfl, rfl, hencode, ?_⟩
  refine decodeResponse_error_of_not_readable sampleKernel_contract rfl rfl hencode ?_
  rw [facetResponse_readable_iff]
  omega

/-- A facet of one byte is written and read back. -/
theorem jobResult_roundTrip_small :
    ∃ _ : Kernel, Kernel.Contract ∧ ∃ (response : Response) (payload : Bytes),
      response.executionResult.values.size = 1 ∧ encodeResponse response = .ok payload ∧
      decodeResponse payload .jobResult response.requestId = .ok { response.selected with
        executionResult := response.executionResult.withoutOrigins } := by
  let _ : Kernel := sampleKernel
  obtain ⟨written, hencode⟩ := encodeResponse_facetResponse [5] (by decide)
  refine ⟨sampleKernel, sampleKernel_contract, _, written, rfl, hencode, ?_⟩
  refine (jobResult_roundTrip_iff sampleKernel_contract _ written rfl rfl hencode).1.mpr ?_
  rw [facetResponse_readable_iff]
  decide

end PhotospiderDaemon.Ipc
