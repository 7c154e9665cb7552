import PhotospiderDaemon.Ipc.MessageRoundTrip

/-!
# Failures before routing

`recover_correlation`, `encode_protocol_error` and `decode_protocol_error` of
`src/lib/ipc/codec.cpp`. The header of a request is read twice in the source: by the decoder
of requests and, without allocation, from whatever has arrived of a payload. `HasHeader` says
what a header is without reference to either, and both readers are compared with it.

* `recoverCorrelation_cases`: what is recovered from a payload.
* `requestHeader_eq_ok`: what the decoder of requests has read when it is past the header.
* `decodeResponse_of_encodeProtocolError`, `decodeProtocolError_of_encode`: how the two decoders
  of responses read a protocol error.
-/

namespace PhotospiderDaemon.Ipc

open Foundation

/-! ## The header of a request -/

/-- The eleven bytes in front of every message. -/
def headerBytes (version : UInt16) (requestId : UInt64) (code : UInt8) : Bytes :=
  littleEndian 2 version.toNat ++ (littleEndian 8 requestId.toNat ++ [code])

/-- The payload begins with the header of a request. -/
def HasHeader (payload : Bytes) (requestId : UInt64) (method : Method) : Prop :=
  requestId ≠ 0 ∧ headerBytes protocolVersion requestId method.code <+: payload

@[simp] theorem length_headerBytes (version : UInt16) (requestId : UInt64) (code : UInt8) :
    (headerBytes version requestId code).length = 11 := by
  simp [headerBytes]

/-- Any eleven bytes are the three fields of a header. -/
theorem exists_headerBytes {payload : Bytes} (h : 11 ≤ payload.length) :
    ∃ version requestId code rest, payload = headerBytes version requestId code ++ rest := by
  have hversion : (payload.take 2).length = 2 := by simp; omega
  have hid : ((payload.drop 2).take 8).length = 8 := by simp; omega
  obtain ⟨version, hversionLt, hversionEq⟩ := exists_littleEndian (payload.take 2)
  obtain ⟨id, hidLt, hidEq⟩ := exists_littleEndian ((payload.drop 2).take 8)
  rw [hversion] at hversionLt hversionEq
  rw [hid] at hidLt hidEq
  cases hrest : payload.drop 10 with
  | nil => simp at hrest; omega
  | cons code rest =>
    refine ⟨UInt16.ofNat version, UInt64.ofNat id, code, rest, ?_⟩
    rw [headerBytes, UInt16.toNat_ofNat_of_lt' hversionLt, UInt64.toNat_ofNat_of_lt' hidLt,
      hversionEq, hidEq, List.append_assoc, List.append_assoc, List.singleton_append, ← hrest]
    have htail : (payload.drop 2).drop 8 = payload.drop 10 := List.drop_drop
    rw [← htail, List.take_append_drop, List.take_append_drop]

/-! ## Recovered correlation -/

/-- `RecoveredCorrelation`. -/
structure RecoveredCorrelation where
  requestId : UInt64
  method : Method
deriving DecidableEq

/-- The default pair, which no request and no successful response carries. -/
def RecoveredCorrelation.sentinel : RecoveredCorrelation := ⟨0, .daemonInfo⟩

/-- `recover_correlation`. -/
def recoverCorrelation : Option Bytes → RecoveredCorrelation
  | none => .sentinel
  | some payload =>
    if payload.length < 11 ∨
        (payload.getD 0 0).toNat ||| (payload.getD 1 0).toNat <<< 8 ≠ protocolVersion.toNat then
      .sentinel
    else
      let requestId := UInt64.ofNat ((List.range 8).foldl
        (fun id index => id ||| (payload.getD (index + 2) 0).toNat <<< (index * 8)) 0)
      match Method.ofCode? (payload.getD 10 0) with
      | none => .sentinel
      | some method => if requestId = 0 then .sentinel else ⟨requestId, method⟩

theorem getD_headerBytes (version : UInt16) (requestId : UInt64) (code : UInt8) (rest : Bytes) :
    (∀ index < 2, (headerBytes version requestId code ++ rest).getD index 0 =
      UInt8.ofNat (version.toNat >>> (index * 8))) ∧
    (∀ index < 8, (headerBytes version requestId code ++ rest).getD (index + 2) 0 =
      UInt8.ofNat (requestId.toNat >>> (index * 8))) ∧
    (headerBytes version requestId code ++ rest).getD 10 0 = code := by
  refine ⟨fun index hindex => ?_, fun index hindex => ?_, ?_⟩
  · simp [headerBytes, littleEndian, List.getElem?_append, hindex]
  · simp [headerBytes, littleEndian, List.getElem?_append, hindex]
  · simp [headerBytes, littleEndian, List.getElem?_append]

/-- What is recovered from the three fields of a header. -/
theorem recoverCorrelation_headerBytes (version : UInt16) (requestId : UInt64) (code : UInt8)
    (rest : Bytes) :
    recoverCorrelation (some (headerBytes version requestId code ++ rest)) =
      if version ≠ protocolVersion then .sentinel
      else
        match Method.ofCode? code with
        | none => .sentinel
        | some method => if requestId = 0 then .sentinel else ⟨requestId, method⟩ := by
  obtain ⟨hversion, hid, hcode⟩ := getD_headerBytes version requestId code rest
  have hassembled : (List.range 8).foldl
      (fun id index =>
        id ||| ((headerBytes version requestId code ++ rest).getD (index + 2) 0).toNat
        <<< (index * 8)) 0 = requestId.toNat := by
    rw [List.foldl_ext _ _ 0 fun id index hindex => by rw [hid index (List.mem_range.mp hindex)],
      foldl_digits]
    exact Nat.mod_eq_of_lt requestId.toNat_lt
  have hnumber : ((headerBytes version requestId code ++ rest).getD 0 0).toNat |||
      ((headerBytes version requestId code ++ rest).getD 1 0).toNat <<< 8 = version.toNat := by
    have hdigits := (foldl_digits 2 version.toNat).trans (Nat.mod_eq_of_lt version.toNat_lt)
    rw [hversion 0 (by decide), hversion 1 (by decide)]
    simpa [List.range_succ] using hdigits
  have hlength : ¬ (headerBytes version requestId code ++ rest).length < 11 := by simp
  unfold recoverCorrelation
  simp only [hassembled, hnumber, hcode, hlength, false_or, UInt64.ofNat_toNat, ne_eq,
    UInt16.toNat_inj]

theorem recoverCorrelation_of_hasHeader {payload : Bytes} {requestId : UInt64} {method : Method}
    (h : HasHeader payload requestId method) :
    recoverCorrelation (some payload) = ⟨requestId, method⟩ := by
  obtain ⟨hne, rest, rfl⟩ := h
  rw [recoverCorrelation_headerBytes, if_neg (not_not.mpr rfl), Method.ofCode?_code]
  exact if_neg hne

/-- A payload without a valid header is answered under the sentinel. -/
theorem recoverCorrelation_cases (payload : Bytes) :
    (∃ requestId method, HasHeader payload requestId method ∧
      recoverCorrelation (some payload) = ⟨requestId, method⟩) ∨
    (∀ requestId method, ¬ HasHeader payload requestId method) ∧
      recoverCorrelation (some payload) = .sentinel := by
  by_cases hheader : ∃ requestId method, HasHeader payload requestId method
  · obtain ⟨requestId, method, h⟩ := hheader
    exact Or.inl ⟨requestId, method, h, recoverCorrelation_of_hasHeader h⟩
  · refine Or.inr ⟨fun requestId method h => hheader ⟨requestId, method, h⟩, ?_⟩
    by_cases hlength : payload.length < 11
    · exact if_pos (Or.inl hlength)
    · obtain ⟨version, requestId, code, rest, rfl⟩ := exists_headerBytes (Nat.le_of_not_lt hlength)
      rw [recoverCorrelation_headerBytes]
      split
      · rfl
      · rename_i hversion
        split
        · rfl
        · rename_i method hmethod
          split
          · rfl
          · rename_i hne
            refine absurd ⟨requestId, method, hne, rest, ?_⟩ hheader
            rw [not_not.mp hversion, Method.code_of_ofCode? hmethod]

/-- Nothing but the first eleven bytes matters. -/
theorem recoverCorrelation_take (payload : Bytes) :
    recoverCorrelation (some (payload.take 11)) = recoverCorrelation (some payload) := by
  by_cases hlength : payload.length < 11
  · rw [List.take_of_length_le (Nat.le_of_lt hlength)]
  · obtain ⟨version, requestId, code, rest, rfl⟩ := exists_headerBytes (Nat.le_of_not_lt hlength)
    have htake : (headerBytes version requestId code ++ rest).take 11 =
        headerBytes version requestId code ++ [] := by
      rw [List.append_nil, ← length_headerBytes version requestId code, List.take_left]
    rw [htake, recoverCorrelation_headerBytes, recoverCorrelation_headerBytes]

variable [Kernel]

/-! ## The header as the decoders read it -/

/-- A payload that was decoded was read by its fields. -/
theorem fields_of_start {α : Type} {fields : Decoder α} {payload : Bytes} {value : α}
    (h : (fields.whole.start payload).1 = .ok value) :
    ∃ state, fields ⟨payload, []⟩ = .ok value state := by
  obtain ⟨-, state, hwhole⟩ := start_eq_ok.mp h
  obtain ⟨value', s₁, hfields, hend⟩ := Reader.bind_eq_ok hwhole
  obtain ⟨_, s₂, -, hpure⟩ := Reader.bind_eq_ok hend
  cases hpure
  exact ⟨s₁, hfields⟩

theorem decodeMethod_eq_ok {raw : UInt8} {method : Method} {s s' : ReaderState CountObservation}
    (h : decodeMethod raw s = .ok method s') : raw = method.code ∧ s' = s := by
  unfold decodeMethod at h
  cases hmethod : Method.ofCode? raw with
  | some found =>
    rw [hmethod] at h
    cases h
    exact ⟨(Method.code_of_ofCode? hmethod).symm, rfl⟩
  | none =>
    rw [hmethod] at h
    cases h

/-- The three fields of a header, read one after the other. -/
theorem header_eq_ok {s s₁ s₂ s₃ : ReaderState CountObservation} {version : UInt16}
    {requestId : UInt64} {code : UInt8} (hversion : Decoder.u16 s = .ok version s₁)
    (hid : Decoder.u64 s₁ = .ok requestId s₂) (hcode : Decoder.u8 s₂ = .ok code s₃) :
    s.unread = headerBytes version requestId code ++ s₃.unread := by
  rw [headerBytes, Decoder.u16_eq_ok hversion, Decoder.u64_eq_ok hid, Decoder.u8_eq_ok hcode,
    List.append_assoc, List.append_assoc]
  rfl

open Decoder in
/-- The part of `decode_request` that reads the header. -/
def requestHeader : Decoder (UInt64 × Method) := do
  let version ← u16
  throwIf (version ≠ protocolVersion) "wire protocol version is not three"
  let requestId ← u64
  throwIf (requestId = 0) "wire request id must be nonzero"
  let method ← decodeMethod (← u8)
  return (requestId, method)

theorem requestFields_eq (fence : Fence) :
    requestFields fence = requestHeader >>= fun header =>
      decodeRequestBody fence
        { (default : Request) with requestId := header.1, method := header.2 } := by
  simp only [requestFields, requestHeader, bind_assoc, pure_bind]

/-- The decoder of requests is past the header exactly on a valid one. -/
theorem requestHeader_eq_ok {s s' : ReaderState CountObservation} {requestId : UInt64}
    {method : Method} (h : requestHeader s = .ok (requestId, method) s') :
    HasHeader s.unread requestId method := by
  obtain ⟨version, s₁, hversion, h⟩ := Reader.bind_eq_ok h
  obtain ⟨hthree, h⟩ := Reader.throwIf_bind_eq_ok h
  obtain ⟨id, s₂, hid, h⟩ := Reader.bind_eq_ok h
  obtain ⟨hne, h⟩ := Reader.throwIf_bind_eq_ok h
  obtain ⟨code, s₃, hcode, h⟩ := Reader.bind_eq_ok h
  obtain ⟨method', s₄, hmethod, hpure⟩ := Reader.bind_eq_ok h
  obtain ⟨rfl, -⟩ := decodeMethod_eq_ok hmethod
  cases hpure
  refine ⟨of_decide_eq_false hne, s₃.unread, ?_⟩
  rw [← not_not.mp (of_decide_eq_false hthree)]
  exact (header_eq_ok hversion hid hcode).symm

/-- The fields that the body of a request leaves alone. -/
theorem decodeRequestBody_header {fence : Fence} {request request' : Request}
    {s s' : ReaderState CountObservation}
    (h : decodeRequestBody fence request s = .ok request' s') :
    request'.requestId = request.requestId ∧ request'.method = request.method := by
  obtain ⟨requestId, method, document, sessionId, jobId, submitOptions⟩ := request
  cases method with
  | daemonInfo | daemonShutdown =>
    cases h
    exact ⟨rfl, rfl⟩
  | _ =>
    obtain ⟨value, s₁, -, hpure⟩ := Reader.bind_eq_ok h
    cases hpure
    exact ⟨rfl, rfl⟩

/-- A request that was decoded has the header that is recovered from its payload. -/
theorem hasHeader_of_decodeRequest {payload : Bytes} {request : Request}
    (h : decodeRequest payload = .ok request) :
    HasHeader payload request.requestId request.method := by
  obtain ⟨s₁, hfields⟩ := fields_of_start h
  rw [requestFields_eq] at hfields
  obtain ⟨⟨requestId, method⟩, s₂, hheader, hbody⟩ := Reader.bind_eq_ok hfields
  obtain ⟨hid, hmethod⟩ := decodeRequestBody_header hbody
  rw [hid, hmethod]
  exact requestHeader_eq_ok hheader

/-- A request that was encoded has its header in front. -/
theorem hasHeader_of_encodeRequest {request : Request} {payload : Bytes}
    (h : encodeRequest request = .ok payload) :
    HasHeader payload request.requestId request.method := by
  obtain ⟨hid, hmethod⟩ := request.selected_header
  have hheader := hasHeader_of_decodeRequest (decodeRequest_of_encodeRequest h).1
  rwa [hid, hmethod] at hheader

theorem decodeResponseBody_header {fence : Fence} {response response' : Response}
    {s s' : ReaderState CountObservation}
    (h : decodeResponseBody fence response s = .ok response' s') :
    response'.requestId = response.requestId ∧ response'.method = response.method := by
  obtain ⟨requestId, method, status, sessionId, jobId, jobStatus, executionResult, daemonInfo, _⟩ :=
    response
  cases method with
  | sessionClose | jobCancel | jobRelease | daemonShutdown =>
    cases h
    exact ⟨rfl, rfl⟩
  | _ =>
    obtain ⟨value, s₁, -, hpure⟩ := Reader.bind_eq_ok h
    cases hpure
    exact ⟨rfl, rfl⟩

/-- A response is only accepted under the correlation that was asked for. -/
theorem hasHeader_of_decodeResponse {payload : Bytes} {method : Method} {requestId : UInt64}
    {response : Response} (h : decodeResponse payload method requestId = .ok response) :
    HasHeader payload requestId method ∧ response.requestId = requestId ∧
      response.method = method := by
  unfold decodeResponse decodeResponseWith at h
  split at h
  · cases h
  · rename_i hexpected
    simp only [Bool.or_eq_true, decide_eq_true_eq, not_or] at hexpected
    obtain ⟨state, hfields⟩ := fields_of_start h
    obtain ⟨version, s₁, hversion, hfields⟩ := Reader.bind_eq_ok hfields
    obtain ⟨hthree, hfields⟩ := Reader.throwIf_bind_eq_ok hfields
    obtain ⟨id, s₂, hid, hfields⟩ := Reader.bind_eq_ok hfields
    obtain ⟨code, s₃, hcode, hfields⟩ := Reader.bind_eq_ok hfields
    obtain ⟨method', s₄, hmethod, hfields⟩ := Reader.bind_eq_ok hfields
    obtain ⟨hmatch, hfields⟩ := Reader.throwIf_bind_eq_ok hfields
    obtain ⟨status, s₅, -, hbody⟩ := Reader.bind_eq_ok hfields
    simp only [Bool.or_eq_false_iff, decide_eq_false_iff_not, not_not] at hthree hmatch
    obtain ⟨rfl, rfl⟩ := hmatch
    obtain ⟨rfl, -⟩ := decodeMethod_eq_ok hmethod
    refine ⟨⟨hexpected.1, s₃.unread, ?_⟩, ?_⟩
    · rw [← hthree]
      exact (header_eq_ok hversion hid hcode).symm
    · dsimp only at hbody
      split at hbody
      · exact decodeResponseBody_header hbody
      · cases hbody
        exact ⟨rfl, rfl⟩

/-! ## Protocol errors -/

open Encoder in
/-- Everything `encode_protocol_error` writes. -/
def protocolErrorEncoder (status : Status) (correlation : RecoveredCorrelation) : Encoder := do
  throwIf status.ok .invalidArgument "protocol error response cannot carry success"
  u16 protocolVersion
  u64 correlation.requestId
  u8 correlation.method.code
  encodeStatus status

/-- `encode_protocol_error`. -/
def encodeProtocolError (status : Status) (requestPayload : Option Bytes) : Except Status Bytes :=
  (protocolErrorEncoder status (recoverCorrelation requestPayload)).finish

open Decoder in
/-- Everything `decode_protocol_error` reads. -/
def protocolErrorFields : Decoder Response := do
  let version ← u16
  throwIf (version ≠ protocolVersion) "protocol error response version is not three"
  let requestId ← u64
  let method ← decodeMethod (← u8)
  let status ← decodeStatus
  return { (default : Response) with requestId, method, status }

open Decoder in
/-- `decode_protocol_error`. -/
def decodeProtocolError (payload : Bytes) : Except Status Response :=
  (Decoder.start (do
    let response ← protocolErrorFields.whole
    throwIf (response.status.ok || (response.requestId = 0 && response.method ≠ .daemonInfo))
      "protocol error response status or sentinel is invalid"
    return response) payload).1

/-- The response that a protocol error stands for. -/
def failedResponse (correlation : RecoveredCorrelation) (status : Status) : Response :=
  { (default : Response) with
    requestId := correlation.requestId, method := correlation.method, status := status }

/-- What stands in front of a protocol error. -/
theorem headerBytes_of_protocolErrorFields {s s' : ReaderState CountObservation}
    {response : Response} (h : protocolErrorFields s = .ok response s') :
    headerBytes protocolVersion response.requestId response.method.code <+: s.unread := by
  obtain ⟨version, s₁, hversion, h⟩ := Reader.bind_eq_ok h
  obtain ⟨hthree, h⟩ := Reader.throwIf_bind_eq_ok h
  obtain ⟨id, s₂, hid, h⟩ := Reader.bind_eq_ok h
  obtain ⟨code, s₃, hcode, h⟩ := Reader.bind_eq_ok h
  obtain ⟨method, s₄, hmethod, h⟩ := Reader.bind_eq_ok h
  obtain ⟨status, s₅, -, hpure⟩ := Reader.bind_eq_ok h
  obtain ⟨rfl, -⟩ := decodeMethod_eq_ok hmethod
  cases hpure
  rw [← not_not.mp (of_decide_eq_false hthree), header_eq_ok hversion hid hcode]
  exact List.prefix_append _ _

theorem roundTrip_protocolError (status : Status) (correlation : RecoveredCorrelation) :
    WireRoundTrip (protocolErrorEncoder status correlation) protocolErrorFields
      (failedResponse correlation status) := by
  refine RoundTrip.guard_left fun _ => (roundTrip_u16 _).bind ?_
  refine RoundTrip.guard_right (by decide) ((roundTrip_u64 _).bind ((roundTrip_u8 _).bind ?_))
  exact RoundTrip.read_nil (reads_decodeMethod _) ((roundTrip_status _).bind_right (Reads.pure _))

/-- A protocol error under a correlation is what `decode_response` expects under it. -/
theorem roundTrip_failedReply (status : Status) (correlation : RecoveredCorrelation) :
    WireRoundTrip (protocolErrorEncoder status correlation)
      (responseFields unfenced correlation.method correlation.requestId)
      (failedResponse correlation status) := by
  refine RoundTrip.guard_left fun hfailed => (roundTrip_u16 _).bind ?_
  refine RoundTrip.guard_right (by decide) ((roundTrip_u64 _).bind ((roundTrip_u8 _).bind ?_))
  refine RoundTrip.read_nil (reads_decodeMethod _) (RoundTrip.guard_right (by simp) ?_)
  refine (roundTrip_status _).bind_right ?_
  simp only [hfailed]
  exact Reads.pure _

omit [Kernel] in
theorem validMethod_code (method : Method) : validMethod method.code = true := by
  cases method <;> decide

section Written

variable {status : Status} {requestPayload : Option Bytes} {reply : Bytes}

/-- A success is no protocol error. -/
theorem encodeProtocolError_not_ok (h : encodeProtocolError status requestPayload = .ok reply) :
    status.ok = false := by
  by_contra hok
  rw [Bool.not_eq_false] at hok
  have hrun := finish_eq_ok.mp h
  rw [protocolErrorEncoder, hok] at hrun
  cases hrun

theorem protocolErrorFields_of_encode (h : encodeProtocolError status requestPayload = .ok reply) :
    Reads protocolErrorFields reply (failedResponse (recoverCorrelation requestPayload) status) ∧
      reply.length ≤ maximumFramePayloadBytes := by
  obtain ⟨bs, hbs, hlength, hreads⟩ := roundTrip_protocolError status
    (recoverCorrelation requestPayload) [] reply (Nat.zero_le _) (finish_eq_ok.mp h)
  rw [List.nil_append] at hbs
  subst hbs
  exact ⟨hreads, hlength⟩

omit [Kernel] in
/-- A recovered correlation is a request's, or the sentinel. -/
theorem recoverCorrelation_eq_sentinel (hid : (recoverCorrelation requestPayload).requestId = 0) :
    recoverCorrelation requestPayload = .sentinel := by
  cases requestPayload with
  | none => rfl
  | some payload =>
    rcases recoverCorrelation_cases payload with ⟨requestId, method, hheader, heq⟩ | ⟨-, heq⟩
    · rw [heq] at hid
      exact absurd hid hheader.1
    · exact heq

theorem length_of_encodeProtocolError (h : encodeProtocolError status requestPayload = .ok reply) :
    11 ≤ reply.length ∧ reply.length ≤ maximumFramePayloadBytes := by
  obtain ⟨hreads, hlength⟩ := protocolErrorFields_of_encode h
  obtain ⟨observed, hrun⟩ := hreads [] []
  have hheader := (headerBytes_of_protocolErrorFields hrun).length_le
  rw [length_headerBytes, List.append_nil] at hheader
  exact ⟨hheader, hlength⟩

theorem decodeProtocolError_of_encode (h : encodeProtocolError status requestPayload = .ok reply) :
    decodeProtocolError reply =
      .ok (failedResponse (recoverCorrelation requestPayload) status) := by
  obtain ⟨hreads, hlength⟩ := protocolErrorFields_of_encode h
  obtain ⟨observed, hwhole⟩ := whole_of_reads hreads
  have hvalid : ((failedResponse (recoverCorrelation requestPayload) status).status.ok ||
      (decide ((failedResponse (recoverCorrelation requestPayload) status).requestId = 0) &&
        decide ((failedResponse (recoverCorrelation requestPayload) status).method ≠
          .daemonInfo))) =
      false := by
    rw [Bool.or_eq_false_iff, Bool.and_eq_false_iff, decide_eq_false_iff_not,
      decide_eq_false_iff_not, not_not]
    refine ⟨encodeProtocolError_not_ok h, ?_⟩
    by_cases hid : (recoverCorrelation requestPayload).requestId = 0
    · exact Or.inr (congrArg RecoveredCorrelation.method (recoverCorrelation_eq_sentinel hid))
    · exact Or.inl hid
  refine start_eq_ok.mpr ⟨hlength, ⟨[], observed⟩, ?_⟩
  rw [Reader.bind_ok hwhole, Decoder.throwIf, hvalid]
  rfl

/-- A reply under a request's correlation is an ordinary failed response to it. -/
theorem decodeResponse_of_encodeProtocolError
    (h : encodeProtocolError status requestPayload = .ok reply)
    (hid : (recoverCorrelation requestPayload).requestId ≠ 0) :
    decodeResponse reply (recoverCorrelation requestPayload).method
      (recoverCorrelation requestPayload).requestId =
      .ok (failedResponse (recoverCorrelation requestPayload) status) := by
  have hstart := (start_of_roundTrip (roundTrip_failedReply status _)
    (guarded_responseFields _ _) h).1
  rw [decodeResponse, decodeResponseWith, if_neg (by simp [hid, validMethod_code])]
  exact hstart

/-- The sentinel answers no request. -/
theorem decodeResponse_of_sentinel (h : encodeProtocolError status requestPayload = .ok reply)
    (hsentinel : recoverCorrelation requestPayload = .sentinel) (method : Method)
    (requestId : UInt64) : ∃ failure, decodeResponse reply method requestId = .error failure := by
  cases hdecode : decodeResponse reply method requestId with
  | error failure => exact ⟨failure, rfl⟩
  | ok response =>
    obtain ⟨hheader, -⟩ := hasHeader_of_decodeResponse hdecode
    obtain ⟨observed, hrun⟩ := (protocolErrorFields_of_encode h).1 [] []
    obtain ⟨rest, hreply⟩ := headerBytes_of_protocolErrorFields hrun
    rw [List.append_nil, hsentinel] at hreply
    change _ = reply at hreply
    have hrecovered := recoverCorrelation_of_hasHeader hheader
    rw [← hreply, recoverCorrelation_headerBytes] at hrecovered
    exact absurd (congrArg RecoveredCorrelation.requestId hrecovered).symm hheader.1

end Written

end PhotospiderDaemon.Ipc
