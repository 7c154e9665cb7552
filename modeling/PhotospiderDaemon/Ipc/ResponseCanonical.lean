import PhotospiderDaemon.Ipc.Canonical

/-!
# The canonical form of responses

A response has one payload. Apart from the result of a job, whose maps may come in any order, no
field leaves any freedom: a payload that `decode_response` accepts is the one that
`encode_response` writes for what it returned, so nobody on the way can change a byte of a response
without changing the response.

* `canonical_status`, `canonical_jobStatus`, `canonical_daemonInfo`: the parts.
* `decodeResponse_canonical`: the result for payloads.
-/

namespace PhotospiderDaemon.Ipc

open Foundation

/-! ## Wire forms -/

def wireStatus (status : Status) : Bytes := [status.code.raw] ++ wireText status.message

def wireJobStatus (status : JobStatus) : Bytes :=
  wireId status.jobId.instance' status.jobId.value ++
    (wireId status.sessionId.instance' status.sessionId.value ++
      ([status.state.code] ++ wireStatus status.outcome))

def wireDaemonInfo (info : DaemonInfo) : Bytes :=
  littleEndian 2 info.protocolVersion.toNat ++ (littleEndian 8 info.instanceId.toNat ++
    (wireText info.serviceVersion ++ (wireText info.transport ++
      ([UInt8.ofNat info.methods.length] ++ (info.methods.flatMap wireText ++
        (littleEndian 8 info.activeSessions.toNat ++ (littleEndian 8 info.activeJobs.toNat ++
          (littleEndian 4 info.maximumConcurrency.toNat ++
            littleEndian 4 info.maximumSessions.toNat))))))))

/-- The form of the fields selected by the method. That of a result is not fixed. -/
def wireResponseBody (response : Response) : Bytes :=
  match response.method with
  | .sessionCreate => wireId response.sessionId.instance' response.sessionId.value
  | .jobSubmit => wireId response.jobId.instance' response.jobId.value
  | .jobStatus => wireJobStatus response.jobStatus
  | .daemonInfo => wireDaemonInfo response.daemonInfo
  | .jobResult | .sessionClose | .jobCancel | .jobRelease | .daemonShutdown => []

variable [Kernel]

def wireResponse (response : Response) : Bytes :=
  littleEndian 2 protocolVersion.toNat ++ (littleEndian 8 response.requestId.toNat ++
    ([response.method.code] ++ (wireStatus response.status ++
      if response.status.ok then wireResponseBody response else [])))

/-! ## Parts -/

theorem canonical_status : Canonical decodeStatus encodeStatus wireStatus := by
  refine canonical_u8.bind ?_
  rintro _ raw ⟨rfl, hraw⟩
  refine Accepts.throwIf_bind fun hknown => (canonical_text 4096).bind ?_
  rintro _ message ⟨rfl, hmessage⟩
  refine Accepts.throwIf_bind fun hempty => ?_
  by_cases hok : (⟨raw⟩ : ErrorCode) = ErrorCode.ok
  · -- A success has no diagnostic.
    have hnil : message = [] := by simpa [hok] using hempty
    subst hnil
    rw [if_pos hok]
    have hcode : Status.success.code.raw = raw := by rw [Status.success, ← hok]
    refine Accepts.pure ⟨?_, Puts.throwIf_bind ?_ ?_⟩
    · rw [wireStatus, hcode]
      simp [Status.success]
    · rw [hcode, hknown]
      simp [Status.success]
    · rw [wireStatus, hcode]
      exact hraw.bind hmessage
  · rw [if_neg hok]
    refine Accepts.pure ⟨?_, Puts.throwIf_bind ?_ (hraw.bind hmessage)⟩
    · simp [wireStatus, Status.failure]
    · simp [Status.failure, Status.ok, hok, hknown]

theorem accepts_decodeJobState (raw : UInt8) :
    Accepts (decodeJobState raw) fun bs state => bs = [] ∧ state.code = raw := by
  unfold decodeJobState
  split
  · rename_i state hstate
    exact Accepts.pure ⟨rfl, by simpa using List.find?_some hstate⟩
  · exact Accepts.throw

theorem canonical_jobStatus : Canonical decodeJobStatus encodeJobStatus wireJobStatus := by
  refine canonical_u64.bind ?_
  rintro _ jobInstance ⟨rfl, hjobInstance⟩
  refine canonical_u64.bind ?_
  rintro _ jobValue ⟨rfl, hjobValue⟩
  refine canonical_u64.bind ?_
  rintro _ sessionInstance ⟨rfl, hsessionInstance⟩
  refine canonical_u64.bind ?_
  rintro _ sessionValue ⟨rfl, hsessionValue⟩
  refine canonical_u8.bind ?_
  rintro _ raw ⟨rfl, hraw⟩
  refine (accepts_decodeJobState raw).bind ?_
  rintro _ state ⟨rfl, rfl⟩
  refine canonical_status.bind ?_
  rintro _ outcome ⟨rfl, houtcome⟩
  refine Accepts.throwIf_bind fun hvalid => Accepts.pure ⟨?_, Puts.throwIf_bind hvalid ?_⟩
  · simp only [wireJobStatus, wireId, List.append_assoc, List.append_nil, List.nil_append]
  · simp only [wireJobStatus, wireId, List.append_assoc]
    exact hjobInstance.bind (hjobValue.bind (hsessionInstance.bind (hsessionValue.bind
      (hraw.bind houtcome))))

theorem canonical_daemonInfo :
    Canonical (decodeDaemonInfo fenced) encodeDaemonInfo wireDaemonInfo := by
  refine canonical_u16.bind ?_
  rintro _ version ⟨rfl, hversion⟩
  refine canonical_u64.bind ?_
  rintro _ instanceId ⟨rfl, hinstanceId⟩
  refine (canonical_text 128).bind ?_
  rintro _ serviceVersion ⟨rfl, hserviceVersion⟩
  refine (canonical_text 64).bind ?_
  rintro _ transport ⟨rfl, htransport⟩
  refine canonical_u8.bind ?_
  rintro _ count ⟨rfl, hcount⟩
  refine Accepts.throwIf_bind fun hbound => (accepts_fenced _ _).bind ?_
  rintro _ _ rfl
  refine ((canonical_text 64).many count.toNat).bind ?_
  rintro _ methods ⟨hlength, rfl, hmethods⟩
  refine canonical_u64.bind ?_
  rintro _ activeSessions ⟨rfl, hactiveSessions⟩
  refine canonical_u64.bind ?_
  rintro _ activeJobs ⟨rfl, hactiveJobs⟩
  refine canonical_u32.bind ?_
  rintro _ maximumConcurrency ⟨rfl, hmaximumConcurrency⟩
  refine canonical_u32.bind ?_
  rintro _ maximumSessions ⟨rfl, hmaximumSessions⟩
  have hsize : UInt8.ofNat methods.length = count := by rw [hlength, UInt8.ofNat_toNat]
  refine Accepts.throwIf_bind fun hvalid => Accepts.pure ⟨?_, Puts.throwIf_bind hvalid ?_⟩
  · simp only [wireDaemonInfo, hsize, List.append_nil, List.nil_append]
  · have hfew : decide (methods.length > 16) = false := by
      have hle : count.toNat ≤ 16 := by simpa [UInt8.lt_iff_toNat_lt] using hbound
      rw [decide_eq_false_iff_not]
      omega
    have hcount' :
        WirePuts (Encoder.u8 (UInt8.ofNat methods.length)) [UInt8.ofNat methods.length] := by
      rw [hsize]
      exact hcount
    exact hversion.bind (hinstanceId.bind (hserviceVersion.bind (htransport.bind
      (Puts.throwIf_bind hfew (hcount'.bind (hmethods.bind (hactiveSessions.bind
        (hactiveJobs.bind (hmaximumConcurrency.bind hmaximumSessions)))))))))

/-! ## Responses -/

/-- What the decoder of responses accepted: the wire form of a response whose other fields are as
constructed, and which the encoder writes. -/
def ResponseForm (bs : Bytes) (response : Response) : Prop :=
  response.selected = response ∧ bs = wireResponse response ∧
    WirePuts (responseEncoder response) (wireResponse response)

theorem accepts_decodeResponseBody (requestId : UInt64) {method : Method} {status : Status}
    (hok : status.ok = true) (hmethod : method ≠ .jobResult) :
    Accepts (decodeResponseBody fenced { (default : Response) with requestId, method, status })
      fun bs response => response.selected = response ∧ response.requestId = requestId ∧
        response.method = method ∧ response.status = status ∧ bs = wireResponseBody response ∧
        WirePuts (encodeResponseBody response) (wireResponseBody response) := by
  cases method with
  | sessionCreate =>
    refine canonical_sessionId.bind ?_
    rintro _ id ⟨rfl, hputs⟩
    exact Accepts.pure ⟨if_pos hok, rfl, rfl, rfl, List.append_nil _, hputs⟩
  | jobSubmit =>
    refine canonical_jobId.bind ?_
    rintro _ id ⟨rfl, hputs⟩
    exact Accepts.pure ⟨if_pos hok, rfl, rfl, rfl, List.append_nil _, hputs⟩
  | jobStatus =>
    refine canonical_jobStatus.bind ?_
    rintro _ jobStatus ⟨rfl, hputs⟩
    exact Accepts.pure ⟨if_pos hok, rfl, rfl, rfl, List.append_nil _, hputs⟩
  | jobResult => exact absurd rfl hmethod
  | daemonInfo =>
    refine canonical_daemonInfo.bind ?_
    rintro _ info ⟨rfl, hputs⟩
    exact Accepts.pure ⟨if_pos hok, rfl, rfl, rfl, List.append_nil _, hputs⟩
  | sessionClose | jobCancel | jobRelease | daemonShutdown =>
    exact Accepts.pure ⟨if_pos hok, rfl, rfl, rfl, rfl, Puts.pure⟩

/-- What comes in front of the fields selected by the method. -/
def responseHeader (expectedMethod : Method) (expectedRequestId : UInt64) :
    Decoder (UInt64 × Method × Status) := do
  let version ← Decoder.u16
  Decoder.throwIf (version ≠ protocolVersion) "response protocol version is not three"
  let requestId ← Decoder.u64
  let method ← decodeMethod (← Decoder.u8)
  Decoder.throwIf (requestId ≠ expectedRequestId || method ≠ expectedMethod)
    "response correlation does not match request"
  let status ← decodeStatus
  return (requestId, method, status)

/-- The fields that follow, by any decoder for those of a success. -/
def responseRest (body : Response → Decoder Response) (header : UInt64 × Method × Status) :
    Decoder Response :=
  let response : Response :=
    { (default : Response) with requestId := header.1, method := header.2.1, status := header.2.2 }
  if response.status.ok then body response else return response

theorem responseFields_eq (fence : Fence) (method : Method) (requestId : UInt64) :
    responseFields fence method requestId =
      responseHeader method requestId >>= responseRest (decodeResponseBody fence) := by
  simp only [responseFields, responseHeader, responseRest, bind_assoc, pure_bind]

theorem accepts_responseHeader (method : Method) {requestId : UInt64} (hnonzero : requestId ≠ 0) :
    Accepts (responseHeader method requestId) fun bs header =>
      header.1 = requestId ∧ header.2.1 = method ∧
      bs = littleEndian 2 protocolVersion.toNat ++ (littleEndian 8 requestId.toNat ++
        ([method.code] ++ wireStatus header.2.2)) ∧
      ∀ {encoder : Encoder} {form : Bytes}, WirePuts encoder form → WirePuts (do
        Encoder.throwIf (requestId = 0 || !validMethod method.code) .invalidArgument
          "wire response id or method is invalid"
        Encoder.u16 protocolVersion
        Encoder.u64 requestId
        Encoder.u8 method.code
        encodeStatus header.2.2
        encoder) (bs ++ form) := by
  refine canonical_u16.bind ?_
  rintro _ version ⟨rfl, hversion⟩
  refine Accepts.throwIf_bind fun hthree => canonical_u64.bind ?_
  obtain rfl : version = protocolVersion := by simpa using hthree
  rintro _ id ⟨rfl, hid⟩
  refine canonical_u8.bind ?_
  rintro _ raw ⟨rfl, hraw⟩
  refine (accepts_decodeMethod raw).bind ?_
  rintro _ method' ⟨rfl, rfl⟩
  refine Accepts.throwIf_bind fun hmatch => canonical_status.bind ?_
  simp only [Bool.or_eq_false_iff, decide_eq_false_iff_not, not_not] at hmatch
  obtain ⟨rfl, rfl⟩ := hmatch
  rintro _ status ⟨rfl, hstatus⟩
  refine Accepts.pure ⟨rfl, rfl, by simp, fun hputs => Puts.throwIf_bind ?_ ?_⟩
  · simp [hnonzero, validMethod_code]
  · simpa using hversion.bind (hid.bind (hraw.bind (hstatus.bind hputs)))

theorem accepts_responseRest {method : Method} {requestId : UInt64} {status : Status}
    {body : Response → Decoder Response}
    (hbody : status.ok = true → Accepts
      (body { (default : Response) with requestId, method, status }) fun bs response =>
        response.selected = response ∧ response.requestId = requestId ∧
        response.method = method ∧ response.status = status ∧ bs = wireResponseBody response ∧
        WirePuts (encodeResponseBody response) (wireResponseBody response)) :
    Accepts (responseRest body (requestId, method, status)) fun bs response =>
      response.selected = response ∧ response.requestId = requestId ∧
      response.method = method ∧ response.status = status ∧
      bs = (if response.status.ok then wireResponseBody response else []) ∧
      WirePuts (if response.status.ok then encodeResponseBody response else pure ()) bs := by
  unfold responseRest
  dsimp only
  by_cases hok : status.ok = true
  · rw [if_pos hok]
    refine (hbody hok).mono ?_
    rintro _ response ⟨hselected, rfl, rfl, rfl, rfl, hputs⟩
    rw [if_pos hok, if_pos hok]
    exact ⟨hselected, rfl, rfl, rfl, rfl, hputs⟩
  · rw [if_neg hok]
    refine Accepts.pure ⟨if_neg hok, rfl, rfl, rfl, ?_, ?_⟩
    · rw [if_neg hok]
    · rw [if_neg hok]
      exact Puts.pure

theorem accepts_response {method : Method} {requestId : UInt64} (hnonzero : requestId ≠ 0)
    {body : Response → Decoder Response}
    (hbody : ∀ {status : Status}, status.ok = true → Accepts
      (body { (default : Response) with requestId, method, status }) fun bs response =>
        response.selected = response ∧ response.requestId = requestId ∧
        response.method = method ∧ response.status = status ∧ bs = wireResponseBody response ∧
        WirePuts (encodeResponseBody response) (wireResponseBody response)) :
    Accepts (responseHeader method requestId >>= responseRest body) ResponseForm := by
  refine (accepts_responseHeader method hnonzero).bind ?_
  rintro header ⟨_, _, status⟩ ⟨rfl, rfl, hform, hheader⟩
  refine (accepts_responseRest hbody).mono ?_
  rintro rest response ⟨hselected, rfl, rfl, rfl, hrest, hputs⟩
  have hwhole : header ++ rest = wireResponse response := by
    simp only [hform, hrest, wireResponse, List.append_assoc]
  exact ⟨hselected, hwhole, hwhole ▸ hheader hputs⟩

/-- The status of a response is in its header. -/
theorem status_of_body {fence : Fence} {response response' : Response}
    {s s' : ReaderState CountObservation}
    (h : decodeResponseBody fence response s = .ok response' s') :
    response'.status = response.status := by
  obtain ⟨requestId, method, status, sessionId, jobId, jobStatus, executionResult, daemonInfo, _⟩ :=
    response
  cases method with
  | sessionClose | jobCancel | jobRelease | daemonShutdown =>
    cases h
    rfl
  | _ =>
    obtain ⟨value, s₁, -, hpure⟩ := Reader.bind_eq_ok h
    cases hpure
    rfl

/-- When a response reports a failure, the decoder of the other fields has not been used. -/
theorem run_of_failed {method : Method} {requestId : UInt64} {response : Response}
    {s s' : ReaderState CountObservation}
    (hrun : responseFields fenced method requestId s = .ok response s')
    (hfailed : response.status.ok = false) (body : Response → Decoder Response) :
    (responseHeader method requestId >>= responseRest body) s = .ok response s' := by
  rw [responseFields_eq] at hrun
  obtain ⟨⟨id, method', status⟩, s₁, hheader, hrest⟩ := Reader.bind_eq_ok hrun
  rw [Reader.bind_ok hheader]
  unfold responseRest at hrest ⊢
  dsimp only at hrest ⊢
  split at hrest
  · rename_i hok
    rw [status_of_body hrest] at hfailed
    cases hok.symm.trans hfailed
  · rw [if_neg ‹_›]
    exact hrest

/-- An accepted payload is a wire form. -/
theorem responseForm_of_decodeResponse {payload : Bytes} {method : Method} {requestId : UInt64}
    {response : Response} (h : decodeResponse payload method requestId = .ok response)
    (hmethod : response.status.ok = true → method ≠ .jobResult) :
    payload.length ≤ maximumFramePayloadBytes ∧ ResponseForm payload response := by
  unfold decodeResponse decodeResponseWith at h
  split at h
  · cases h
  · rename_i hexpected
    simp only [Bool.or_eq_true, decide_eq_true_eq, not_or] at hexpected
    obtain ⟨hlength, state, hrun⟩ := start_eq_ok.mp h
    refine ⟨hlength, ?_⟩
    by_cases hjob : method = .jobResult
    · have hfailed : response.status.ok = false := by
        rw [← Bool.not_eq_true]
        exact fun hok => hmethod hok hjob
      obtain ⟨response', s₁, hfields, hend⟩ := Reader.bind_eq_ok hrun
      obtain rfl : response' = response := by
        obtain ⟨_, s₂, -, hpure⟩ := Reader.bind_eq_ok hend
        cases hpure
        rfl
      have hrun' : (responseHeader method requestId >>= responseRest fun _ => Decoder.fail "").whole
          ⟨payload, []⟩ = .ok response' state := by
        rw [Decoder.whole, Reader.bind_ok (run_of_failed hfields hfailed _)]
        exact hend
      exact accepted_whole (accepts_response hexpected.1 fun _ => Accepts.throw) hrun'
    · rw [responseFields_eq] at hrun
      exact accepted_whole
        (accepts_response hexpected.1 fun hok => accepts_decodeResponseBody _ hok hjob) hrun

/-- The wire form of responses is canonical, apart from results: an accepted payload is what
`encode_response` writes for the response, so no two payloads stand for one response. -/
theorem decodeResponse_canonical {payload : Bytes} {method : Method} {requestId : UInt64}
    {response : Response} (h : decodeResponse payload method requestId = .ok response)
    (hmethod : response.status.ok = true → method ≠ .jobResult) :
    response.selected = response ∧ encodeResponse response = .ok payload ∧
      ∀ payload', decodeResponse payload' method requestId = .ok response → payload' = payload := by
  obtain ⟨hlength, hselected, rfl, hputs⟩ := responseForm_of_decodeResponse h hmethod
  refine ⟨hselected, finish_of_puts hputs hlength, fun payload' h' => ?_⟩
  obtain ⟨-, -, hform, -⟩ := responseForm_of_decodeResponse h' hmethod
  exact hform

/-- The answer to a `job.status` about a running job. -/
def runningPayload : Bytes :=
  [3, 0] ++ [7, 0, 0, 0, 0, 0, 0, 0] ++ [4] ++ [0, 0, 0, 0, 0] ++
    [9, 0, 0, 0, 0, 0, 0, 0] ++ [1, 0, 0, 0, 0, 0, 0, 0] ++
    [9, 0, 0, 0, 0, 0, 0, 0] ++ [2, 0, 0, 0, 0, 0, 0, 0] ++ [2] ++ [0, 0, 0, 0, 0]

omit [Kernel] in
theorem decodeResponse_canonical_running :
    letI := sampleKernel
    ∃ response, decodeResponse runningPayload .jobStatus 7 = .ok response ∧
      response.jobStatus.state = .running ∧ encodeResponse response = .ok runningPayload := by
  let _ : Kernel := sampleKernel
  have hdecode : decodeResponse runningPayload .jobStatus 7 = .ok _ := rfl
  exact ⟨_, hdecode, rfl, (decodeResponse_canonical hdecode nofun).2.1⟩

end PhotospiderDaemon.Ipc
