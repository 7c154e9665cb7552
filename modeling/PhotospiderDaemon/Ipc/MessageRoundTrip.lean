import PhotospiderDaemon.Ipc.CountFences

/-!
# Round trips of messages

What `encode_request` and `encode_response` write, `decode_request` and `decode_response`
read back, except for results of jobs, which have a module of their own. The argument is on
the decoders without fences, one lemma for each encoder; the fences are added at the end,
because they decide nothing.

* `roundTrip_document`, `roundTrip_status`, `roundTrip_jobStatus`, `roundTrip_daemonInfo`.
* `start_of_roundTrip`: from the fields to a payload.
* `decodeRequest_of_encodeRequest`, `decodeResponse_of_encodeResponse`: requests, and all responses
  but results.
-/

namespace PhotospiderDaemon.Ipc

open Foundation

variable [Kernel]

/-! ## Workflow documents -/

theorem roundTrip_parameter (value : ParameterValue) :
    WireRoundTrip (encodeParameter value) decodeParameter value := by
  cases value with
  | integer value => exact (roundTrip_u8 1).bind ((roundTrip_i64 value).map ParameterValue.integer)
  | floating value =>
    exact (roundTrip_u8 2).bind ((roundTrip_f64 value).map ParameterValue.floating)
  | boolean value =>
    exact (roundTrip_u8 3).bind ((roundTrip_boolean value).map ParameterValue.boolean)
  | text value => exact (roundTrip_u8 4).bind ((roundTrip_text value _).map ParameterValue.text)

theorem roundTrip_input (input : WorkflowInput) :
    WireRoundTrip (encodeInput input) decodeInput input := by
  cases input with
  | nodeOutput source =>
    exact (roundTrip_u64 _).bind ((roundTrip_text _ _).bind_right (Reads.pure _))
  | inputReference id => exact Emits.throw

theorem roundTrip_output (output : WorkflowOutput) :
    WireRoundTrip (encodeOutput output) decodeOutput output :=
  (roundTrip_text _ _).bind
    ((roundTrip_u64 _).bind ((roundTrip_text _ _).bind_right (Reads.pure _)))

theorem roundTrip_parameterEntry (entry : Bytes × ParameterValue)
    {parameters : OrderedMap Bytes ParameterValue}
    (hnew : (parameters.emplace entry.1 entry.2).2 = true) :
    WireRoundTrip (do Encoder.text entry.1 1024; encodeParameter entry.2)
      (decodeParameterEntry parameters) (parameters.emplace entry.1 entry.2).1 := by
  refine (roundTrip_text _ _).bind ((roundTrip_parameter _).bind_right ?_)
  exact (Reads.throwIf (by simp [hnew]) _).bind_nil (Reads.pure _)

theorem roundTrip_node (node : WorkflowNode) :
    WireRoundTrip (encodeNode node) (decodeNode unfenced) node := by
  refine RoundTrip.guard_left fun hguard => ?_
  simp only [Bool.or_eq_false_iff, decide_eq_false_iff_not, Nat.not_lt] at hguard
  refine (roundTrip_u64 _).bind ((roundTrip_text _ _).bind ?_)
  refine roundTrip_count hguard.1 fun inputCount hinputs => ?_
  rw [hinputs]
  refine (RoundTrip.forM_many fun input _ => roundTrip_input input).bind ?_
  refine roundTrip_count hguard.2 fun parameterCount hparameters => ?_
  rw [hparameters]
  refine RoundTrip.bind_right (RoundTrip.forM_emplace fun entry _ _ hnew => ?_) (Reads.pure _)
  exact roundTrip_parameterEntry entry hnew

theorem roundTrip_document (document : WorkflowDocument) :
    WireRoundTrip (encodeDocument document) (decodeDocument unfenced) document := by
  obtain ⟨schemaVersion, inputs, nodes, outputs⟩ := document
  refine RoundTrip.guard_left fun hcounts => RoundTrip.guard_left fun hinputs => ?_
  simp only [Bool.or_eq_false_iff, decide_eq_false_iff_not, Nat.not_lt] at hcounts
  simp only [Bool.not_eq_false', List.isEmpty_iff] at hinputs
  subst hinputs
  refine (roundTrip_u32 _).bind (roundTrip_count hcounts.1 fun nodeCount hnodes => ?_)
  rw [hnodes]
  refine (RoundTrip.forM_many fun node _ => roundTrip_node node).bind ?_
  refine roundTrip_count hcounts.2 fun outputCount houtputs => ?_
  rw [houtputs]
  exact (RoundTrip.forM_many fun output _ => roundTrip_output output).bind_right (Reads.pure _)

/-! ## Statuses, identities and daemon information -/

theorem roundTrip_status (status : Status) :
    WireRoundTrip (encodeStatus status) decodeStatus status := by
  refine RoundTrip.guard_left fun hguard => ?_
  simp only [Bool.or_eq_false_iff, decide_eq_false_iff_not, Status.ok] at hguard
  refine (roundTrip_u8 _).bind (RoundTrip.guard_right (decide_eq_false hguard.1) ?_)
  refine (roundTrip_text _ _).bind_right ((Reads.throwIf hguard.2 _).bind_nil ?_)
  have hvalue : (if status.code = ErrorCode.ok then Status.success
      else Status.failure status.code status.message) = status := by
    by_cases hok : status.code = ErrorCode.ok
    · simp only [hok, decide_true, Bool.true_and, Bool.not_eq_false', List.isEmpty_iff] at hguard
      rw [if_pos hok, Status.success, ← hok, ← hguard.2]
    · rw [if_neg hok, Status.failure]
  show Reads (pure (if status.code = ErrorCode.ok then Status.success
    else Status.failure status.code status.message)) [] status
  rw [hvalue]
  exact Reads.pure status

theorem roundTrip_sessionId (id : SessionId) :
    WireRoundTrip (encodeSessionId id) decodeSessionId id := by
  refine RoundTrip.guard_left fun hguard => (roundTrip_u64 _).bind ((roundTrip_u64 _).bind_right ?_)
  exact (Reads.throwIf hguard _).bind_nil (Reads.pure _)

theorem roundTrip_jobId (id : JobId) : WireRoundTrip (encodeJobId id) decodeJobId id := by
  refine RoundTrip.guard_left fun hguard => (roundTrip_u64 _).bind ((roundTrip_u64 _).bind_right ?_)
  exact (Reads.throwIf hguard _).bind_nil (Reads.pure _)

theorem reads_decodeMethod (method : Method) : Reads (decodeMethod method.code) [] method := by
  rw [decodeMethod, Method.ofCode?_code]
  exact Reads.pure method

theorem reads_decodeJobState (state : JobState) : Reads (decodeJobState state.code) [] state := by
  rw [decodeJobState, JobState.ofCode?_code]
  exact Reads.pure state

theorem roundTrip_jobStatus (status : JobStatus) :
    WireRoundTrip (encodeJobStatus status) decodeJobStatus status := by
  refine RoundTrip.guard_left fun hguard => ?_
  refine (roundTrip_u64 _).bind ((roundTrip_u64 _).bind ((roundTrip_u64 _).bind ?_))
  refine (roundTrip_u64 _).bind
    ((roundTrip_u8 _).bind (RoundTrip.read_nil (reads_decodeJobState _) ?_))
  exact (roundTrip_status _).bind_right ((Reads.throwIf hguard _).bind_nil (Reads.pure _))

theorem roundTrip_daemonInfo (info : DaemonInfo) :
    WireRoundTrip (encodeDaemonInfo info) (decodeDaemonInfo unfenced) info := by
  refine RoundTrip.guard_left fun hinfo => ?_
  refine (roundTrip_u16 _).bind ((roundTrip_u64 _).bind ((roundTrip_text _ _).bind ?_))
  refine (roundTrip_text _ _).bind (RoundTrip.guard_left fun hmethods => ?_)
  simp only [decide_eq_false_iff_not, Nat.not_lt] at hmethods
  refine (decides_count8 hmethods fun methodCount hcount => ?_).roundTrip trivial
  rw [hcount]
  refine Decides.of_roundTrip ?_
  refine (RoundTrip.forM_many fun method _ => roundTrip_text method 64).bind ?_
  refine (roundTrip_u64 _).bind ((roundTrip_u64 _).bind ((roundTrip_u32 _).bind ?_))
  exact (roundTrip_u32 _).bind_right ((Reads.throwIf hinfo _).bind_nil (Reads.pure _))

/-! ## From fields to payloads -/

theorem finish_eq_ok {encoder : Encoder} {payload : Bytes} :
    encoder.finish = .ok payload ↔ encoder.run [] = .ok ((), payload) := by
  unfold Encoder.finish
  cases h : encoder.run [] with
  | ok written => simp [Prod.ext_iff]
  | error thrown => simp

/-- A payload that the fields consume exactly passes `require_end`. -/
theorem whole_of_reads {α : Type} {fields : Decoder α} {payload : Bytes} {value : α}
    (h : Reads fields payload value) :
    ∃ observed, fields.whole ⟨payload, []⟩ = .ok value ⟨[], observed⟩ := by
  obtain ⟨observed, hrun⟩ := h [] []
  rw [List.append_nil] at hrun
  refine ⟨observed, ?_⟩
  rw [Decoder.whole, Reader.bind_ok hrun]
  rfl

/-- The fields round trip without fences, so the payload is decoded with them. -/
theorem start_of_roundTrip {α : Type} {m : Nat} {encoder : Encoder} {fields fields' : Decoder α}
    {value : α} {payload : Bytes} (hround : WireRoundTrip encoder fields' value)
    (hguard : Guarded CountObservation.Fits m 0 fields fields')
    (hencode : encoder.finish = .ok payload) :
    (fields.whole.start payload).1 = .ok value ∧ m ≤ payload.length ∧
      payload.length ≤ maximumFramePayloadBytes := by
  obtain ⟨bs, hbs, hlength, hreads⟩ := hround [] payload (Nat.zero_le _) (finish_eq_ok.mp hencode)
  rw [List.nil_append] at hbs
  subst hbs
  obtain ⟨observed, hrun⟩ := whole_of_reads hreads
  have hwhole := guarded_whole hguard
  refine ⟨?_, ?_, hlength⟩
  · rw [start_iff_of_guarded hwhole, start_eq_ok]
    exact ⟨hlength, _, hrun⟩
  · simpa using hwhole.consumes _ _ _ hrun

/-! ## Requests -/

/-- The request with only its identity, its method and the fields selected by the method. -/
def Request.selected (request : Request) : Request :=
  let header : Request :=
    { (default : Request) with requestId := request.requestId, method := request.method }
  match request.method with
  | .sessionCreate => { header with document := request.document }
  | .sessionClose => { header with sessionId := request.sessionId }
  | .jobSubmit =>
    { header with sessionId := request.sessionId, submitOptions := request.submitOptions }
  | .jobStatus | .jobCancel | .jobResult | .jobRelease => { header with jobId := request.jobId }
  | .daemonInfo | .daemonShutdown => header

omit [Kernel] in
theorem Request.selected_header (request : Request) :
    request.selected.requestId = request.requestId ∧ request.selected.method = request.method := by
  obtain ⟨_, method, _⟩ := request
  cases method <;> exact ⟨rfl, rfl⟩

theorem roundTrip_submit (id : SessionId) (options : JobSubmitOptions) :
    WireRoundTrip (encodeSubmit id options) decodeSubmit (id, options) := by
  refine RoundTrip.guard_left fun hguard => (roundTrip_u64 _).bind ((roundTrip_u64 _).bind ?_)
  refine (roundTrip_boolean _).bind ((roundTrip_u32 _).bind_right ?_)
  exact (Reads.throwIf hguard _).bind_nil (Reads.pure _)

theorem roundTrip_requestBody (request : Request) :
    WireRoundTrip (encodeRequestBody request)
      (decodeRequestBody unfenced
        { (default : Request) with requestId := request.requestId, method := request.method })
      request.selected := by
  obtain ⟨requestId, method, document, sessionId, jobId, submitOptions⟩ := request
  cases method with
  | sessionCreate => exact (roundTrip_document document).bind_right (Reads.pure _)
  | sessionClose => exact (roundTrip_sessionId sessionId).bind_right (Reads.pure _)
  | jobSubmit => exact (roundTrip_submit sessionId submitOptions).bind_right (Reads.pure _)
  | jobStatus | jobCancel | jobResult | jobRelease =>
    exact (roundTrip_jobId jobId).bind_right (Reads.pure _)
  | daemonInfo | daemonShutdown => exact RoundTrip.pure _

theorem roundTrip_request (request : Request) :
    WireRoundTrip (requestEncoder request) (requestFields unfenced) request.selected := by
  refine RoundTrip.guard_left fun hguard => ?_
  simp only [Bool.or_eq_false_iff] at hguard
  refine (roundTrip_u16 _).bind (RoundTrip.guard_right (by decide) ?_)
  refine (roundTrip_u64 _).bind (RoundTrip.guard_right hguard.1 ?_)
  refine (roundTrip_u8 _).bind (RoundTrip.read_nil (reads_decodeMethod _) ?_)
  exact roundTrip_requestBody request

theorem decodeRequest_of_encodeRequest {request : Request} {payload : Bytes}
    (h : encodeRequest request = .ok payload) :
    decodeRequest payload = .ok request.selected ∧ 11 ≤ payload.length ∧
      payload.length ≤ maximumFramePayloadBytes :=
  start_of_roundTrip (roundTrip_request request) guarded_requestFields h

/-! ## Responses -/

/-- The response with only its identity, its method and its status. -/
def Response.header (response : Response) : Response := { (default : Response) with
  requestId := response.requestId, method := response.method, status := response.status }

/-- The response with its header and, after success, the fields selected by the method. -/
def Response.selected (response : Response) : Response :=
  if response.status.ok then
    match response.method with
    | .sessionCreate => { response.header with sessionId := response.sessionId }
    | .jobSubmit => { response.header with jobId := response.jobId }
    | .jobStatus => { response.header with jobStatus := response.jobStatus }
    | .jobResult => { response.header with executionResult := response.executionResult }
    | .daemonInfo => { response.header with daemonInfo := response.daemonInfo }
    | .sessionClose | .jobCancel | .jobRelease | .daemonShutdown => response.header
  else response.header

theorem roundTrip_responseBody {response : Response} (hok : response.status.ok = true)
    (hmethod : response.method ≠ .jobResult) :
    WireRoundTrip (encodeResponseBody response) (decodeResponseBody unfenced response.header)
      response.selected := by
  rw [Response.selected, if_pos hok]
  obtain ⟨requestId, method, status, sessionId, jobId, jobStatus, executionResult, daemonInfo, _⟩ :=
    response
  cases method with
  | sessionCreate => exact (roundTrip_sessionId sessionId).bind_right (Reads.pure _)
  | jobSubmit => exact (roundTrip_jobId jobId).bind_right (Reads.pure _)
  | jobStatus => exact (roundTrip_jobStatus jobStatus).bind_right (Reads.pure _)
  | jobResult => exact absurd rfl hmethod
  | daemonInfo => exact (roundTrip_daemonInfo daemonInfo).bind_right (Reads.pure _)
  | sessionClose | jobCancel | jobRelease | daemonShutdown => exact RoundTrip.pure _

/-- Whatever holds of the body of a successful response holds of the response. -/
theorem decides_response_of_body {response value : Response} {good : Prop}
    (hok : response.status.ok = true)
    (hbody : WireDecides (encodeResponseBody response)
      (decodeResponseBody unfenced response.header) value good) :
    WireDecides (responseEncoder response)
      (responseFields unfenced response.method response.requestId) value good := by
  refine Decides.guard_left fun _ => Decides.bind_left (roundTrip_u16 _) ?_
  refine Decides.read_nil (Reads.throwIf (by decide) _) (Decides.bind_left (roundTrip_u64 _) ?_)
  refine Decides.bind_left (roundTrip_u8 _) (Decides.read_nil (reads_decodeMethod _) ?_)
  refine Decides.read_nil (Reads.throwIf (by simp) _) (Decides.bind_left (roundTrip_status _) ?_)
  simp only [hok, if_true]
  exact hbody

/-- A failed response is its header. -/
theorem roundTrip_failedResponse {response : Response} (hok : response.status.ok ≠ true) :
    WireRoundTrip (responseEncoder response)
      (responseFields unfenced response.method response.requestId) response.header := by
  refine RoundTrip.guard_left fun _ => (roundTrip_u16 _).bind ?_
  refine RoundTrip.guard_right (by decide) ((roundTrip_u64 _).bind ((roundTrip_u8 _).bind ?_))
  refine RoundTrip.read_nil (reads_decodeMethod _) (RoundTrip.guard_right (by simp) ?_)
  refine (roundTrip_status _).bind ?_
  simp only [hok]
  exact RoundTrip.pure _

theorem roundTrip_response {response : Response} (hmethod : response.method ≠ .jobResult) :
    WireRoundTrip (responseEncoder response)
      (responseFields unfenced response.method response.requestId) response.selected := by
  by_cases hok : response.status.ok = true
  · exact (decides_response_of_body hok
      (Decides.of_roundTrip (roundTrip_responseBody hok hmethod))).roundTrip trivial
  · rw [Response.selected, if_neg hok]
    exact roundTrip_failedResponse hok

/-- The correlation that `decode_response` expects is one that `encode_response` accepts. -/
theorem decodeResponse_eq_start {response : Response} {payload : Bytes}
    (h : encodeResponse response = .ok payload) :
    decodeResponse payload response.method response.requestId =
      ((responseFields fenced response.method response.requestId).whole.start payload).1 := by
  have hguard : (decide (response.requestId = 0) || !validMethod response.method.code) = false := by
    by_contra hbad
    rw [Bool.not_eq_false] at hbad
    have hrun := finish_eq_ok.mp h
    rw [responseEncoder, hbad] at hrun
    cases hrun
  rw [decodeResponse, decodeResponseWith, hguard]
  rfl

theorem decodeResponse_of_encodeResponse {response : Response} {payload : Bytes}
    (hmethod : response.method ≠ .jobResult) (h : encodeResponse response = .ok payload) :
    decodeResponse payload response.method response.requestId = .ok response.selected ∧
      11 ≤ payload.length ∧ payload.length ≤ maximumFramePayloadBytes := by
  rw [decodeResponse_eq_start h]
  exact start_of_roundTrip (roundTrip_response hmethod) (guarded_responseFields _ _) h

/-- What either encoder writes, the matching decoder reads back, in a payload of eleven bytes
to four mebibytes. -/
theorem messages_roundTrip :
    (∀ (request : Request) (payload : Bytes), encodeRequest request = .ok payload →
      decodeRequest payload = .ok request.selected ∧
        11 ≤ payload.length ∧ payload.length ≤ 4194304) ∧
    (∀ (response : Response) (payload : Bytes), response.method ≠ .jobResult →
      encodeResponse response = .ok payload →
      decodeResponse payload response.method response.requestId = .ok response.selected ∧
        11 ≤ payload.length ∧ payload.length ≤ 4194304) :=
  ⟨fun _ _ => decodeRequest_of_encodeRequest, fun _ _ => decodeResponse_of_encodeResponse⟩

/-- A workflow of one node with one edge and a parameter that is not a number. -/
def nodeRequest : Request :=
  let node : WorkflowNode := ⟨1, ascii "blur", [.nodeOutput ⟨2, ascii "out"⟩],
    ⟨[(ascii "radius", .floating ⟨0x7ff8000000000001⟩)], List.pairwise_singleton _ _⟩⟩
  { (default : Request) with
    requestId := 7, method := .sessionCreate, document := ⟨1, [], [node], []⟩ }

omit [Kernel] in
theorem messages_roundTrip_node :
    ∃ _ : Kernel, ∃ payload,
      encodeRequest nodeRequest = .ok payload ∧ decodeRequest payload = .ok nodeRequest := by
  let _ : Kernel := sampleKernel
  obtain ⟨payload, hencode⟩ : ∃ payload, encodeRequest nodeRequest = .ok payload := ⟨_, rfl⟩
  exact ⟨sampleKernel, payload, hencode, (messages_roundTrip.1 nodeRequest payload hencode).1⟩

end PhotospiderDaemon.Ipc
