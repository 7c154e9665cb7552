import PhotospiderDaemon.Server.Connection

/-!
# The law of a connection's stream

What a peer sends on a connection decides what the server does with it: which frames are
dispatched, and what is written in return. `StreamLaw` says so without reference to the loop,
and the loop is then shown to follow it, by induction over its turns.

* `StreamLaw.cons`: a request in front of a stream that follows the law.
* `serveLoop_law`: the loop follows the law.
* `serveLoop_left`: the loop is left after finitely many turns.
* `serveConnection_stream`: both, for a whole connection.
-/

namespace PhotospiderDaemon.Server

open Foundation Ipc Orchestration

variable [Kernel]

/-! ## The law -/

/-- The stream begins with frames that are accepted as these requests. -/
def RequestsBegin (stream : Bytes) (requests : List Request) (tail : Bytes) : Prop :=
  ∃ payloads, List.Forall₂ Decodes payloads requests ∧ stream = frames payloads ++ tail

/-- The reply is a failed response under the correlation of the payload, or under the sentinel
if the payload has no valid header. -/
def Reports (reply payload : Bytes) : Prop :=
  ∃ status correlation, status.ok = false ∧
    decodeProtocolError reply = .ok (failedResponse correlation status) ∧
    ((∃ requestId method, HasHeader payload requestId method ∧ correlation = ⟨requestId, method⟩) ∨
      (∀ requestId method, ¬ HasHeader payload requestId method) ∧ correlation = .sentinel)

/-- The reply carries the response, under the identity and the method of the request. -/
def Carries (dispatched : Request × Response) (reply : Bytes) : Prop :=
  encodeResponse dispatched.2 = .ok reply ∧
    HasHeader reply dispatched.1.requestId dispatched.1.method

/-- The requests at the front of the stream are dispatched, one in each turn, and each is
replied to. This ends with an accepted shutdown, or else with the longest sequence of requests
that the stream begins with; then a tail is answered by one failed frame. -/
structure StreamLaw (turns : List Turn) (stream : Bytes) (dispatched : List (Request × Response))
    (replies failed : List Bytes) (tail : Bytes) : Prop where
  requests : RequestsBegin stream (dispatched.map Prod.fst) tail
  responses : dispatched.map Prod.snd = List.zipWith Turn.dispatch turns (dispatched.map Prod.fst)
  replied : List.Forall₂ Carries dispatched replies
  ending : (∃ earlier last, dispatched = earlier ++ [last] ∧
      (∀ pair ∈ earlier, acceptsShutdown pair.2 = false) ∧ acceptsShutdown last.2 = true ∧
      failed = []) ∨
    (∀ pair ∈ dispatched, acceptsShutdown pair.2 = false) ∧
      (∀ requests tail', RequestsBegin stream requests tail' →
        requests <+: dispatched.map Prod.fst) ∧
      (tail = [] ∧ failed = [] ∨
        tail ≠ [] ∧ ∃ reply, failed = [reply] ∧ Reports reply (arrivedPayload tail))

theorem requestsBegin_nil (stream : Bytes) : RequestsBegin stream [] stream :=
  ⟨[], .nil, rfl⟩

theorem RequestsBegin.cons {payload stream tail : Bytes} {request : Request}
    {requests : List Request} (hdecodes : Decodes payload request)
    (h : RequestsBegin stream requests tail) :
    RequestsBegin (frame payload ++ stream) (request :: requests) tail := by
  obtain ⟨payloads, hpayloads, rfl⟩ := h
  exact ⟨payload :: payloads, .cons hdecodes hpayloads, by rw [frames_cons, List.append_assoc]⟩

/-- The requests at the front of a stream are determined by the stream. -/
theorem RequestsBegin.uncons {payload stream tail : Bytes} {request : Request}
    {requests : List Request} (hdecodes : Decodes payload request)
    (h : RequestsBegin (frame payload ++ stream) requests tail) :
    requests = [] ∨ ∃ rest, requests = request :: rest ∧ RequestsBegin stream rest tail := by
  obtain ⟨payloads, hpayloads, heq⟩ := h
  cases hpayloads with
  | nil => exact Or.inl rfl
  | @cons payload' request' payloads rest hdecodes' hpayloads =>
    rw [frames_cons, List.append_assoc] at heq
    obtain ⟨rfl, rfl⟩ := frame_append_inj hdecodes.1 hdecodes'.1 heq
    have hsame : request' = request := by
      have hok := hdecodes.2.symm.trans hdecodes'.2
      exact (Except.ok.inj hok).symm
    exact Or.inr ⟨rest, by rw [hsame], payloads, hpayloads, rfl⟩

theorem RequestsBegin.eq_nil {stream tail : Bytes} {requests : List Request}
    (hnone : ¬ RequestBegins stream) (h : RequestsBegin stream requests tail) : requests = [] := by
  obtain ⟨payloads, hpayloads, rfl⟩ := h
  cases hpayloads with
  | nil => rfl
  | @cons payload request payloads requests hdecodes hpayloads =>
    refine absurd ⟨payload, request, frames payloads ++ tail, hdecodes, ?_⟩ hnone
    rw [frames_cons, List.append_assoc]

namespace StreamLaw

variable {turns : List Turn}

/-- The end of the stream on a boundary. -/
theorem ended : StreamLaw turns [] [] [] [] [] where
  requests := requestsBegin_nil []
  responses := by simp
  replied := .nil
  ending := by
    refine Or.inr ⟨by simp, fun requests tail' h => ?_, Or.inl ⟨rfl, rfl⟩⟩
    have hnone : ¬ RequestBegins [] := by
      rintro ⟨payload, request, rest, -, heq⟩
      exact frame_ne_nil payload (List.append_eq_nil_iff.mp heq.symm).1
    rw [h.eq_nil hnone]
    exact List.nil_prefix

/-- A stream that begins with no request. -/
theorem refused {stream reply : Bytes} (hne : stream ≠ []) (hnone : ¬ RequestBegins stream)
    (hreport : Reports reply (arrivedPayload stream)) :
    StreamLaw turns stream [] [] [reply] stream where
  requests := requestsBegin_nil stream
  responses := by simp
  replied := .nil
  ending := by
    refine Or.inr ⟨by simp, fun requests tail' h => ?_, Or.inr ⟨hne, reply, rfl, hreport⟩⟩
    rw [h.eq_nil hnone]
    exact List.nil_prefix

variable {turn : Turn} {payload reply rest : Bytes} {request : Request}

/-- A request whose response accepts a shutdown is the last one. -/
theorem shutdown (hdecodes : Decodes payload request)
    (hcarries : Carries (request, turn.dispatch request) reply)
    (haccepts : acceptsShutdown (turn.dispatch request) = true) :
    StreamLaw (turn :: turns) (frame payload ++ rest) [(request, turn.dispatch request)] [reply] []
      rest where
  requests := (requestsBegin_nil rest).cons hdecodes
  responses := by simp
  replied := .cons hcarries .nil
  ending := Or.inl ⟨[], _, rfl, by simp, haccepts, rfl⟩

/-- A request in front of a stream that follows the law. -/
theorem cons {dispatched : List (Request × Response)} {replies failed : List Bytes} {tail : Bytes}
    (hdecodes : Decodes payload request)
    (hcarries : Carries (request, turn.dispatch request) reply)
    (haccepts : acceptsShutdown (turn.dispatch request) = false)
    (h : StreamLaw turns rest dispatched replies failed tail) :
    StreamLaw (turn :: turns) (frame payload ++ rest)
      ((request, turn.dispatch request) :: dispatched) (reply :: replies) failed tail where
  requests := h.requests.cons hdecodes
  responses := by
    rw [List.map_cons, List.map_cons, List.zipWith_cons_cons, h.responses]
  replied := .cons hcarries h.replied
  ending := by
    rcases h.ending with ⟨earlier, last, rfl, hearlier, hlast, hfailed⟩ | ⟨hall, hlongest, htail⟩
    · refine Or.inl ⟨(request, turn.dispatch request) :: earlier, last, rfl, ?_, hlast, hfailed⟩
      exact List.forall_mem_cons.mpr ⟨haccepts, hearlier⟩
    · refine Or.inr
        ⟨List.forall_mem_cons.mpr ⟨haccepts, hall⟩, fun requests tail' hbegin => ?_, htail⟩
      rcases hbegin.uncons hdecodes with rfl | ⟨requests', rfl, hbegin'⟩
      · exact List.nil_prefix
      · rw [List.map_cons]
        exact List.cons_prefix_cons.mpr ⟨rfl, hlongest requests' tail' hbegin'⟩

end StreamLaw

/-! ## The loop follows the law -/

theorem reports_of_encode {status : Status} {payload reply : Bytes}
    (h : encodeProtocolError status (some payload) = .ok reply) : Reports reply payload := by
  refine ⟨status, recoverCorrelation (some payload), encodeProtocolError_not_ok h,
    decodeProtocolError_of_encode h, ?_⟩
  rcases recoverCorrelation_cases payload with ⟨requestId, method, hheader, heq⟩ | ⟨hnone, heq⟩
  · exact Or.inl ⟨requestId, method, hheader, heq⟩
  · exact Or.inr ⟨hnone, heq⟩

theorem carries_of_encode {turn : Turn} {request : Request} {reply : Bytes}
    (h : encodeResponse (turn.dispatch request) = .ok reply) :
    Carries (request, turn.dispatch request) reply := by
  obtain ⟨hid, hmethod⟩ := dispatch_header turn request
  have hheader := (hasHeader_of_encodeResponse h).1
  rw [hid, hmethod] at hheader
  exact ⟨h, hheader⟩

variable {descriptor : Int} {turns : List Turn} {handler handler' : Handler}

/-- If every response can be encoded, the loop has followed the law when it is left. -/
theorem serveLoop_law (hd : 0 ≤ descriptor) (hquiet : ∀ turn ∈ turns, turn.Quiet)
    (hsteady : handler.Steady) (hserved : serveLoop descriptor turns handler = .left handler') :
    ∃ dispatched, handler'.dispatched = handler.dispatched ++ dispatched ∧
      ((∀ pair ∈ dispatched, ∃ reply, encodeResponse pair.2 = .ok reply) →
        ∃ replies failed tail,
          handler'.outgoing.sent = handler.outgoing.sent ++ frames (replies ++ failed) ∧
          StreamLaw turns handler.stream dispatched replies failed tail) := by
  induction turns generalizing handler with
  | nil => cases hserved
  | cons turn turns ih =>
    obtain ⟨hturn, hturns⟩ := List.forall_mem_cons.mp hquiet
    have hcases := serveTurn_cases hd hturn hsteady
    simp only [serveLoop, hturn.stopping, Bool.false_eq_true, if_false] at hserved
    cases hend : serveTurn descriptor turn handler with
    | waiting waiting => rw [hend] at hserved; cases hserved
    | raised exception raised => rw [hend] at hcases; cases hcases
    | again next =>
      rw [hend] at hserved hcases
      cases hcases with
      | @again _ _ reply _ hreply hanswered haccepted hnext _ _ =>
        obtain ⟨dispatched, hlog, hlaw⟩ := ih hturns hnext hserved
        refine ⟨_ :: dispatched, by rw [hlog, hanswered.dispatched_eq, List.append_assoc]; rfl, ?_⟩
        intro hencodable
        obtain ⟨replies, failed, tail, hsent, hlaw⟩ :=
          hlaw fun pair hpair => hencodable pair (List.mem_cons_of_mem _ hpair)
        refine ⟨reply :: replies, failed, tail, ?_, ?_⟩
        · rw [hsent, hanswered.sent_eq, List.cons_append, frames_cons, List.append_assoc]
        · rw [hanswered.stream_eq]
          exact hlaw.cons hanswered.decodes (carries_of_encode hreply)
            (hanswered.accepted_eq.symm.trans haccepted)
    | left last =>
      rw [hend] at hserved hcases
      cases hserved
      cases hcases with
      | ended hstream houtgoing _ hdispatched =>
        refine ⟨[], by rw [hdispatched, List.append_nil], fun _ => ⟨[], [], [], ?_, ?_⟩⟩
        · rw [houtgoing, List.append_nil, frames_nil, List.append_nil]
        · rw [hstream]
          exact .ended
      | @refused _ _ reply hstream hnone hreply hsent _ hdispatched =>
        refine ⟨[], by rw [hdispatched, List.append_nil],
          fun _ => ⟨[], [reply], handler.stream, ?_, ?_⟩⟩
        · rw [hsent, List.nil_append, frames_cons, frames_nil, List.append_nil]
        · exact .refused hstream hnone (reports_of_encode hreply)
      | unencodable hfailure hreply hanswered =>
        refine ⟨_, hanswered.dispatched_eq, fun hencodable => ?_⟩
        obtain ⟨reply, hok⟩ := hencodable _ (List.mem_singleton.mpr rfl)
        rw [hfailure] at hok
        cases hok
      | @shutdown _ _ reply _ hreply hanswered haccepted =>
        refine ⟨_, hanswered.dispatched_eq, fun _ => ⟨[reply], [], handler'.stream, ?_, ?_⟩⟩
        · rw [hanswered.sent_eq, List.append_nil, frames_cons, frames_nil, List.append_nil]
        · rw [hanswered.stream_eq]
          exact .shutdown hanswered.decodes (carries_of_encode hreply)
            (hanswered.accepted_eq.symm.trans haccepted)

omit [Kernel] in
/-- Calls that suffice for the whole stream and for as many frames suffice for the rest of it. -/
theorem calls_suffice {payload reply stream rest : Bytes} {calls calls' : Nat}
    (hstream : stream = frame payload ++ rest) (hreply : InRange reply)
    (hcalls : (stream.length + 1) * (maximumFramePayloadBytes + 4) ≤ calls)
    (hle : calls ≤ calls' + (frame reply).length) :
    (rest.length + 1) * (maximumFramePayloadBytes + 4) ≤ calls' := by
  have hupper := hreply.2
  have hlength : stream.length = payload.length + 4 + rest.length := by
    rw [hstream, List.length_append, length_frame]
  have hmul : (rest.length + 2) * (maximumFramePayloadBytes + 4) ≤
      (stream.length + 1) * (maximumFramePayloadBytes + 4) :=
    Nat.mul_le_mul_right _ (by omega)
  rw [length_frame] at hle
  rw [Nat.add_mul] at hmul ⊢
  omega

/-- With as many turns as the stream is long, and calls for all of them, the loop is left. -/
theorem serveLoop_left (hd : 0 ≤ descriptor) (hquiet : ∀ turn ∈ turns, turn.Quiet)
    (hsteady : handler.Steady) (hturns : handler.stream.length < turns.length)
    (hreceives : handler.stream.length < transfers handler.receives)
    (hsends : (handler.stream.length + 1) * (maximumFramePayloadBytes + 4) ≤
      transfers handler.outgoing.events) :
    ∃ handler', serveLoop descriptor turns handler = .left handler' := by
  induction turns generalizing handler with
  | nil => exact absurd hturns (Nat.not_lt_zero _)
  | cons turn turns ih =>
    obtain ⟨hturn, hrest⟩ := List.forall_mem_cons.mp hquiet
    have hcases := serveTurn_cases hd hturn hsteady
    simp only [serveLoop, hturn.stopping, Bool.false_eq_true, if_false]
    cases hend : serveTurn descriptor turn handler with
    | waiting waiting =>
      rw [hend] at hcases
      cases hcases with
      | waiting hstarved =>
        rw [Nat.add_mul] at hsends
        rcases hstarved with hstarved | hstarved <;> omega
    | raised exception raised => rw [hend] at hcases; cases hcases
    | left last => exact ⟨last, rfl⟩
    | again next =>
      rw [hend] at hcases
      cases hcases with
      | again hreply hanswered haccepted hnext hreceived hsent =>
        have hlength := congrArg List.length hanswered.stream_eq
        rw [List.length_append] at hlength
        rw [length_frame] at hlength hreceived
        rw [List.length_cons] at hturns
        refine ih hrest hnext (by omega) (by omega) ?_
        exact calls_suffice hanswered.stream_eq (hasHeader_of_encodeResponse hreply).2 hsends hsent

/-- For every byte stream: the server dispatches the longest sequence of requests that the
stream begins with, up to an accepted shutdown, and replies to each in turn; what is left is
answered by one failed frame under its own correlation, or by nothing if nothing is left. -/
theorem serveConnection_stream (hd : 0 ≤ descriptor) (turns : List Turn)
    (hquiet : ∀ turn ∈ turns, turn.Quiet) (stream : Bytes)
    (receives sends : List (TransferEvent Bytes)) (hreceives : Steady receives)
    (hsends : Steady sends) :
    (stream.length < turns.length → stream.length < transfers receives →
      (stream.length + 1) * (maximumFramePayloadBytes + 4) ≤ transfers sends →
      ∃ handler stopped, serveConnection descriptor .plain turns (.accepted stream receives sends) =
        .finished handler true stopped) ∧
    ∀ handler stopped, serveConnection descriptor .plain turns (.accepted stream receives sends) =
        .finished handler true stopped →
      (∀ pair ∈ handler.dispatched, ∃ reply, encodeResponse pair.2 = .ok reply) →
      ∃ replies failed tail, handler.outgoing.sent = frames (replies ++ failed) ∧
        StreamLaw turns stream handler.dispatched replies failed tail := by
  have hsteady : (Handler.accepted stream receives sends).Steady := ⟨hreceives, hsends⟩
  refine ⟨fun hturns hreceived hsent => ?_, fun handler stopped hfinished hencodable => ?_⟩
  · obtain ⟨handler, hleft⟩ := serveLoop_left hd hquiet hsteady hturns hreceived hsent
    refine ⟨handler, handler.acceptedShutdown, ?_⟩
    exact congrArg finish hleft
  · obtain ⟨dispatched, hlog, hlaw⟩ :=
      serveLoop_law hd hquiet hsteady (serveConnection_plain hfinished)
    change handler.dispatched = dispatched at hlog
    subst hlog
    exact hlaw hencodable

/-- A turn in which every method fails. -/
def failingTurn : Turn where
  stopping := false
  growth := none
  read := false
  decode := none
  ending _ := .failed (.status ⟨.internal, []⟩)
  routed _ := trivial
  fails _ := false
  encode := none
  write := false
  report := ⟨false, false⟩

theorem quiet_failingTurn : failingTurn.Quiet := ⟨rfl, rfl, rfl, rfl, rfl, rfl, rfl⟩

omit [Kernel] in
theorem transfers_replicate (n count : Nat) :
    transfers (List.replicate n (.ready count : TransferEvent Bytes)) = n := by
  simp [transfers, List.countP_replicate, TransferEvent.isReady]

omit [Kernel] in
theorem steady_replicate (n count : Nat) :
    Steady (List.replicate n (.ready (count + 1) : TransferEvent Bytes)) := by
  intro event hevent
  rw [List.eq_of_mem_replicate hevent]
  exact Nat.succ_pos count

/-- A failure without a diagnostic can be encoded. -/
theorem encodable_failingTurn {payload : Bytes} {request : Request}
    (hdecodes : Decodes payload request) :
    ∃ reply, encodeResponse (failingTurn.dispatch request) = .ok reply := by
  have hid : (failingTurn.dispatch request).requestId ≠ 0 :=
    (hasHeader_of_decodeRequest hdecodes.2).1
  have hreport : (failingTurn.dispatch request).status.Reportable :=
    ⟨ErrorCode.failing_internal, presentable_nil⟩
  exact (encodeResponse_failed_iff hid hreport.not_ok).mpr hreport

omit [Kernel] in
/-- A request and the first two bytes of another frame, received byte by byte. -/
theorem serveConnection_stream_truncated :
    letI := sampleKernel
    ∃ handler stopped replies failed tail,
      serveConnection 3 .plain (List.replicate 18 failingTurn)
        (.accepted (frame [3, 0, 1, 0, 0, 0, 0, 0, 0, 0, 8] ++ [0, 0])
          (List.replicate 18 (.ready 1))
          (List.replicate (18 * (maximumFramePayloadBytes + 4)) (.ready 1))) =
        .finished handler true stopped ∧
      handler.outgoing.sent = frames (replies ++ failed) ∧
      StreamLaw (List.replicate 18 failingTurn)
        (frame [3, 0, 1, 0, 0, 0, 0, 0, 0, 0, 8] ++ [0, 0]) handler.dispatched replies failed
        tail := by
  let _ : Kernel := sampleKernel
  have hquiet : ∀ turn ∈ List.replicate 18 failingTurn, turn.Quiet := fun turn hturn =>
    List.eq_of_mem_replicate hturn ▸ quiet_failingTurn
  obtain ⟨hfinishes, hlaw⟩ := serveConnection_stream (by decide : (0 : Int) ≤ 3)
    (List.replicate 18 failingTurn) hquiet (frame [3, 0, 1, 0, 0, 0, 0, 0, 0, 0, 8] ++ [0, 0])
    (List.replicate 18 (.ready 1)) (List.replicate (18 * (maximumFramePayloadBytes + 4)) (.ready 1))
    (steady_replicate _ 0) (steady_replicate _ 0)
  obtain ⟨handler, stopped, hfinished⟩ := hfinishes (by decide)
    (by rw [transfers_replicate]; decide) (by rw [transfers_replicate]; decide)
  have hencodable : ∀ pair ∈ handler.dispatched, ∃ reply, encodeResponse pair.2 = .ok reply := by
    intro pair hpair
    have hleft := serveConnection_plain hfinished
    obtain ⟨turn, hturn, payload, hdecodes, hresponse⟩ :=
      serveLoop_dispatched rfl rfl pair (by rw [hleft]; exact hpair)
    rw [hresponse, List.eq_of_mem_replicate hturn]
    exact encodable_failingTurn hdecodes
  obtain ⟨replies, failed, tail, hsent, hstream⟩ := hlaw handler stopped hfinished hencodable
  exact ⟨handler, stopped, replies, failed, tail, hfinished, hsent, hstream⟩

end PhotospiderDaemon.Server
