import PhotospiderDaemon.Ipc.Diagnostics
import PhotospiderDaemon.Ipc.FrameFaults
import PhotospiderDaemon.Orchestration.Moves

/-!
# One connection of the server

`Server::Impl::serve_connection` of `src/lib/server/server.cpp` with the functions by which it
reports a failure. A handler reads a frame, decodes a request, has it dispatched, encodes the
response and writes it, until something ends its loop. What it does not decide itself is the
`Turn` of the loop: the flag that it tests, how `Service::dispatch` has ended, and which of its
calls throw. A turn is also where the loop can wait, in one of its system calls.

* `serveTurn_cases`, `answer_cases`: what one turn does when nothing fails.
* `serveTurn_request`: what it does with a request.
* `serveTurn_notes`: what any turn records, whatever fails in it.
* `serveLoop_invariant`: what every turn keeps is kept by the loop.
-/

namespace PhotospiderDaemon.Server

open Foundation Ipc Orchestration

variable [Kernel]

/-! ## Reporting a failure -/

/-- Which parts of a report throw: the diagnostic of a handler failure, or anything between
that and the first byte of the frame. -/
structure ReportFaults where
  diagnostic : Bool
  prepare : Bool

/-- `set_failure_without_allocation`. -/
def failureWithoutAllocation (code : ErrorCode) : Status :=
  ⟨if code = .ok then .internal else code, []⟩

/-- The payload from which `write_protocol_failure` recovers the correlation. -/
def reportedPayload (requestPayload : Option Bytes) (progress : Option FrameReadProgress) :
    Option Bytes :=
  match requestPayload, progress with
  | some payload, _ => some payload
  | none, some progress =>
    if progress.payloadPrefix.length ≠ 0 then some progress.payloadPrefix else none
  | none, none => none

/-- `write_protocol_failure`. What an exception leaves behind is what was sent before it. -/
def writeProtocolFailure (faults : ReportFaults) (descriptor : Int) (status : Status)
    (requestPayload : Option Bytes) (progress : Option FrameReadProgress) (outgoing : Outgoing) :
    Outcome Unit Outgoing :=
  if faults.prepare then .returned () outgoing
  else
    match encodeProtocolError status (reportedPayload requestPayload progress) with
    | .error _ => .returned () outgoing
    | .ok reply =>
      match writeFrame descriptor reply outgoing with
      | .blocked outgoing => .blocked outgoing
      | .returned _ outgoing => .returned () outgoing

/-- `write_protocol_failure_code`. -/
def writeProtocolFailureCode (faults : ReportFaults) (descriptor : Int) (code : ErrorCode)
    (outgoing : Outgoing) : Outcome Unit Outgoing :=
  writeProtocolFailure faults descriptor (failureWithoutAllocation code) none none outgoing

/-- The status of `write_handler_failure`. -/
def handlerFailure (faults : ReportFaults) (code : ErrorCode)
    (diagnostic : Option Bytes) : Status :=
  if faults.diagnostic then failureWithoutAllocation code
  else Status.failure code (diagnostic.getD [])

/-- `write_handler_failure`. -/
def writeHandlerFailure (faults : ReportFaults) (descriptor : Int) (code : ErrorCode)
    (diagnostic : Option Bytes) (progress : FrameReadProgress) (outgoing : Outgoing) :
    Outcome Unit Outgoing :=
  writeProtocolFailure faults descriptor (handlerFailure faults code diagnostic) none
    (some progress) outgoing

/-! ## The loop -/

/-- What the loop tests in a response to see whether a shutdown was accepted. -/
def acceptsShutdown (response : Response) : Bool :=
  response.status.ok && response.shutdownAfterWrite

/-- The descriptor of a connection and the locals of its handler. The requests that it had
dispatched, with their responses, are only recorded here. -/
structure Handler where
  stream : Bytes
  receives : List (TransferEvent Bytes)
  outgoing : Outgoing
  progress : FrameReadProgress
  acceptedShutdown : Bool
  dispatched : List (Request × Response)

namespace Handler

/-- A connection that was just accepted: the bytes that its peer will send, and the outcomes of
the coming calls. -/
def accepted (stream : Bytes) (receives sends : List (TransferEvent Bytes)) : Handler :=
  ⟨stream, receives, ⟨[], sends⟩, ⟨[]⟩, false, []⟩

def incoming (handler : Handler) : Connection :=
  ⟨handler.stream, handler.receives, some handler.progress⟩

/-- The handler after a read. -/
def received (handler : Handler) (connection : Connection) : Handler :=
  { handler with
    stream := connection.stream
    receives := connection.events
    progress := connection.progress.getD handler.progress }

/-- The handler after a write. -/
def sent (handler : Handler) (outgoing : Outgoing) : Handler :=
  { handler with outgoing := outgoing }

/-- The handler after a dispatch. -/
def noted (handler : Handler) (request : Request) (response : Response) : Handler :=
  { handler with
    acceptedShutdown := acceptsShutdown response
    dispatched := handler.dispatched ++ [(request, response)] }

end Handler

/-- What is decided outside of the handler in one turn of its loop. `growth` and `read` are the
allocations of `read_frame`, `write` is the one of `write_frame`. -/
structure Turn where
  stopping : Bool
  growth : Option Nat
  read : Bool
  decode : Option Raised
  ending : Request → Ending
  routed : ∀ request, (ending request).Answers request.method
  fails : Fault → Bool
  encode : Option Raised
  write : Bool
  report : ReportFaults

/-- `Service::dispatch`, as the handler sees it. -/
def Turn.dispatch (turn : Turn) (request : Request) : Response :=
  respond request (turn.ending request) turn.fails

/-- How a turn ends: the loop goes on, waits in a system call, or is left. -/
inductive TurnEnd where
  | again (handler : Handler)
  | waiting (handler : Handler)
  | left (handler : Handler)
  | raised (exception : Raised) (handler : Handler)

def TurnEnd.handler : TurnEnd → Handler
  | again handler => handler
  | waiting handler => handler
  | left handler => handler
  | raised _ handler => handler

/-- Report a failure and leave the loop. -/
def refuse (descriptor : Int) (turn : Turn) (handler : Handler) (status : Status)
    (requestPayload : Option Bytes) (progress : Option FrameReadProgress) : TurnEnd :=
  match writeProtocolFailure turn.report descriptor status requestPayload progress
    handler.outgoing with
  | .blocked outgoing => .waiting (handler.sent outgoing)
  | .returned _ outgoing => .left (handler.sent outgoing)

/-- The second half of a turn, once a request is decoded. -/
def answer (descriptor : Int) (turn : Turn) (payload : Bytes) (request : Request)
    (handler : Handler) : TurnEnd :=
  let response := turn.dispatch request
  let handler := handler.noted request response
  match turn.encode with
  | some exception => .raised exception handler
  | none =>
    match encodeResponse response with
    | .error status => refuse descriptor turn handler status (some payload) none
    | .ok reply =>
      match writeFrameOrRaise turn.write descriptor reply handler.outgoing with
      | .blocked outgoing => .waiting (handler.sent outgoing)
      | .raised outgoing => .raised .badAlloc (handler.sent outgoing)
      | .returned status outgoing =>
        if !status.ok then .left (handler.sent outgoing)
        else if handler.acceptedShutdown then .left (handler.sent outgoing)
        else .again (handler.sent outgoing)

/-- One turn of the loop of `serve_connection`, behind the test of `stopping`. -/
def serveTurn (descriptor : Int) (turn : Turn) (handler : Handler) : TurnEnd :=
  match readFrameOrRaise turn.growth turn.read descriptor handler.incoming with
  | .blocked connection => .waiting (handler.received connection)
  | .raised connection => .raised .badAlloc (handler.received connection)
  | .returned (.error status) connection =>
    let handler := handler.received connection
    if status.code ≠ .notFound then
      refuse descriptor turn handler status none (some handler.progress)
    else .left handler
  | .returned (.ok payload) connection =>
    match turn.decode with
    | some exception => .raised exception (handler.received connection)
    | none =>
      match decodeRequest payload with
      | .error status =>
        refuse descriptor turn (handler.received connection) status (some payload) none
      | .ok request => answer descriptor turn payload request (handler.received connection)

/-- Whether a handler is still inside of its `try` block or one of its handlers. -/
inductive Served where
  | serving (handler : Handler)
  | left (handler : Handler)

def Served.handler : Served → Handler
  | serving handler => handler
  | left handler => handler

/-- The category of an exception that leaves the loop. -/
def handlerCode : Raised → ErrorCode
  | .badAlloc => .resourceExhausted
  | .standard _ => .internal
  | .nonstandard => .internal

/-- The diagnostic of an exception that leaves the loop. -/
def handlerDiagnostic : Raised → Option Bytes
  | .badAlloc => some (ascii "connection handler allocation failed")
  | .standard what => what
  | .nonstandard => some (ascii "connection handler raised an exception")

/-- The three `catch` clauses of `serve_connection`. -/
def recover (descriptor : Int) (report : ReportFaults) (exception : Raised) (handler : Handler) :
    Served :=
  match writeHandlerFailure report descriptor (handlerCode exception) (handlerDiagnostic exception)
    handler.progress handler.outgoing with
  | .blocked outgoing => .serving (handler.sent outgoing)
  | .returned _ outgoing => .left (handler.sent outgoing)

/-- The loop of `serve_connection` with its `catch` clauses. -/
def serveLoop (descriptor : Int) : List Turn → Handler → Served
  | [], handler => .serving handler
  | turn :: turns, handler =>
    if turn.stopping then .left handler
    else
      match serveTurn descriptor turn handler with
      | .again handler => serveLoop descriptor turns handler
      | .waiting handler => .serving handler
      | .left handler => .left handler
      | .raised exception handler => recover descriptor turn.report exception handler

/-- What fails before the loop: the registration, or what the hooks of the test runtime throw. -/
structure Entry where
  registration : Bool
  primary : Option Raised
  report : ReportFaults

/-- Nothing fails before the loop. -/
def Entry.plain : Entry := ⟨false, none, ⟨false, false⟩⟩

/-- A handler that has returned, with the locals of its common tail, and whether the tail has
called `stop()`. -/
inductive Conclusion where
  | serving (handler : Handler)
  | finished (handler : Handler) (registered stopped : Bool)

/-- The common tail of `serve_connection`. -/
def finish : Served → Conclusion
  | .serving handler => .serving handler
  | .left handler => .finished handler true handler.acceptedShutdown

/-- `Server::Impl::serve_connection`. -/
def serveConnection (descriptor : Int) (entry : Entry) (turns : List Turn) (handler : Handler) :
    Conclusion :=
  if entry.registration then
    match writeProtocolFailureCode entry.report descriptor .resourceExhausted handler.outgoing with
    | .blocked outgoing => .serving (handler.sent outgoing)
    | .returned _ outgoing => .finished (handler.sent outgoing) false false
  else
    match entry.primary with
    | some exception => finish (recover descriptor entry.report exception handler)
    | none => finish (serveLoop descriptor turns handler)

omit [Kernel] in
theorem finish_eq_finished {served : Served} {handler : Handler} {registered stopped : Bool}
    (h : finish served = .finished handler registered stopped) :
    served = .left handler ∧ stopped = handler.acceptedShutdown := by
  cases served with
  | serving => cases h
  | left =>
    cases h
    exact ⟨rfl, rfl⟩

theorem serveConnection_plain {descriptor : Int} {turns : List Turn} {handler handler' : Handler}
    {registered stopped : Bool}
    (h : serveConnection descriptor .plain turns handler = .finished handler' registered stopped) :
    serveLoop descriptor turns handler = .left handler' :=
  (finish_eq_finished h).1

/-! ## A report that is sent -/

omit [Kernel] in
/-- A retained prefix that is empty recovers what no payload recovers. -/
theorem recoverCorrelation_reportedPayload (retained : Bytes) :
    recoverCorrelation (reportedPayload none (some ⟨retained⟩)) =
      recoverCorrelation (some retained) := by
  by_cases hlength : retained.length ≠ 0
  · exact congrArg recoverCorrelation (if_pos hlength)
  · have hnil : retained = [] := List.length_eq_zero_iff.mp (not_not.mp hlength)
    rw [hnil]
    rfl

theorem encodeProtocolError_congr (status : Status) {kept kept' : Option Bytes}
    (h : recoverCorrelation kept = recoverCorrelation kept') :
    encodeProtocolError status kept = encodeProtocolError status kept' := by
  rw [encodeProtocolError, encodeProtocolError, h]

theorem inRange_of_encodeProtocolError {status : Status} {kept : Option Bytes} {reply : Bytes}
    (h : encodeProtocolError status kept = .ok reply) : InRange reply := by
  obtain ⟨hlower, hupper⟩ := length_of_encodeProtocolError h
  exact ⟨Nat.le_trans (by decide) hlower, hupper⟩

/-- A failure that can be reported is sent in one frame, unless the write still waits. -/
theorem refuse_spec {descriptor : Int} (hd : 0 ≤ descriptor) {turn : Turn}
    (hprepare : turn.report.prepare = false) (handler : Handler)
    (hs : Steady handler.outgoing.events) {status : Status} (hreport : status.Reportable)
    (requestPayload : Option Bytes) (progress : Option FrameReadProgress) {kept : Bytes}
    (hkept : recoverCorrelation (reportedPayload requestPayload progress) =
      recoverCorrelation (some kept)) :
    (∃ reply outgoing, encodeProtocolError status (some kept) = .ok reply ∧
      refuse descriptor turn handler status requestPayload progress =
        .left (handler.sent outgoing) ∧
      outgoing.sent = handler.outgoing.sent ++ frame reply) ∨
    ∃ outgoing, refuse descriptor turn handler status requestPayload progress =
        .waiting (handler.sent outgoing) ∧
      transfers handler.outgoing.events < maximumFramePayloadBytes + 4 := by
  obtain ⟨reply, hreply⟩ := encodeProtocolError_iff.mpr hreport
  have hrange := inRange_of_encodeProtocolError hreply
  unfold refuse writeProtocolFailure
  rw [encodeProtocolError_congr status hkept, hreply, hprepare]
  rcases writeFrame_spec hd hrange hs with ⟨outgoing, hwrite, hsent, -⟩ | ⟨outgoing, hwrite, -, hlt⟩
  · refine Or.inl ⟨reply, outgoing, rfl, ?_, hsent⟩
    simp [hwrite]
  · refine Or.inr ⟨outgoing, by simp [hwrite], ?_⟩
    have hupper := hrange.2
    rw [length_frame] at hlt
    omega

/-! ## A turn in which nothing fails -/

/-- Nothing throws in the turn and nobody has stopped the server. -/
structure Turn.Quiet (turn : Turn) : Prop where
  stopping : turn.stopping = false
  growth : turn.growth = none
  read : turn.read = false
  decode : turn.decode = none
  encode : turn.encode = none
  write : turn.write = false
  prepare : turn.report.prepare = false

/-- No call on the descriptor fails. -/
structure Handler.Steady (handler : Handler) : Prop where
  receives : Foundation.Steady handler.receives
  sends : Foundation.Steady handler.outgoing.events

/-- The coming calls may not suffice for what is left of the stream or for one frame. -/
def Handler.Starved (handler : Handler) : Prop :=
  transfers handler.receives ≤ handler.stream.length ∨
    transfers handler.outgoing.events < maximumFramePayloadBytes + 4

/-- A payload that `read_frame` and `decode_request` accept. -/
def Decodes (payload : Bytes) (request : Request) : Prop :=
  InRange payload ∧ decodeRequest payload = .ok request

/-- The stream begins with a frame that is accepted. -/
def RequestBegins (stream : Bytes) : Prop :=
  ∃ payload request rest, Decodes payload request ∧ stream = frame payload ++ rest

/-- The handler behind a turn that has answered a request: what it has read and what it has
written. -/
structure Answered (turn : Turn) (handler : Handler) (payload : Bytes) (request : Request)
    (reply : Bytes) (handler' : Handler) : Prop where
  decodes : Decodes payload request
  stream_eq : handler.stream = frame payload ++ handler'.stream
  sent_eq : handler'.outgoing.sent = handler.outgoing.sent ++ frame reply
  accepted_eq : handler'.acceptedShutdown = acceptsShutdown (turn.dispatch request)
  dispatched_eq : handler'.dispatched = handler.dispatched ++ [(request, turn.dispatch request)]

/-- The turns in which nothing fails. -/
inductive QuietTurn (turn : Turn) (handler : Handler) : TurnEnd → Prop where
  | waiting {handler' : Handler} (hstarved : handler.Starved) :
      QuietTurn turn handler (.waiting handler')
  | ended {handler' : Handler} (hstream : handler.stream = [])
      (houtgoing : handler'.outgoing = handler.outgoing)
      (haccepted : handler'.acceptedShutdown = handler.acceptedShutdown)
      (hdispatched : handler'.dispatched = handler.dispatched) :
      QuietTurn turn handler (.left handler')
  | refused {handler' : Handler} {status : Status} {reply : Bytes} (hstream : handler.stream ≠ [])
      (hnone : ¬ RequestBegins handler.stream)
      (hreply : encodeProtocolError status (some (arrivedPayload handler.stream)) = .ok reply)
      (hsent : handler'.outgoing.sent = handler.outgoing.sent ++ frame reply)
      (haccepted : handler'.acceptedShutdown = handler.acceptedShutdown)
      (hdispatched : handler'.dispatched = handler.dispatched) :
      QuietTurn turn handler (.left handler')
  | unencodable {handler' : Handler} {payload reply : Bytes} {request : Request}
      {failure : Status} (hfailure : encodeResponse (turn.dispatch request) = .error failure)
      (hreply : encodeProtocolError failure (some payload) = .ok reply)
      (hanswered : Answered turn handler payload request reply handler') :
      QuietTurn turn handler (.left handler')
  | shutdown {handler' : Handler} {payload reply : Bytes} {request : Request}
      (hreply : encodeResponse (turn.dispatch request) = .ok reply)
      (hanswered : Answered turn handler payload request reply handler')
      (haccepted : handler'.acceptedShutdown = true) :
      QuietTurn turn handler (.left handler')
  | again {handler' : Handler} {payload reply : Bytes} {request : Request}
      (hreply : encodeResponse (turn.dispatch request) = .ok reply)
      (hanswered : Answered turn handler payload request reply handler')
      (haccepted : handler'.acceptedShutdown = false) (hsteady : handler'.Steady)
      (hreceives : transfers handler.receives ≤
        transfers handler'.receives + (frame payload).length)
      (hsends : transfers handler.outgoing.events ≤
        transfers handler'.outgoing.events + (frame reply).length) :
      QuietTurn turn handler (.again handler')

variable {descriptor : Int} {turn : Turn} {handler : Handler}

theorem dispatch_header (turn : Turn) (request : Request) :
    (turn.dispatch request).requestId = request.requestId ∧
      (turn.dispatch request).method = request.method :=
  respond_header request _ _

/-- What the second half of a turn does with a request that was read from the stream. -/
theorem answer_cases (hd : 0 ≤ descriptor) (hquiet : turn.Quiet) {payload : Bytes}
    {request : Request} {connection : Connection} (hdecodes : Decodes payload request)
    (hstream : handler.stream = frame payload ++ connection.stream)
    (hreceives : Steady connection.events)
    (hcalls : transfers handler.receives ≤ transfers connection.events + (frame payload).length)
    (hsends : Steady handler.outgoing.events) :
    QuietTurn turn handler
      (answer descriptor turn payload request (handler.received connection)) := by
  have hanswered : ∀ (reply : Bytes) (outgoing : Outgoing),
      outgoing.sent = handler.outgoing.sent ++ frame reply →
      Answered turn handler payload request reply
        (((handler.received connection).noted request (turn.dispatch request)).sent outgoing) :=
    fun reply outgoing hsent => ⟨hdecodes, hstream, hsent, rfl, rfl⟩
  unfold answer
  simp only [hquiet.encode]
  cases hreply : encodeResponse (turn.dispatch request) with
  | error failure =>
    have hreport := encodeResponse_failure hreply
    rcases refuse_spec hd hquiet.prepare
        ((handler.received connection).noted request (turn.dispatch request)) hsends hreport
        (some payload) none rfl with
      ⟨reply, outgoing, hframe, hrefuse, hsent⟩ | ⟨outgoing, hrefuse, hlt⟩ <;> simp only [hrefuse]
    · exact .unencodable hreply hframe (hanswered reply outgoing hsent)
    · exact .waiting (Or.inr hlt)
  | ok reply =>
    have hrange := (hasHeader_of_encodeResponse hreply).2
    unfold writeFrameOrRaise
    rcases writeFrame_spec hd hrange hsends with ⟨outgoing, hwrite, hsent, hsteady, hle⟩ |
      ⟨outgoing, hwrite, -, hlt⟩
    · have hwrite' : writeFrame descriptor reply
          ((handler.received connection).noted request (turn.dispatch request)).outgoing =
            .returned Status.success outgoing := hwrite
      simp only [hwrite', Status.ok_success, if_true, Bool.not_true, Bool.false_eq_true, if_false]
      split
      · rename_i haccepted
        exact .shutdown hreply (hanswered reply outgoing hsent) haccepted
      · rename_i haccepted
        exact .again hreply (hanswered reply outgoing hsent) (Bool.not_eq_true _ ▸ haccepted)
          ⟨hreceives, hsteady⟩ hcalls hle
    · have hwrite' : writeFrame descriptor reply
          ((handler.received connection).noted request (turn.dispatch request)).outgoing =
            .blocked outgoing := hwrite
      simp only [hwrite']
      refine .waiting (Or.inr ?_)
      have hupper := hrange.2
      rw [length_frame] at hlt
      omega

/-- What a turn does when nothing fails. -/
theorem serveTurn_cases (hd : 0 ≤ descriptor) (hquiet : turn.Quiet) (hsteady : handler.Steady) :
    QuietTurn turn handler (serveTurn descriptor turn handler) := by
  obtain ⟨hreceives, hsends⟩ := hsteady
  unfold serveTurn readFrameOrRaise growthFailure
  simp only [hquiet.growth, hquiet.read, hquiet.decode]
  have hincoming : Steady handler.incoming.events := hreceives
  rcases readFrame_cases hd hincoming with
    ⟨payload, c, hread, hrange, hstream, hsteady, hle⟩ | ⟨status, c, hread, hnone, hcode⟩ |
    ⟨c, hread, hle, -⟩
  · simp only [hread]
    cases hdecode : decodeRequest payload with
    | ok request => exact answer_cases hd hquiet ⟨hrange, hdecode⟩ hstream hsteady hle hsends
    | error status =>
      have hrefused : ¬ RequestBegins handler.stream := by
        rintro ⟨payload', request, rest, ⟨hrange', hdecode'⟩, heq⟩
        obtain ⟨rfl, -⟩ := frame_append_inj hrange hrange' (hstream.symm.trans heq)
        rw [hdecode] at hdecode'
        cases hdecode'
      have harrived : arrivedPayload handler.stream = payload := by
        rw [show handler.stream = _ from hstream, arrivedPayload_frame hrange]
      have hne : handler.stream ≠ [] := by
        rw [show handler.stream = _ from hstream]
        exact List.append_ne_nil_of_left_ne_nil (frame_ne_nil payload) _
      rcases refuse_spec hd hquiet.prepare (handler.received c) hsends
          (decodeRequest_failure hdecode).2 (some payload) none rfl with
        ⟨reply, outgoing, hframe, hrefuse, hsent⟩ | ⟨outgoing, hrefuse, hlt⟩ <;> simp only [hrefuse]
      · exact .refused hne hrefused (harrived ▸ hframe) hsent rfl rfl
      · exact .waiting (Or.inr hlt)
  · obtain ⟨hreport, hprogress⟩ := readFrame_failure hd hincoming hread
    have hrefused : ¬ RequestBegins handler.stream := by
      rintro ⟨payload, request, rest, hdecodes, heq⟩
      exact hnone ⟨payload, rest, hdecodes.1, heq⟩
    simp only [hread, Bool.false_eq_true, if_false]
    rcases hcode with ⟨hempty, hcode⟩ | ⟨hne, hcode⟩
    · simp only [hcode, ne_eq, not_true_eq_false, if_false]
      exact .ended hempty rfl rfl rfl
    · have hkept : recoverCorrelation (reportedPayload none (some (handler.received c).progress)) =
          recoverCorrelation (some (arrivedPayload handler.stream)) := by
        have hretained : (handler.received c).progress =
            ⟨(arrivedPayload handler.stream).take 11⟩ := by
          rw [Handler.received, hprogress]
          rfl
        rw [hretained, recoverCorrelation_reportedPayload, recoverCorrelation_take]
      simp only [hcode, ne_eq, ErrorCode.invalidArgument_ne_notFound, not_false_eq_true, if_true]
      rcases refuse_spec hd hquiet.prepare (handler.received c) hsends hreport none _ hkept with
        ⟨reply, outgoing, hframe, hrefuse, hsent⟩ | ⟨outgoing, hrefuse, hlt⟩ <;> simp only [hrefuse]
      · exact .refused hne hrefused hframe hsent rfl rfl
      · exact .waiting (Or.inr hlt)
  · simp only [hread]
    refine .waiting (Or.inl ?_)
    change transfers handler.receives + _ ≤ handler.stream.length at hle
    omega

/-- A turn whose stream begins with a request answers that request. -/
theorem serveTurn_request (hd : 0 ≤ descriptor) (hquiet : turn.Quiet) (hsteady : handler.Steady)
    (hfed : ¬ handler.Starved) {payload rest : Bytes} {request : Request}
    (hdecodes : Decodes payload request) (hstream : handler.stream = frame payload ++ rest) :
    ∃ handler' reply, Answered turn handler payload request reply handler' ∧
      handler'.stream = rest ∧
      ((serveTurn descriptor turn handler = .again handler' ∧
          encodeResponse (turn.dispatch request) = .ok reply) ∨
        serveTurn descriptor turn handler = .left handler' ∧
          (encodeResponse (turn.dispatch request) = .ok reply ∧ handler'.acceptedShutdown = true ∨
            ∃ failure, encodeResponse (turn.dispatch request) = .error failure ∧
              encodeProtocolError failure (some payload) = .ok reply)) := by
  have hsame : ∀ {payload' request' reply handler'},
      Answered turn handler payload' request' reply handler' →
      payload' = payload ∧ request' = request ∧ handler'.stream = rest := by
    intro payload' request' reply handler' hanswered
    obtain ⟨rfl, hrest⟩ := frame_append_inj hdecodes.1 hanswered.decodes.1
      (hstream.symm.trans hanswered.stream_eq)
    exact ⟨rfl, Except.ok.inj (hanswered.decodes.2.symm.trans hdecodes.2), hrest.symm⟩
  have hcases := serveTurn_cases hd hquiet hsteady
  generalize serveTurn descriptor turn handler = ended at hcases ⊢
  cases hcases with
  | waiting hstarved => exact absurd hstarved hfed
  | ended hempty =>
    rw [hstream] at hempty
    exact absurd hempty (List.append_ne_nil_of_left_ne_nil (frame_ne_nil payload) rest)
  | refused hne hnone => exact absurd ⟨payload, request, rest, hdecodes, hstream⟩ hnone
  | unencodable hfailure hreply hanswered =>
    obtain ⟨rfl, rfl, hrest⟩ := hsame hanswered
    exact ⟨_, _, hanswered, hrest, Or.inr ⟨rfl, Or.inr ⟨_, hfailure, hreply⟩⟩⟩
  | shutdown hreply hanswered haccepted =>
    obtain ⟨rfl, rfl, hrest⟩ := hsame hanswered
    exact ⟨_, _, hanswered, hrest, Or.inr ⟨rfl, Or.inl ⟨hreply, haccepted⟩⟩⟩
  | again hreply hanswered =>
    obtain ⟨rfl, rfl, hrest⟩ := hsame hanswered
    exact ⟨_, _, hanswered, hrest, Or.inl ⟨rfl, hreply⟩⟩

/-! ## Any turn -/

/-- What a turn adds to the record: nothing, or a request that was read and its response, which
is then what the flag is about. -/
inductive Notes (turn : Turn) (handler handler' : Handler) : Prop where
  | nothing (hdispatched : handler'.dispatched = handler.dispatched)
      (haccepted : handler'.acceptedShutdown = handler.acceptedShutdown)
  | response {payload : Bytes} {request : Request} (hdecodes : Decodes payload request)
      (hdispatched : handler'.dispatched =
        handler.dispatched ++ [(request, turn.dispatch request)])
      (haccepted : handler'.acceptedShutdown = acceptsShutdown (turn.dispatch request))

theorem refuse_handler (descriptor : Int) (turn : Turn) (handler : Handler) (status : Status)
    (requestPayload : Option Bytes) (progress : Option FrameReadProgress) :
    ∃ outgoing, refuse descriptor turn handler status requestPayload progress =
        .waiting (handler.sent outgoing) ∨
      refuse descriptor turn handler status requestPayload progress =
        .left (handler.sent outgoing) := by
  unfold refuse
  split
  · exact ⟨_, Or.inl rfl⟩
  · exact ⟨_, Or.inr rfl⟩

/-- The second half of a turn goes on only after a response that accepts no shutdown. -/
theorem answer_notes (descriptor : Int) {payload : Bytes} {request : Request}
    (hdecodes : Decodes payload request) (turn : Turn) (handler : Handler) :
    Notes turn handler (answer descriptor turn payload request handler).handler ∧
      ∀ handler', answer descriptor turn payload request handler = .again handler' →
        handler'.acceptedShutdown = false := by
  have hnotes : ∀ outgoing, Notes turn handler
      ((handler.noted request (turn.dispatch request)).sent outgoing) :=
    fun outgoing => .response hdecodes rfl rfl
  unfold answer
  dsimp only
  split
  · exact ⟨.response hdecodes rfl rfl, nofun⟩
  · split
    · rename_i status _
      obtain ⟨outgoing, hrefuse | hrefuse⟩ := refuse_handler descriptor turn
        (handler.noted request (turn.dispatch request)) status (some payload) none <;> rw [hrefuse]
      · exact ⟨hnotes outgoing, nofun⟩
      · exact ⟨hnotes outgoing, nofun⟩
    · split
      · exact ⟨hnotes _, nofun⟩
      · exact ⟨hnotes _, nofun⟩
      · split
        · exact ⟨hnotes _, nofun⟩
        · split
          · exact ⟨hnotes _, nofun⟩
          · rename_i haccepted
            refine ⟨hnotes _, fun handler' hagain => ?_⟩
            cases hagain
            exact Bool.not_eq_true _ ▸ haccepted

/-- Whatever fails in a turn, the flag is about the response of that turn. -/
theorem serveTurn_notes (descriptor : Int) (turn : Turn) (handler : Handler) :
    Notes turn handler (serveTurn descriptor turn handler).handler ∧
      ∀ handler', serveTurn descriptor turn handler = .again handler' →
        handler'.acceptedShutdown = false := by
  obtain ⟨consumed, -, -, hok⟩ :=
    readFrameOrRaise_consumed turn.growth turn.read descriptor handler.incoming
  unfold serveTurn
  split
  · exact ⟨.nothing rfl rfl, nofun⟩
  · exact ⟨.nothing rfl rfl, nofun⟩
  · rename_i status connection _
    dsimp only
    split
    · obtain ⟨outgoing, hrefuse | hrefuse⟩ := refuse_handler descriptor turn
        (handler.received connection) status none
        (some (handler.received connection).progress) <;> rw [hrefuse]
      · exact ⟨.nothing rfl rfl, nofun⟩
      · exact ⟨.nothing rfl rfl, nofun⟩
    · exact ⟨.nothing rfl rfl, nofun⟩
  · rename_i payload connection hread
    split
    · exact ⟨.nothing rfl rfl, nofun⟩
    · split
      · rename_i status _
        obtain ⟨outgoing, hrefuse | hrefuse⟩ := refuse_handler descriptor turn
          (handler.received connection) status (some payload) none <;> rw [hrefuse]
        · exact ⟨.nothing rfl rfl, nofun⟩
        · exact ⟨.nothing rfl rfl, nofun⟩
      · rename_i request hdecode
        obtain ⟨hnotes, hagain⟩ := answer_notes descriptor
          ⟨(hok payload connection hread).1, hdecode⟩ turn (handler.received connection)
        refine ⟨?_, hagain⟩
        cases hnotes with
        | nothing hdispatched haccepted => exact .nothing hdispatched haccepted
        | response hdecodes hdispatched haccepted => exact .response hdecodes hdispatched haccepted

/-- What a turn keeps when it notes something, and a report keeps, the loop keeps. -/
theorem serveLoop_invariant (motive : Handler → Prop) {turns : List Turn}
    (hnotes : ∀ turn ∈ turns, ∀ handler handler', handler.acceptedShutdown = false →
      motive handler → Notes turn handler handler' → motive handler')
    (hsent : ∀ handler outgoing, motive handler → motive (handler.sent outgoing))
    {handler : Handler} (haccepted : handler.acceptedShutdown = false) (h : motive handler) :
    motive (serveLoop descriptor turns handler).handler := by
  induction turns generalizing handler with
  | nil => exact h
  | cons turn turns ih =>
    obtain ⟨hturn, hturns⟩ := List.forall_mem_cons.mp hnotes
    obtain ⟨hnoted, hagain⟩ := serveTurn_notes descriptor turn handler
    have hnext := hturn handler _ haccepted h hnoted
    rw [serveLoop]
    split
    · exact h
    · cases hend : serveTurn descriptor turn handler with
      | again next =>
        rw [hend] at hnext
        exact ih hturns (hagain next hend) hnext
      | waiting next =>
        rw [hend] at hnext
        exact hnext
      | left next =>
        rw [hend] at hnext
        exact hnext
      | raised exception next =>
        rw [hend] at hnext
        change motive (recover descriptor turn.report exception next).handler
        unfold recover
        split
        · exact hsent next _ hnext
        · exact hsent next _ hnext

/-- Everything that a handler has had dispatched was decoded from a payload and is answered as
in one of its turns. -/
theorem serveLoop_dispatched {turns : List Turn} {handler : Handler}
    (haccepted : handler.acceptedShutdown = false) (hnone : handler.dispatched = []) :
    ∀ pair ∈ (serveLoop descriptor turns handler).handler.dispatched,
      ∃ turn ∈ turns, ∃ payload, Decodes payload pair.1 ∧ pair.2 = turn.dispatch pair.1 := by
  refine serveLoop_invariant (fun handler => ∀ pair ∈ handler.dispatched, ∃ turn ∈ turns,
    ∃ payload, Decodes payload pair.1 ∧ pair.2 = turn.dispatch pair.1) ?_ (fun _ _ h => h)
    haccepted (by simp [hnone])
  intro turn hturn handler handler' _ h hnotes pair hpair
  cases hnotes with
  | nothing hdispatched => exact h pair (hdispatched ▸ hpair)
  | response hdecodes hdispatched =>
    rw [hdispatched] at hpair
    rcases List.mem_append.mp hpair with hold | hnew
    · exact h pair hold
    · obtain rfl := List.mem_singleton.mp hnew
      exact ⟨turn, hturn, _, hdecodes, rfl⟩

end PhotospiderDaemon.Server
