import Mathlib.Data.List.Induction
import PhotospiderDaemon.Ipc.Client
import PhotospiderDaemon.Ipc.Encodable
import PhotospiderDaemon.Server.Shutdown
import PhotospiderDaemon.Server.StreamLaw

/-!
# A client and its handler

`Client::Impl::call` at one end of a connection and `serve_connection` at the other. Each of
them decides for itself when to give the connection up: the client if it cannot decode what it
has read, the server if it cannot encode what it has to write. A call has its request written
and then waits, one turn of the server's loop answers it, and the call returns with what was
sent in that turn.

* `RoundEnd`, `round_cases`: everything that a call can lead to.
* `connection_agrees_iff`: when the two ends agree on whether the connection is alive.
-/

namespace PhotospiderDaemon.Server

open Foundation Ipc Orchestration

variable [Kernel]

/-! ## Rounds -/

/-- Both ends of a connection between two calls. -/
structure Peers where
  client : Client
  server : Served

/-- A client that has just connected to a handler that has just begun. -/
def Peers.opened (link : Link) : Peers := ⟨Client.connect link, .serving (.accepted [] [] [])⟩

/-- The outcomes of the system calls that move a request and a response. -/
structure Transport where
  requestSends : List (TransferEvent Bytes)
  requestReceives : List (TransferEvent Bytes)
  responseSends : List (TransferEvent Bytes)
  responseReceives : List (TransferEvent Bytes)

/-- None of the calls fails, and there is none too few for a frame and for the end behind it. -/
def Transport.Plain (transport : Transport) : Prop :=
  ∀ events ∈ [transport.requestSends, transport.requestReceives, transport.responseSends,
    transport.responseReceives], Steady events ∧ maximumFramePayloadBytes + 4 < transfers events

/-- A call and the turn that answers it, without a shutdown, a stop, an error of the transport
or an exception. -/
structure Round where
  request : Request
  turn : Turn
  transport : Transport
  method_ne : request.method ≠ .daemonShutdown
  quiet : turn.Quiet
  plain : transport.Plain

omit [Kernel] in
/-- The client with more to receive, and with the outcomes of its coming calls. -/
def facing (client : Client) (bytes : Bytes) (receives sends : List (TransferEvent Bytes)) :
    Client :=
  { client with
    link := client.link.map fun link =>
      { link with
        incoming :=
          { link.incoming with stream := link.incoming.stream ++ bytes, events := receives }
        outgoing := { link.outgoing with events := sends } } }

omit [Kernel] in
/-- What the client has written. -/
def written (client : Client) : Bytes :=
  match client.link with
  | some link => link.outgoing.sent
  | none => []

/-- The handler with more to receive, and with the outcomes of its coming calls. -/
def Handler.facing (handler : Handler) (bytes : Bytes)
    (receives sends : List (TransferEvent Bytes)) :
    Handler :=
  { handler with
    stream := handler.stream ++ bytes
    receives := receives
    outgoing := { handler.outgoing with events := sends } }

/-- What the server does with the bytes of a request, unless it has to wait itself. -/
def respondTo (descriptor : Int) (round : Round) (bytes : Bytes) : Served → Option Served
  | .left handler => some (.left handler)
  | .serving handler =>
    if round.turn.stopping then some (.left handler)
    else
      match serveTurn descriptor round.turn
        (handler.facing bytes round.transport.requestReceives round.transport.responseSends) with
      | .again handler => some (.serving handler)
      | .left handler => some (.left handler)
      | .waiting _ => none
      | .raised exception handler =>
        match recover descriptor round.turn.report exception handler with
        | .serving _ => none
        | .left handler => some (.left handler)

/-- The call with nothing to receive either returns by itself or waits for a response. Then it is
the same call with the bytes that the server has sent meanwhile, and with the end of the stream
behind them if the server has left. -/
def Round.play (round : Round) (descriptor : Int) (peers : Peers) :
    Option (Except Status Response × Peers) :=
  match (facing peers.client [] [] round.transport.requestSends).call round.request .none with
  | .raised _ => none
  | .returned result client => some (result, ⟨client, peers.server⟩)
  | .blocked waiting =>
    (respondTo descriptor round ((written waiting).drop (written peers.client).length)
      peers.server).bind fun server =>
      match (facing peers.client
        (server.handler.outgoing.sent.drop peers.server.handler.outgoing.sent.length)
        round.transport.responseReceives round.transport.requestSends).call round.request .none with
      | .returned result client => some (result, ⟨client, server⟩)
      | _ => none

/-- Both ends after some calls. -/
def converse (descriptor : Int) (peers : Peers) (rounds : List Round) : Option Peers :=
  rounds.foldlM (fun peers round => (round.play descriptor peers).map Prod.snd) peers

theorem converse_concat (descriptor : Int) (peers : Peers) (rounds : List Round) (round : Round) :
    converse descriptor peers (rounds ++ [round]) =
      (converse descriptor peers rounds).bind fun peers' =>
        (round.play descriptor peers').map Prod.snd := by
  simp [converse, List.foldlM_append]

/-! ## The call -/

section Calls

variable {client : Client} {link : Link} {request : Request} {payload reply : Bytes}

/-- A read without a single call still waits. -/
theorem readFrame_idle {descriptor : Int} (hd : 0 ≤ descriptor) {connection : Connection}
    (hnone : connection.events = []) : ∃ c, readFrame descriptor connection = .blocked c := by
  obtain ⟨stream, events, progress⟩ := connection
  subst hnone
  unfold readFrame
  rw [if_neg (Int.not_lt.mpr hd)]
  exact ⟨_, rfl⟩

/-- A call that writes its request and has nothing to receive waits. -/
theorem call_waits (hlink : client.link = some link)
    (hencode : encodeRequest { request with requestId := client.nextRequestId } = .ok payload)
    (hsends : Steady link.outgoing.events)
    (hsent : (frame payload).length ≤ transfers link.outgoing.events)
    (hnone : link.incoming.events = []) :
    ∃ waiting, client.call request .none = .blocked waiting ∧
      written waiting = link.outgoing.sent ++ frame payload := by
  obtain ⟨-, hlower, hupper⟩ := decodeRequest_of_encodeRequest hencode
  have hid : client.nextRequestId ≠ 0 := (hasHeader_of_encodeRequest hencode).1
  obtain ⟨o, hwrite, hwritten, -⟩ := writeFrame_whole link.valid ⟨by omega, hupper⟩ hsends hsent
  obtain ⟨c, hread⟩ := readFrame_idle link.valid hnone
  refine ⟨⟨some { link with outgoing := o, incoming := c }, client.nextRequestId + 1⟩, ?_, hwritten⟩
  unfold Client.call
  simp only [hlink, hid, hencode, if_false, CallFaults.none, Bool.false_eq_true]
  unfold Client.exchange
  simp only [writeFrameOrRaise, hwrite, Status.ok_success, if_true, Bool.not_true,
    readFrameOrRaise, growthFailure, hread, Bool.false_eq_true, if_false]

/-- A call that reads the end of the stream gives the connection up. -/
theorem call_of_end (hlink : client.link = some link)
    (hencode : encodeRequest { request with requestId := client.nextRequestId } = .ok payload)
    (hsends : Steady link.outgoing.events)
    (hsent : (frame payload).length ≤ transfers link.outgoing.events)
    (hreceives : Steady link.incoming.events) (hreceived : 0 < transfers link.incoming.events)
    (hstream : link.incoming.stream = []) :
    ∃ status client', client.call request .none = .returned (.error status) client' ∧
      client'.connected = false := by
  obtain ⟨-, hlower, hupper⟩ := decodeRequest_of_encodeRequest hencode
  have hid : client.nextRequestId ≠ 0 := (hasHeader_of_encodeRequest hencode).1
  obtain ⟨o, hwrite, -⟩ := writeFrame_whole link.valid ⟨by omega, hupper⟩ hsends hsent
  obtain ⟨status, c, hread, hcode⟩ : ∃ status c, readFrame link.descriptor link.incoming =
      .returned (.error status) c ∧ status.code = .notFound := by
    rcases readFrame_cases link.valid hreceives with ⟨payload', c, -, -, heq, -⟩ |
      ⟨status, c, hread, -, ⟨-, hcode⟩ | ⟨hne, -⟩⟩ | ⟨c, -, hle, -⟩
    · rw [hstream] at heq
      exact absurd heq.symm (List.append_ne_nil_of_left_ne_nil (frame_ne_nil payload') _)
    · exact ⟨status, c, hread, hcode⟩
    · exact absurd hstream hne
    · rw [hstream, List.length_nil] at hle
      omega
  unfold Client.call
  simp only [hlink, hid, hencode, if_false, CallFaults.none, Bool.false_eq_true]
  unfold Client.exchange
  simp only [writeFrameOrRaise, hwrite, Status.ok_success, if_true, Bool.not_true,
    readFrameOrRaise, growthFailure, hread, hcode, Bool.false_eq_true, if_false]
  exact ⟨_, _, rfl, rfl⟩

/-- A call whose request is not sent returns by itself and connects nothing. -/
theorem call_unsent (hunsent : client.link = none ∨ ∀ payload,
      encodeRequest { request with requestId := client.nextRequestId } ≠ .ok payload) :
    ∃ result client', client.call request .none = .returned result client' ∧
      (client'.link = none ∨ client'.link = client.link) := by
  unfold Client.call
  cases hlink : client.link with
  | none => exact ⟨_, client, rfl, Or.inl hlink⟩
  | some link =>
    have hnever := hunsent.resolve_left (by rw [hlink]; nofun)
    by_cases hid : client.nextRequestId = 0
    · simp only [hid, if_true, CallFaults.none, Bool.false_eq_true, if_false]
      exact ⟨_, _, rfl, Or.inl rfl⟩
    · simp only [hid, if_false, CallFaults.none, Bool.false_eq_true]
      cases hencode : encodeRequest { request with requestId := client.nextRequestId } with
      | error status => exact ⟨_, _, rfl, Or.inr rfl⟩
      | ok payload => exact absurd hencode (hnever payload)

/-- A frame that was read ends the call, one way or the other. -/
theorem accept_returns (client : Client) (request : Request) (reply : Bytes) :
    ∃ result client', client.accept request reply .none = .returned result client' ∧
      (client'.link = none ∨ client'.link = client.link) := by
  unfold Client.accept
  simp only [CallFaults.none, Bool.false_eq_true, if_false]
  split
  · exact ⟨_, _, rfl, Or.inr rfl⟩
  · split
    · split
      · exact ⟨_, _, rfl, Or.inl rfl⟩
      · exact ⟨_, _, rfl, Or.inl rfl⟩
    · exact ⟨_, _, rfl, Or.inl rfl⟩

end Calls

/-! ## The turn -/

/-- The request as it is sent. -/
def Round.sent (round : Round) (peers : Peers) : Request :=
  { round.request with requestId := peers.client.nextRequestId }

/-- The request as it is decoded. -/
def Round.dispatched (round : Round) (peers : Peers) : Request := (round.sent peers).selected

/-- Only a shutdown is answered by an accepted shutdown. -/
theorem not_acceptsShutdown (turn : Turn) {request : Request}
    (h : request.method ≠ .daemonShutdown) :
    acceptsShutdown (turn.dispatch request) = false := by
  rw [Bool.eq_false_iff]
  intro haccepts
  have hafter := (Bool.and_eq_true_iff.mp haccepts).2
  have hanswers := turn.routed request
  rw [eq_shutdownAccepted hafter] at hanswers
  exact h hanswers

/-- A turn that answers a request: a response that can be encoded keeps the loop going, one that
cannot is replaced by a report of the failure and ends the loop. -/
theorem serveTurn_answers {descriptor : Int} (hd : 0 ≤ descriptor) (round : Round)
    {handler : Handler} (hidle : handler.stream = []) {payload : Bytes} {request : Request}
    (hdecodes : Decodes payload request) (hmethod : request.method ≠ .daemonShutdown) :
    ∃ handler' reply, handler'.stream = [] ∧
      handler'.outgoing.sent = handler.outgoing.sent ++ frame reply ∧
      handler'.dispatched = handler.dispatched ++ [(request, round.turn.dispatch request)] ∧
      ((serveTurn descriptor round.turn (handler.facing (frame payload)
          round.transport.requestReceives round.transport.responseSends) = .again handler' ∧
        encodeResponse (round.turn.dispatch request) = .ok reply) ∨
      ∃ failure, serveTurn descriptor round.turn (handler.facing (frame payload)
          round.transport.requestReceives round.transport.responseSends) = .left handler' ∧
        encodeResponse (round.turn.dispatch request) = .error failure ∧
        encodeProtocolError failure (some payload) = .ok reply) := by
  obtain ⟨hreceives, hreceived⟩ := round.plain round.transport.requestReceives (by simp)
  obtain ⟨hsends, hsent⟩ := round.plain round.transport.responseSends (by simp)
  have hsteady : (handler.facing (frame payload) round.transport.requestReceives
      round.transport.responseSends).Steady := ⟨hreceives, hsends⟩
  have hstream : (handler.facing (frame payload) round.transport.requestReceives
      round.transport.responseSends).stream = frame payload ++ [] := by
    rw [Handler.facing, hidle, List.append_nil, List.nil_append]
  have hfed : ¬ (handler.facing (frame payload) round.transport.requestReceives
      round.transport.responseSends).Starved := by
    have hupper := hdecodes.1.2
    rintro (hstarved | hstarved)
    · rw [hstream, List.append_nil, length_frame] at hstarved
      change transfers round.transport.requestReceives ≤ _ at hstarved
      omega
    · change transfers round.transport.responseSends < _ at hstarved
      omega
  obtain ⟨handler', reply, hanswered, hrest, hcases⟩ :=
    serveTurn_request hd round.quiet hsteady hfed hdecodes hstream
  refine ⟨handler', reply, hrest, hanswered.sent_eq, hanswered.dispatched_eq, ?_⟩
  rcases hcases with hagain | ⟨hleft, ⟨-, haccepted⟩ | ⟨failure, hfailure, hreply⟩⟩
  · exact Or.inl hagain
  · rw [hanswered.accepted_eq, not_acceptsShutdown round.turn hmethod] at haccepted
    cases haccepted
  · exact Or.inr ⟨failure, hleft, hfailure, hreply⟩

/-! ## One round -/

/-- Nothing is on its way between two calls. -/
structure Idle (peers : Peers) : Prop where
  client : ∀ link, peers.client.link = some link → link.incoming.stream = []
  server : ∀ handler, peers.server = .serving handler → handler.stream = []

/-- The request of the call is sent to a handler that reads it. -/
structure Round.Reaches (round : Round) (peers : Peers) : Prop where
  linked : ∃ link, peers.client.link = some link
  serving : ∃ handler, peers.server = .serving handler
  encodes : ∃ payload, encodeRequest (round.sent peers) = .ok payload

/-- Everything that a call can lead to. -/
inductive RoundEnd (round : Round) (peers : Peers) : Peers → Prop where
  | unsent {client' : Client} (hunsent : peers.client.link = none ∨
        ∀ payload, encodeRequest (round.sent peers) ≠ .ok payload)
      (hconnected : client'.connected = true → peers.client.connected = true) :
      RoundEnd round peers ⟨client', peers.server⟩
  | lost {client' : Client} {handler : Handler} (hleft : peers.server = .left handler)
      (hconnected : client'.connected = false) : RoundEnd round peers ⟨client', peers.server⟩
  | answered {client' : Client} {handler' : Handler} {reply : Bytes}
      (hreaches : round.Reaches peers)
      (hdispatched : handler'.dispatched = peers.server.handler.dispatched ++
        [(round.dispatched peers, round.turn.dispatch (round.dispatched peers))])
      (hreply : encodeResponse (round.turn.dispatch (round.dispatched peers)) = .ok reply) :
      RoundEnd round peers ⟨client', .serving handler'⟩
  | dropped {client' : Client} {handler' : Handler} {failure : Status}
      (hreaches : round.Reaches peers)
      (hdispatched : handler'.dispatched = peers.server.handler.dispatched ++
        [(round.dispatched peers, round.turn.dispatch (round.dispatched peers))])
      (hfailure : encodeResponse (round.turn.dispatch (round.dispatched peers)) = .error failure)
      (hconnected : client'.connected = true) :
      RoundEnd round peers ⟨client', .left handler'⟩

theorem RoundEnd.cases_of_reaches {round : Round} {peers peers' : Peers}
    (h : RoundEnd round peers peers') (hreaches : round.Reaches peers) :
    peers'.server.handler.dispatched = peers.server.handler.dispatched ++
        [(round.dispatched peers, round.turn.dispatch (round.dispatched peers))] ∧
      ((∃ reply, encodeResponse (round.turn.dispatch (round.dispatched peers)) = .ok reply) ∨
        peers'.client.connected = true ∧ ∃ handler', peers'.server = .left handler') := by
  obtain ⟨⟨link, hlink⟩, ⟨handler, hserving⟩, payload, hencode⟩ := hreaches
  cases h with
  | unsent hunsent =>
    rcases hunsent with hnone | hnever
    · cases hlink.symm.trans hnone
    · exact absurd hencode (hnever payload)
  | lost hleft => cases hserving.symm.trans hleft
  | answered _ hdispatched hreply => exact ⟨hdispatched, Or.inl ⟨_, hreply⟩⟩
  | dropped _ hdispatched _ hconnected => exact ⟨hdispatched, Or.inr ⟨hconnected, _, rfl⟩⟩

/-- A handler that the request does not reach does nothing. -/
theorem RoundEnd.server_eq {round : Round} {peers peers' : Peers} (h : RoundEnd round peers peers')
    (hreaches : ¬ round.Reaches peers) : peers'.server = peers.server := by
  cases h with
  | unsent => rfl
  | lost => rfl
  | answered hreaches' => exact absurd hreaches' hreaches
  | dropped hreaches' => exact absurd hreaches' hreaches

omit [Kernel] in
theorem link_of_facing {client : Client} {bytes : Bytes}
    {receives sends : List (TransferEvent Bytes)}
    {link' : Link} (h : (facing client bytes receives sends).link = some link') :
    ∃ link, client.link = some link ∧ link'.incoming.stream = link.incoming.stream ++ bytes := by
  obtain ⟨link, hlink, rfl⟩ := Option.map_eq_some_iff.mp h
  exact ⟨link, hlink, rfl⟩

/-- A request that is not sent changes nothing but the client. -/
theorem round_unsent (descriptor : Int) (round : Round) {peers : Peers} (hidle : Idle peers)
    (hunsent : peers.client.link = none ∨
      ∀ payload, encodeRequest (round.sent peers) ≠ .ok payload) :
    ∃ result peers', round.play descriptor peers = some (result, peers') ∧
      RoundEnd round peers peers' ∧ Idle peers' := by
  have hfacing : (facing peers.client [] [] round.transport.requestSends).link = none ∨
      ∀ payload, encodeRequest (round.sent peers) ≠ .ok payload :=
    hunsent.imp_left fun hnone => by rw [facing, hnone]; rfl
  obtain ⟨result, client', hcall, hlink⟩ := call_unsent hfacing
  have hkept : ∀ link', client'.link = some link' →
      ∃ link, peers.client.link = some link ∧
        link'.incoming.stream = link.incoming.stream ++ [] := by
    intro link' hlink'
    rcases hlink with hlink | hlink
    · exact absurd (hlink.symm.trans hlink') nofun
    · exact link_of_facing (hlink.symm.trans hlink')
  refine ⟨result, ⟨client', peers.server⟩, by rw [Round.play, hcall], .unsent hunsent ?_, ?_, ?_⟩
  · intro hconnected
    obtain ⟨link', hlink'⟩ := Option.isSome_iff_exists.mp hconnected
    obtain ⟨link, hlink, -⟩ := hkept link' hlink'
    rw [Client.connected, hlink]
    rfl
  · intro link' hlink'
    obtain ⟨link, hlink, hstream⟩ := hkept link' hlink'
    rw [hstream, hidle.client link hlink]
    rfl
  · exact hidle.server

/-- The client when it reads the response. -/
def Round.hearing (round : Round) (peers : Peers) (bytes : Bytes) : Client :=
  facing peers.client bytes round.transport.responseReceives round.transport.requestSends

/-- A request that is sent is answered by the server before the call returns. -/
theorem play_of_sent (descriptor : Int) (round : Round) {peers : Peers} {link : Link}
    {payload : Bytes} (hlink : peers.client.link = some link)
    (hencode : encodeRequest (round.sent peers) = .ok payload) {server : Served} {bytes : Bytes}
    (hserver : respondTo descriptor round (frame payload) peers.server = some server)
    (hbytes : server.handler.outgoing.sent = peers.server.handler.outgoing.sent ++ bytes)
    {result : Except Status Response} {client' : Client}
    (hcall : (round.hearing peers bytes).call round.request .none = .returned result client') :
    round.play descriptor peers = some (result, ⟨client', server⟩) := by
  obtain ⟨hsends, hsent⟩ := round.plain round.transport.requestSends (by simp)
  have hupper := (decodeRequest_of_encodeRequest hencode).2.2
  have hfacing : (facing peers.client [] [] round.transport.requestSends).link = some
      { link with
        incoming := ⟨link.incoming.stream ++ [], [], link.incoming.progress⟩
        outgoing := ⟨link.outgoing.sent, round.transport.requestSends⟩ } := by
    rw [facing, hlink]
    rfl
  have hroom : (frame payload).length ≤ transfers round.transport.requestSends := by
    rw [length_frame]
    omega
  obtain ⟨waiting, hwaits, hwritten⟩ := call_waits hfacing hencode hsends hroom rfl
  have hdrop : (written waiting).drop (written peers.client).length = frame payload := by
    rw [hwritten, written, hlink]
    exact List.drop_left
  rw [Round.play, hwaits]
  dsimp only
  rw [hdrop, hserver, Option.bind_some, hbytes, List.drop_left]
  rw [show facing peers.client bytes _ _ = round.hearing peers bytes from rfl, hcall]

theorem round_cases {descriptor : Int} (hd : 0 ≤ descriptor) (round : Round) {peers : Peers}
    (hidle : Idle peers) :
    ∃ result peers', round.play descriptor peers = some (result, peers') ∧
      RoundEnd round peers peers' ∧ Idle peers' := by
  by_cases hunsent : peers.client.link = none ∨
      ∀ payload, encodeRequest (round.sent peers) ≠ .ok payload
  · exact round_unsent descriptor round hidle hunsent
  · obtain ⟨hlinked, hencodes⟩ := not_or.mp hunsent
    obtain ⟨link, hlink⟩ := Option.ne_none_iff_exists'.mp hlinked
    obtain ⟨payload, hencode⟩ := not_forall_not.mp hencodes
    obtain ⟨hdecode, hlower, hupper⟩ := decodeRequest_of_encodeRequest hencode
    obtain ⟨hsends, hsent⟩ := round.plain round.transport.requestSends (by simp)
    obtain ⟨hreceives, hreceived⟩ := round.plain round.transport.responseReceives (by simp)
    have hhearing : ∀ bytes, (round.hearing peers bytes).link = some
        { link with
          incoming := ⟨bytes, round.transport.responseReceives, link.incoming.progress⟩
          outgoing := ⟨link.outgoing.sent, round.transport.requestSends⟩ } := by
      intro bytes
      rw [Round.hearing, facing, hlink, Option.map_some, hidle.client link hlink]
      rfl
    have hroom : (frame payload).length ≤ transfers round.transport.requestSends := by
      rw [length_frame]
      omega
    cases hserver : peers.server with
    | left handler =>
      obtain ⟨status, client', hcall, hconnected⟩ := call_of_end (hhearing []) hencode hsends hroom
        hreceives (Nat.zero_lt_of_lt hreceived) rfl
      have hresponds : respondTo descriptor round (frame payload) peers.server =
          some (.left handler) := by
        rw [hserver]
        rfl
      have hplay := play_of_sent descriptor round hlink hencode hresponds
        (by rw [hserver, List.append_nil]) hcall
      rw [← hserver] at hplay
      refine ⟨_, _, hplay, .lost hserver hconnected, fun link' hlink' => ?_, hidle.server⟩
      rw [Client.connected, hlink'] at hconnected
      cases hconnected
    | serving handler =>
      have hdecodes : Decodes payload (round.dispatched peers) := ⟨⟨by omega, hupper⟩, hdecode⟩
      obtain ⟨handler', reply, hstream, hbytes, hdispatched, hcases⟩ := serveTurn_answers hd round
        (hidle.server handler hserver) hdecodes
        (by rw [Round.dispatched, (round.sent peers).selected_header.2]; exact round.method_ne)
      have hreaches : round.Reaches peers := ⟨⟨link, hlink⟩, ⟨handler, hserver⟩, payload, hencode⟩
      have hlog : handler'.dispatched = peers.server.handler.dispatched ++
          [(round.dispatched peers, round.turn.dispatch (round.dispatched peers))] := by
        rw [hserver]
        exact hdispatched
      have hrange : InRange reply := by
        rcases hcases with ⟨-, hreply⟩ | ⟨failure, -, -, hreply⟩
        · exact (hasHeader_of_encodeResponse hreply).2
        · exact inRange_of_encodeProtocolError hreply
      obtain ⟨link', hrest, hcall⟩ := call_receives (hhearing (frame reply)) hencode hsends hroom
        hreceives (by rw [length_frame]; exact Nat.le_of_lt (Nat.lt_of_le_of_lt
          (Nat.add_le_add_right hrange.2 4) hreceived)) hrange (List.append_nil _).symm
      have hplay : ∀ {server : Served}, server.handler = handler' →
          respondTo descriptor round (frame payload) (.serving handler) = some server →
          ∀ {result client'}, Client.accept ⟨some link', peers.client.nextRequestId + 1⟩
            (round.sent peers) reply .none = .returned result client' →
          round.play descriptor peers = some (result, ⟨client', server⟩) := by
        intro server hhandler hresponds result client' haccept
        refine play_of_sent descriptor round hlink hencode (hserver ▸ hresponds) ?_
          (hcall.trans haccept)
        rw [hhandler, hbytes, hserver]
        rfl
      have hgo : round.turn.stopping = false := round.quiet.stopping
      rcases hcases with ⟨hturn, hreply⟩ | ⟨failure, hturn, hfailure, hreply⟩
      · obtain ⟨result, client', haccept, hlink'⟩ := accept_returns
          ⟨some link', peers.client.nextRequestId + 1⟩ (round.sent peers) reply
        refine ⟨result, ⟨client', .serving handler'⟩, hplay rfl ?_ haccept,
          .answered hreaches hlog hreply, ?_, ?_⟩
        · simp [respondTo, hgo, hturn]
        · intro link'' hlink''
          rcases hlink' with hlink' | hlink'
          · exact absurd (hlink'.symm.trans hlink'') nofun
          · cases hlink'.symm.trans hlink''
            exact hrest
        · rintro _ ⟨⟩
          exact hstream
      · have hid : (round.sent peers).requestId ≠ 0 := (hasHeader_of_encodeRequest hencode).1
        have haccept := accept_of_correlated ⟨some link', peers.client.nextRequestId + 1⟩ hid hreply
          (recoverCorrelation_of_hasHeader (hasHeader_of_encodeRequest hencode))
        refine ⟨_, ⟨_, .left handler'⟩, hplay rfl ?_ haccept,
          .dropped hreaches hlog hfailure rfl, ?_, nofun⟩
        · simp [respondTo, hgo, hturn]
        · rintro _ ⟨⟩
          exact hrest

/-! ## Conversations -/

section Conversations

variable {descriptor : Int} {start peers : Peers} {rounds : List Round}

/-- A client that believes to be connected is right. -/
def Agree (peers : Peers) : Prop :=
  peers.client.connected = true → ∃ handler, peers.server = .serving handler

/-- The property holds between any two calls. -/
def Throughout (descriptor : Int) (start : Peers) (rounds : List Round) (P : Peers → Prop) : Prop :=
  ∀ done, done <+: rounds → ∀ peers, converse descriptor start done = some peers → P peers

/-- Every request that reaches the handler leads to a response that can be encoded. -/
def Encodable (descriptor : Int) (start : Peers) (rounds : List Round) : Prop :=
  ∀ done round, done ++ [round] <+: rounds → ∀ peers, converse descriptor start done = some peers →
    round.Reaches peers →
      ∃ reply, encodeResponse (round.turn.dispatch (round.dispatched peers)) = .ok reply

omit [Kernel] in
theorem idle_opened {link : Link} (hfresh : link.incoming.stream = []) : Idle (.opened link) := by
  refine ⟨?_, ?_⟩
  · rintro _ ⟨⟩
    exact hfresh
  · rintro _ ⟨⟩
    rfl

/-- Every call returns. -/
theorem exists_converse (hd : 0 ≤ descriptor) (hidle : Idle start) (rounds : List Round) :
    ∃ peers, converse descriptor start rounds = some peers ∧ Idle peers := by
  induction rounds using List.reverseRecOn with
  | nil => exact ⟨start, rfl, hidle⟩
  | append_singleton rounds round ih =>
    obtain ⟨peers, hconverse, hpeers⟩ := ih
    obtain ⟨result, peers', hplay, -, hidle'⟩ := round_cases hd round hpeers
    refine ⟨peers', ?_, hidle'⟩
    rw [converse_concat, hconverse, Option.bind_some, hplay]
    rfl

/-- The last call of a conversation. -/
theorem roundEnd_of_converse (hd : 0 ≤ descriptor) (hidle : Idle start) {round : Round}
    (h : converse descriptor start (rounds ++ [round]) = some peers) :
    ∃ earlier, converse descriptor start rounds = some earlier ∧ RoundEnd round earlier peers := by
  obtain ⟨earlier, hconverse, hearlier⟩ := exists_converse hd hidle rounds
  obtain ⟨result, peers', hplay, hend, -⟩ := round_cases hd round hearlier
  rw [converse_concat, hconverse, Option.bind_some, hplay] at h
  cases h
  exact ⟨earlier, hconverse, hend⟩

/-- A call that has a response that can be encoded keeps both ends in agreement. -/
theorem RoundEnd.agree {round : Round} {peers' : Peers} (h : RoundEnd round peers peers')
    (hencodable : round.Reaches peers →
      ∃ reply, encodeResponse (round.turn.dispatch (round.dispatched peers)) = .ok reply)
    (hagree : Agree peers) : Agree peers' := by
  cases h with
  | unsent hunsent hconnected => exact fun hstill => hagree (hconnected hstill)
  | lost hleft hconnected => exact fun hstill => absurd (hstill.symm.trans hconnected) (by decide)
  | answered => exact fun _ => ⟨_, rfl⟩
  | dropped hreaches hdispatched hfailure hconnected =>
    obtain ⟨reply, hreply⟩ := hencodable hreaches
    cases hfailure.symm.trans hreply

theorem agree_of_encodable (hd : 0 ≤ descriptor) (hidle : Idle start) (hstart : Agree start)
    (h : Encodable descriptor start rounds) : Throughout descriptor start rounds Agree := by
  intro done
  induction done using List.reverseRecOn with
  | nil =>
    rintro - peers ⟨⟩
    exact hstart
  | append_singleton done round ih =>
    intro hdone peers hconverse
    obtain ⟨earlier, hearlier, hend⟩ := roundEnd_of_converse hd hidle hconverse
    exact hend.agree (h done round hdone earlier hearlier)
      (ih ((List.prefix_append _ _).trans hdone) earlier hearlier)

theorem encodable_of_agree (hd : 0 ≤ descriptor) (hidle : Idle start)
    (h : Throughout descriptor start rounds Agree) : Encodable descriptor start rounds := by
  intro done round hdone peers hconverse hreaches
  obtain ⟨peers', hconverse', -⟩ := exists_converse hd hidle (done ++ [round])
  obtain ⟨earlier, hearlier, hend⟩ := roundEnd_of_converse hd hidle hconverse'
  cases hconverse.symm.trans hearlier
  rcases (hend.cases_of_reaches hreaches).2 with hreply | ⟨hconnected, handler', hleft⟩
  · exact hreply
  · obtain ⟨handler, hserving⟩ := h _ hdone peers' hconverse' hconnected
    cases hserving.symm.trans hleft

/-- Over any sequence of calls, a client that is connected has a handler that still serves it
exactly if every request that reaches the handler leads to a response that can be encoded. Then the
next request that can be sent is dispatched. -/
theorem connection_agrees_iff (hd : 0 ≤ descriptor) (link : Link)
    (hfresh : link.incoming.stream = []) (rounds : List Round) :
    (∃ peers, converse descriptor (.opened link) rounds = some peers) ∧
    (Throughout descriptor (.opened link) rounds Agree ↔
      Encodable descriptor (.opened link) rounds) ∧
    ∀ peers handler, converse descriptor (.opened link) rounds = some peers →
      peers.client.connected = true → peers.server = .serving handler → ∀ round : Round,
      (∃ payload, encodeRequest (round.sent peers) = .ok payload) →
      ∃ result peers', round.play descriptor peers = some (result, peers') ∧
        peers'.server.handler.dispatched = handler.dispatched ++
          [(round.dispatched peers, round.turn.dispatch (round.dispatched peers))] := by
  have hidle := idle_opened hfresh
  refine ⟨?_, ⟨encodable_of_agree hd hidle, agree_of_encodable hd hidle fun _ => ⟨_, rfl⟩⟩, ?_⟩
  · obtain ⟨peers, hconverse, -⟩ := exists_converse hd hidle rounds
    exact ⟨peers, hconverse⟩
  · rintro peers handler hconverse hconnected hserving round hencodes
    obtain ⟨peers₁, hconverse₁, hpeers⟩ := exists_converse hd hidle rounds
    cases hconverse.symm.trans hconverse₁
    obtain ⟨result, peers', hplay, hend, -⟩ := round_cases hd round hpeers
    have hdispatched := (hend.cases_of_reaches
      ⟨Option.isSome_iff_exists.mp hconnected, ⟨handler, hserving⟩, hencodes⟩).1
    rw [hserving] at hdispatched
    exact ⟨result, peers', hplay, hdispatched⟩

omit [Kernel] in
/-- Byte by byte, and enough for any frame. -/
def sampleTransport : Transport :=
  let events := List.replicate (maximumFramePayloadBytes + 5) (.ready 1)
  ⟨events, events, events, events⟩

omit [Kernel] in
theorem plain_sampleTransport : sampleTransport.Plain := by
  intro events hevents
  obtain rfl : events = List.replicate (maximumFramePayloadBytes + 5) (.ready 1) := by
    simpa [sampleTransport] using hevents
  exact ⟨steady_replicate _ 0, by rw [transfers_replicate]; omega⟩

/-- A `daemon.info` that fails. -/
def sampleRound : Round where
  request := default
  turn := failingTurn
  transport := sampleTransport
  method_ne := by decide
  quiet := quiet_failingTurn
  plain := plain_sampleTransport

/-- It is answered whenever it is dispatched. -/
theorem encodable_sampleRound (descriptor : Int) (start : Peers) (n : Nat) :
    Encodable descriptor start (List.replicate n sampleRound) := by
  intro done round hdone peers _ hreaches
  obtain rfl : round = sampleRound :=
    List.eq_of_mem_replicate (hdone.subset (List.mem_append_right _ List.mem_cons_self))
  obtain ⟨payload, hencode⟩ := hreaches.encodes
  obtain ⟨hdecode, hlower, hupper⟩ := decodeRequest_of_encodeRequest hencode
  exact encodable_failingTurn ⟨⟨by omega, hupper⟩, hdecode⟩

omit [Kernel] in
/-- A client that calls `daemon.info` again and again is connected to its handler, and the first of
its calls is dispatched. -/
theorem connection_agrees_iff_info :
    letI := sampleKernel
    Throughout 3 (.opened (sampleLink [])) (List.replicate 5 sampleRound) Agree ∧
    (∃ peers, converse 3 (.opened (sampleLink [])) (List.replicate 5 sampleRound) = some peers) ∧
    ∃ result peers', sampleRound.play 3 (.opened (sampleLink [])) = some (result, peers') ∧
      peers'.server.handler.dispatched = [(sampleRound.dispatched (.opened (sampleLink [])),
        failingTurn.dispatch (sampleRound.dispatched (.opened (sampleLink []))))] := by
  let _ : Kernel := sampleKernel
  have hd : (0 : Int) ≤ 3 := by decide
  obtain ⟨hreturns, hagree, -⟩ :=
    connection_agrees_iff hd (sampleLink []) rfl (List.replicate 5 sampleRound)
  refine ⟨hagree.mpr (encodable_sampleRound _ _ _), hreturns, ?_⟩
  exact (connection_agrees_iff hd (sampleLink []) rfl []).2.2 _ _ rfl rfl rfl sampleRound ⟨_, rfl⟩

/-- A row of bytes, one more than a frame can hold. -/
def oversizedValue : Value where
  descriptor := ⟨Kernel.uint8, [4194305]⟩
  region := [⟨0, 4194305⟩]
  layout := ⟨0, [1], []⟩
  bytes := List.replicate (maximumFramePayloadBytes + 1) 0
  facets := []

/-- A result with that Value. -/
def oversizedResult : ExecutionResult :=
  { (default : ExecutionResult) with values := ⟨[(ascii "row", oversizedValue)], by simp⟩ }

/-- A `job.result` of that result. -/
def oversizedRound : Round where
  request := { (default : Request) with method := .jobResult, jobId := ⟨1, 1⟩ }
  turn := { failingTurn with
    ending := fun request =>
      if request.method = .jobResult then .produced oversizedResult
      else .failed (.status ⟨.internal, []⟩)
    routed := fun request => by
      split
      · assumption
      · trivial }
  transport := sampleTransport
  method_ne := by decide
  quiet := ⟨rfl, rfl, rfl, rfl, rfl, rfl, rfl⟩
  plain := plain_sampleTransport

omit [Kernel] in
/-- The client is told in one frame that the result is too large and stays connected, to a
handler that has left its loop. -/
theorem connected_to_nobody :
    letI := sampleKernel
    ∃ peers, converse 3 (.opened (sampleLink [])) [oversizedRound] = some peers ∧
      peers.client.connected = true ∧ ∀ handler, peers.server ≠ .serving handler := by
  let _ : Kernel := sampleKernel
  have hfresh : (sampleLink []).incoming.stream = [] := rfl
  obtain ⟨result, peers, hplay, hend, -⟩ :=
    round_cases (by decide : (0 : Int) ≤ 3) oversizedRound (idle_opened hfresh)
  obtain ⟨failure, hfailure⟩ : ∃ failure, encodeResponse
      (oversizedRound.turn.dispatch (oversizedRound.dispatched (.opened (sampleLink [])))) =
        .error failure := by
    refine encodeResponse_oversized rfl rfl
      (List.mem_singleton_self (ascii "row", oversizedValue)) ?_
    rw [oversizedValue, List.length_replicate]
    exact Nat.lt_succ_self _
  have hwrites : WireWrites (2 + (8 + (1 + 16)))
      (requestEncoder (oversizedRound.sent (.opened (sampleLink [])))) :=
    Writes.throwIf_bind rfl ((writes_u16 _).bind ((writes_u64 _).bind ((writes_u8 _).bind
      (writes_jobId (by decide) (by decide)))))
  obtain ⟨payload, hencode⟩ := finish_of_writes hwrites (by decide)
  refine ⟨peers, ?_, ?_⟩
  · rw [converse, List.foldlM_cons, hplay]
    rfl
  · have hreaches : oversizedRound.Reaches (.opened (sampleLink [])) :=
      ⟨⟨_, rfl⟩, ⟨_, rfl⟩, payload, hencode⟩
    rcases (hend.cases_of_reaches hreaches).2 with ⟨reply, hreply⟩ | ⟨hconnected, handler', hleft⟩
    · cases hfailure.symm.trans hreply
    · rw [hleft]
      exact ⟨hconnected, nofun⟩

end Conversations

end PhotospiderDaemon.Server
