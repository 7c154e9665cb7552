import PhotospiderDaemon.Ipc.ClientMethods
import PhotospiderDaemon.Ipc.ResultRoundTrip
import PhotospiderDaemon.Orchestration.Observation
import PhotospiderDaemon.Orchestration.Reports
import PhotospiderDaemon.Server.Dialogue

/-!
# Clients, handlers and the service

Any number of clients, each connected to a handler of its own, and one service behind all the
handlers. A method that a client calls is written to its connection, the handler decodes it and
calls `dispatch`, which is a thread of the service, and when that has returned, the handler
writes the response and the method returns. In between everybody else goes on.

The calls that have returned are kept in a log, with the dispatch by which each was answered and
with the number of dispatches that there were when it began, and each connection keeps the
dispatches by which its calls were answered. No allocation fails, the kernel keeps to its contract
and reports its failures in texts that can be sent, and nobody asks for a shutdown.

* `lineStep`, `remote`: the clients, the handlers and the service as one program.
* `Shows`: what a method may answer when `dispatch` has returned a response.
* `Wire.Sound`: nothing is on a wire between two calls, and what its handler has dispatched are the
  threads of the service by which its calls were answered.
* `outline`: the service makes a run of its own, and every call in the log answers what its dispatch
  has returned.
-/

namespace PhotospiderDaemon.Server.Remote

open Foundation Ipc Orchestration

/-! ## The model -/

/-- A client with its handler, and the descriptor of the handler. -/
structure Wire where
  descriptor : Nat
  peers : Peers
  /-- the dispatches by which the calls on it were answered -/
  calls : List Nat

/-- A call that has returned. -/
structure Entry where
  invocation : Invocation
  /-- the number of threads in the service when the call began -/
  since : Nat
  /-- the dispatch, if there was one -/
  thread : Option Nat
  answer : Answer

structure Daemon where
  service : Config Shared Thread
  log : List Entry

/-- Where a connection stands. The threads of the service share one place. -/
inductive Line where
  | service
  | idle (wire : Wire)
  | calling (wire : Wire) (invocation : Invocation) (since : Nat)
  | awaiting (wire : Wire) (invocation : Invocation) (since i : Nat)

/-- The two descriptors of a new connection. -/
structure Connected where
  client : Nat
  server : Nat

def Connected.wire (connected : Connected) : Wire :=
  ⟨connected.server, .opened ⟨connected.client, Int.natCast_nonneg _, ⟨[], [], none⟩, ⟨[], []⟩⟩, []⟩

/-- The wire behind a call. -/
def Wire.after (wire : Wire) (peers : Peers) (thread : Option Nat) : Wire :=
  ⟨wire.descriptor, peers, wire.calls ++ thread.toList⟩

/-- The daemon with one more call in its log. -/
def Daemon.logged (daemon : Daemon) (entry : Entry) : Daemon :=
  { daemon with log := daemon.log ++ [entry] }

variable [Kernel]

/-- What happens next on a line. A `Round` says how the calls on the descriptors come out. -/
inductive Event where
  | inside (i : Nat) (choice : Choice)
  | invoke (invocation : Invocation)
  | deliver
  | giveUp (round : Round)
  | answer (round : Round)

/-- The request of a call as it is decoded at the other end, if it is sent and somebody reads. -/
def Wire.delivered (wire : Wire) (request : Request) : Option Request :=
  match wire.peers.client.link, wire.peers.server with
  | some _, .serving _ =>
    match encodeRequest { request with requestId := wire.peers.client.nextRequestId } with
    | .ok payload => (decodeRequest payload).toOption
    | .error _ => none
  | _, _ => none

/-- The call returns. -/
def Daemon.return (daemon : Daemon) (wire : Wire) (round : Round) (invocation : Invocation)
    (since : Nat) (thread : Option Nat) : Option (Daemon × Line) :=
  (round.play wire.descriptor wire.peers).map fun (result, peers) =>
    (daemon.logged ⟨invocation, since, thread, invocation.answer result⟩,
      .idle (wire.after peers thread))

def lineStep (settings : Settings) (daemon : Daemon) (line : Line) (event : Event) :
    Option (Daemon × Line) :=
  match line, event with
  | .service, .inside i choice =>
    ((service settings).next daemon.service (.move i choice)).map fun c =>
      ({ daemon with service := c }, .service)
  | .idle wire, .invoke invocation =>
    if invocation.request.method = .daemonShutdown then none
    else some (daemon, .calling wire invocation daemon.service.threads.length)
  | .calling wire invocation since, .deliver =>
    (wire.delivered invocation.request).bind fun request =>
      ((service settings).next daemon.service (.spawn request)).map fun c =>
        ({ daemon with service := c },
          .awaiting wire invocation since daemon.service.threads.length)
  | .calling wire invocation since, .giveUp round =>
    if (wire.delivered invocation.request).isSome || round.request ≠ invocation.request then none
    else daemon.return wire round invocation since none
  | .awaiting wire invocation since i, .answer round =>
    match daemon.service.threads[i]? with
    | some (.call request (.returned _ response)) =>
      if round.request = invocation.request ∧ round.turn.dispatch request = response then
        daemon.return wire round invocation since (some i)
      else none
    | _ => none
  | _, _ => none

/-- Clients connect at any time. -/
def remote (settings : Settings) : Program Daemon Line Event Connected where
  start connected := .idle connected.wire
  step _ := lineStep settings

omit [Kernel] in
def initial (settings : Settings) : Config Daemon Line :=
  ⟨⟨Orchestration.initial settings, []⟩, [.service]⟩

def Event.Sane : Event → Prop
  | inside _ choice => choice.Sane
  | _ => True

def Reachable (settings : Settings) (c : Config Daemon Line) : Prop :=
  (remote settings).Leads Event.Sane (initial settings) c

/-- What a step can be. -/
inductive LineMove (settings : Settings) (daemon : Daemon) :
    Line → Event → Daemon → Line → Prop where
  | inside {i : Nat} {choice : Choice} {c : Config Shared Thread}
    (hnext : (service settings).next daemon.service (.move i choice) = some c) :
    LineMove settings daemon .service (.inside i choice) ⟨c, daemon.log⟩ .service
  | invoke {wire : Wire} {invocation : Invocation}
    (hmethod : invocation.request.method ≠ .daemonShutdown) :
    LineMove settings daemon (.idle wire) (.invoke invocation) daemon
      (.calling wire invocation daemon.service.threads.length)
  | deliver {wire : Wire} {invocation : Invocation} {since : Nat} {request : Request}
    (hdelivered : wire.delivered invocation.request = some request) :
    LineMove settings daemon (.calling wire invocation since) .deliver
      ⟨⟨daemon.service.shared, daemon.service.threads ++ [.call request .begun]⟩, daemon.log⟩
      (.awaiting wire invocation since daemon.service.threads.length)
  | giveUp {wire : Wire} {invocation : Invocation} {since : Nat} {round : Round}
    {result : Except Status Response} {peers : Peers}
    (hundelivered : wire.delivered invocation.request = none)
    (hrequest : round.request = invocation.request)
    (hplay : round.play wire.descriptor wire.peers = some (result, peers)) :
    LineMove settings daemon (.calling wire invocation since) (.giveUp round)
      (daemon.logged ⟨invocation, since, none, invocation.answer result⟩)
      (.idle (wire.after peers none))
  | answer {wire : Wire} {invocation : Invocation} {since i : Nat} {round : Round}
    {request : Request} {ending : Ending} {result : Except Status Response} {peers : Peers}
    (hthread : daemon.service.threads[i]? =
      some (.call request (.returned ending (round.turn.dispatch request))))
    (hrequest : round.request = invocation.request)
    (hplay : round.play wire.descriptor wire.peers = some (result, peers)) :
    LineMove settings daemon (.awaiting wire invocation since i) (.answer round)
      (daemon.logged ⟨invocation, since, some i, invocation.answer result⟩)
      (.idle (wire.after peers (some i)))

theorem lineMove {settings : Settings} {c : Config Daemon Line} {i : Nat} {line line' : Line}
    {event : Event} {daemon' : Daemon} (h : (remote settings).Moves c i line event daemon' line') :
    LineMove settings c.shared line event daemon' line' := by
  have hstep : lineStep settings c.shared line event = some (daemon', line') := h.step
  unfold lineStep at hstep
  split at hstep
  · obtain ⟨c', hnext, heq⟩ := Option.map_eq_some_iff.mp hstep
    cases heq
    exact .inside hnext
  · split at hstep <;> cases hstep
    exact .invoke ‹_›
  · obtain ⟨request, hdelivered, hstep⟩ := Option.bind_eq_some_iff.mp hstep
    obtain ⟨c', hnext, heq⟩ := Option.map_eq_some_iff.mp hstep
    cases heq
    cases hnext
    exact .deliver hdelivered
  · split at hstep
    · cases hstep
    · rename_i hguard
      simp only [Bool.or_eq_true, not_or, Option.isSome_iff_ne_none, decide_eq_true_eq, not_not]
        at hguard
      obtain ⟨⟨result, peers⟩, hplay, heq⟩ := Option.map_eq_some_iff.mp hstep
      cases heq
      exact .giveUp hguard.1 hguard.2 hplay
  · split at hstep
    · rename_i hthread
      split at hstep
      · rename_i hguard
        obtain ⟨hrequest, rfl⟩ := hguard
        obtain ⟨⟨result, peers⟩, hplay, heq⟩ := Option.map_eq_some_iff.mp hstep
        cases heq
        exact .answer hthread hrequest hplay
      · cases hstep
    · cases hstep
  · cases hstep

/-! ## One call -/

/-- What a call hears of a response that was returned to the handler. -/
inductive Hears (response : Response) : Except Status Response → Prop where
  | decoded {reply : Bytes} {response' : Response} (hencode : encodeResponse response = .ok reply)
    (hdecode : decodeResponse reply response.method response.requestId = .ok response') :
    Hears response (.ok response')
  | refused {reply : Bytes} {status status' : Status}
      (hencode : encodeResponse response = .ok reply)
    (hdecode : decodeResponse reply response.method response.requestId = .error status) :
    Hears response (.error status')
  | reported {failure : Status} (hencode : encodeResponse response = .error failure) :
    Hears response (.ok (failedResponse ⟨response.requestId, response.method⟩ failure))

section Rounds

variable {descriptor : Int} {peers peers' : Peers} {round : Round} {result : Except Status Response}

theorem accept_hears {client client' : Client} {request : Request} {response : Response}
    {reply : Bytes}
    (hid : response.requestId = request.requestId) (hmethod : response.method = request.method)
    (hencode : encodeResponse response = .ok reply)
    (h : client.accept request reply .none = .returned result client') : Hears response result := by
  unfold Client.accept at h
  simp only [CallFaults.none, Bool.false_eq_true, if_false] at h
  rw [← hid, ← hmethod] at h
  split at h
  · rename_i hdecode
    cases h
    exact .decoded hencode hdecode
  · rename_i hdecode
    split at h
    · split at h <;> cases h <;> exact .refused hencode hdecode
    · cases h
      exact .refused hencode hdecode

/-- A call whose request reaches a handler hears of the response to it. -/
theorem play_hears (hd : 0 ≤ descriptor) (hidle : Idle peers) {link : Link} {handler : Handler}
    {payload : Bytes} (hlink : peers.client.link = some link)
    (hserver : peers.server = .serving handler)
    (hencode : encodeRequest (round.sent peers) = .ok payload)
    (hplay : round.play descriptor peers = some (result, peers')) :
    Hears (round.turn.dispatch (round.dispatched peers)) result := by
  obtain ⟨hdecode, hlower, hupper⟩ := decodeRequest_of_encodeRequest hencode
  obtain ⟨hsends, hsent⟩ := round.plain round.transport.requestSends (by simp)
  obtain ⟨hreceives, hreceived⟩ := round.plain round.transport.responseReceives (by simp)
  have hselected := (round.sent peers).selected_header
  have hheader := respond_header (round.dispatched peers)
    (round.turn.ending (round.dispatched peers)) round.turn.fails
  have hid : (round.turn.dispatch (round.dispatched peers)).requestId =
      (round.sent peers).requestId := hheader.1.trans hselected.1
  have hmethod : (round.turn.dispatch (round.dispatched peers)).method =
      (round.sent peers).method := hheader.2.trans hselected.2
  obtain ⟨handler', reply, -, hbytes, -, hcases⟩ := serveTurn_answers hd round
    (hidle.server handler hserver) ⟨⟨by omega, hupper⟩, hdecode⟩
    (by rw [hselected.2]; exact round.method_ne)
  have hrange : InRange reply := by
    rcases hcases with ⟨-, hreply⟩ | ⟨failure, -, -, hreply⟩
    · exact (hasHeader_of_encodeResponse hreply).2
    · exact inRange_of_encodeProtocolError hreply
  have hhearing : (round.hearing peers (frame reply)).link = some
      { link with
        incoming := ⟨frame reply, round.transport.responseReceives, link.incoming.progress⟩
        outgoing := ⟨link.outgoing.sent, round.transport.requestSends⟩ } := by
    rw [Round.hearing, facing, hlink, Option.map_some, hidle.client link hlink]
    rfl
  have hroom : (frame payload).length ≤ transfers round.transport.requestSends := by
    rw [length_frame]
    omega
  have hroom' : (frame reply).length ≤ transfers round.transport.responseReceives := by
    have hle := hrange.2
    rw [length_frame]
    omega
  obtain ⟨link', -, hcall⟩ := call_receives hhearing hencode hsends hroom hreceives hroom' hrange
    (List.append_nil _).symm
  -- What the call has returned is what it makes of the reply.
  have hresult : ∀ {server : Served}, server.handler = handler' →
      respondTo descriptor round (frame payload) (.serving handler) = some server →
      ∀ {result' client'}, Client.accept ⟨some link', peers.client.nextRequestId + 1⟩
        (round.sent peers) reply .none = .returned result' client' → result' = result := by
    intro server hhandler hresponds result' client' haccept
    have hplay' := play_of_sent descriptor round hlink hencode (hserver ▸ hresponds)
      (by rw [hhandler, hbytes, hserver]; rfl) (hcall.trans haccept)
    cases hplay.symm.trans hplay'
    rfl
  have hgo : round.turn.stopping = false := round.quiet.stopping
  rcases hcases with ⟨hturn, hreply⟩ | ⟨failure, hturn, hfailure, hreply⟩
  · obtain ⟨result', client', haccept, -⟩ := accept_returns
      ⟨some link', peers.client.nextRequestId + 1⟩ (round.sent peers) reply
    have hresponds : respondTo descriptor round (frame payload) (.serving handler) =
        some (.serving handler') := by
      simp [respondTo, hgo, hturn]
    obtain rfl := hresult rfl hresponds haccept
    exact accept_hears hid hmethod hreply haccept
  · have haccept := accept_of_correlated ⟨some link', peers.client.nextRequestId + 1⟩
      (hasHeader_of_encodeRequest hencode).1 hreply
      (recoverCorrelation_of_hasHeader (hasHeader_of_encodeRequest hencode))
    have hresponds : respondTo descriptor round (frame payload) (.serving handler) =
        some (.left handler') := by
      simp [respondTo, hgo, hturn]
    obtain rfl := hresult rfl hresponds haccept
    rw [← hid, ← hmethod]
    exact .reported hfailure

/-- A call that has a response has sent its request to somebody who reads. -/
theorem reaches_of_play (hidle : Idle peers) {response : Response}
    (hplay : round.play descriptor peers = some (.ok response, peers')) : round.Reaches peers := by
  have hfacing : ∀ {bytes receives sends client'},
      (facing peers.client bytes receives sends).call round.request .none =
        .returned (.ok response) client' →
      (∃ link, peers.client.link = some link) ∧ bytes ≠ [] ∧
        ∃ payload, encodeRequest (round.sent peers) = .ok payload := by
    intro bytes receives sends client' hcall
    obtain ⟨link', link'', payload, reply, hanswered⟩ := call_answered hcall
    obtain ⟨link, hlink, hstream⟩ := link_of_facing hanswered.connected
    refine ⟨⟨link, hlink⟩, ?_, payload, hanswered.encoded⟩
    rintro rfl
    rw [hanswered.taken, hidle.client link hlink] at hstream
    exact frame_ne_nil reply (List.append_eq_nil_iff.mp hstream).1
  unfold Round.play at hplay
  split at hplay
  · cases hplay
  · rename_i hcall
    cases hplay
    exact absurd rfl (hfacing hcall).2.1
  · rename_i waiting hcall
    obtain ⟨server, hserver, hplay⟩ := Option.bind_eq_some_iff.mp hplay
    split at hplay
    · rename_i hcall'
      cases hplay
      obtain ⟨hlink, hbytes, hencode⟩ := hfacing hcall'
      refine ⟨hlink, ?_, hencode⟩
      cases hserving : peers.server with
      | serving handler => exact ⟨handler, rfl⟩
      | left handler =>
        rw [hserving] at hserver
        cases hserver
        rw [hserving, List.drop_length] at hbytes
        exact absurd rfl hbytes
    · cases hplay

/-- A call of a method that returns a plain `Status` does not fail with the code `Ok`. -/
theorem play_error {status : Status} (hmethod : round.request.method.answersStatus = true)
    (hplay : round.play descriptor peers = some (.error status, peers')) : status.ok = false := by
  unfold Round.play at hplay
  split at hplay
  · cases hplay
  · rename_i hcall
    cases hplay
    exact call_error hmethod hcall
  · obtain ⟨server, -, hplay⟩ := Option.bind_eq_some_iff.mp hplay
    split at hplay
    · rename_i hcall
      cases hplay
      exact call_error hmethod hcall
    · cases hplay

theorem roundEnd_of_play (hd : 0 ≤ descriptor) (hidle : Idle peers)
    (hplay : round.play descriptor peers = some (result, peers')) :
    RoundEnd round peers peers' ∧ Idle peers' := by
  obtain ⟨result', peers'', hplay', hend, hidle'⟩ := round_cases hd round hidle
  cases hplay.symm.trans hplay'
  exact ⟨hend, hidle'⟩

end Rounds

/-! ## What a method answers -/

/-- The result that a response carries can be written and read. -/
def Sendable (response : Response) : Prop :=
  (∃ reply, encodeResponse response = .ok reply) ∧ response.executionResult.Readable

/-- The response carries no result. -/
def Plain (response : Response) : Prop := response.method = .jobResult → response.status.ok = false

/-- What a method answers when `dispatch` has returned a response: what it would make of the
response itself, but a result loses its storage origins on the way, or does not come through. -/
structure Shows (invocation : Invocation) (response : Response) (answer : Answer) : Prop where
  same : Plain response → answer = invocation.answer (.ok response)
  result : ¬ Plain response → Sendable response →
    answer = .execution (.ok response.executionResult.withoutOrigins)
  refused : ¬ Plain response → ¬ Sendable response → ∃ status, answer = .execution (.error status)

section Answers

variable {invocation : Invocation} {response : Response} {reply : Bytes}
  {result : Except Status Response}

theorem not_plain_iff :
    ¬ Plain response ↔ response.method = .jobResult ∧ response.status.ok = true := by
  rw [Plain, Classical.not_imp, Bool.not_eq_false]

theorem decodeResponse_of_plain (hplain : Plain response)
    (hencode : encodeResponse response = .ok reply) :
    decodeResponse reply response.method response.requestId = .ok response.selected := by
  by_cases hmethod : response.method = .jobResult
  · have hok : response.status.ok ≠ true := by
      rw [hplain hmethod]
      decide
    rw [decodeResponse_eq_start hencode, Response.selected, if_neg hok]
    exact (start_of_roundTrip (roundTrip_failedResponse hok) (guarded_responseFields _ _) hencode).1
  · exact (decodeResponse_of_encodeResponse hmethod hencode).1

theorem decodeResponse_of_readable (hkernel : Kernel.Contract)
    (hmethod : response.method = .jobResult) (hok : response.status.ok = true)
    (hencode : encodeResponse response = .ok reply)
    (hreadable : response.executionResult.Readable) :
    decodeResponse reply response.method response.requestId = .ok
      { response.selected with executionResult := response.executionResult.withoutOrigins } := by
  rw [decodeResponse_eq_start hencode]
  exact (start_of_roundTrip ((decides_jobResult hkernel hmethod hok).roundTrip hreadable)
    (guarded_responseFields _ _) hencode).1

/-- A method only looks at what the wire carries. -/
theorem answer_selected (hmethod : response.method = invocation.request.method) :
    invocation.answer (.ok response.selected) = invocation.answer (.ok response) := by
  have hstatus : response.selected.status = response.status := by
    unfold Response.selected
    split
    · split <;> rfl
    · rfl
  by_cases hok : response.status.ok = true
  · unfold Response.selected
    rw [if_pos hok]
    cases invocation <;> rw [hmethod] <;> rfl
  · cases invocation <;> simp [Invocation.answer, callResult, Client.callStatus, hstatus, hok]

omit [Kernel] in
theorem eq_jobResult (hmethod : response.method = invocation.request.method)
    (hresult : response.method = .jobResult) : ∃ id, invocation = .jobResult id := by
  rw [hresult] at hmethod
  cases invocation with
  | jobResult id => exact ⟨id, rfl⟩
  | _ => cases hmethod

theorem shows_of_hears (hkernel : Kernel.Contract)
    (hmethod : response.method = invocation.request.method)
    (hencodes : Plain response → ∃ reply, encodeResponse response = .ok reply)
    (h : Hears response result) : Shows invocation response (invocation.answer result) := by
  cases h with
  | @decoded reply response' hencode hdecode =>
    refine ⟨fun hplain => ?_, fun hcarries hsendable => ?_, fun hcarries hunsendable => ?_⟩
    · rw [decodeResponse_of_plain hplain hencode] at hdecode
      cases hdecode
      exact answer_selected hmethod
    · obtain ⟨hresult, hok⟩ := not_plain_iff.mp hcarries
      obtain ⟨id, rfl⟩ := eq_jobResult hmethod hresult
      rw [decodeResponse_of_readable hkernel hresult hok hencode hsendable.2] at hdecode
      cases hdecode
      have hstatus : response.selected.status.ok = true := by
        rw [Response.selected, if_pos hok, hresult]
        exact hok
      simp only [Invocation.answer, callResult, hstatus, if_true]
    · obtain ⟨hresult, hok⟩ := not_plain_iff.mp hcarries
      have hunreadable : ¬ response.executionResult.Readable := fun hreadable =>
        hunsendable ⟨⟨reply, hencode⟩, hreadable⟩
      obtain ⟨status, herror⟩ :=
        decodeResponse_error_of_not_readable hkernel hresult hok hencode hunreadable
      rw [hresult, herror] at hdecode
      cases hdecode
  | @refused reply status status' hencode hdecode =>
    refine ⟨fun hplain => ?_, fun hcarries hsendable => ?_, fun hcarries _ => ?_⟩
    · rw [decodeResponse_of_plain hplain hencode] at hdecode
      cases hdecode
    · obtain ⟨hresult, hok⟩ := not_plain_iff.mp hcarries
      rw [decodeResponse_of_readable hkernel hresult hok hencode hsendable.2] at hdecode
      cases hdecode
    · obtain ⟨id, rfl⟩ := eq_jobResult hmethod (not_plain_iff.mp hcarries).1
      exact ⟨status', rfl⟩
  | @reported failure hencode =>
    have hnever : ¬ ∃ reply, encodeResponse response = .ok reply := by
      rintro ⟨reply, hreply⟩
      cases hencode.symm.trans hreply
    refine ⟨fun hplain => absurd (hencodes hplain) hnever,
      fun _ hsendable => absurd hsendable.1 hnever, fun hcarries _ => ?_⟩
    obtain ⟨id, rfl⟩ := eq_jobResult hmethod (not_plain_iff.mp hcarries).1
    have hfailure : failure.ok = false := decide_eq_false (encodeResponse_failure hencode).1.1
    exact ⟨failure, by simp [Invocation.answer, callResult, failedResponse, hfailure]⟩

end Answers

/-! ## The service inside of the daemon -/

section Service

variable {settings : Settings} {c c' : Config Shared Thread} {i : Nat} {request : Request}
  {act : Act Choice Request}

theorem call_stays {stage : CallStage} (hnext : (service settings).next c act = some c')
    (hi : c.threads[i]? = some (.call request stage)) :
    ∃ stage', c'.threads[i]? = some (.call request stage') := by
  have hlt := (List.getElem?_eq_some_iff.mp hi).1
  rcases Program.next_cases hnext with ⟨other, -, rfl⟩ | ⟨j, l, choice, shared', l', -, hmoves, rfl⟩
  · exact ⟨stage, (List.getElem?_append_left hlt).trans hi⟩
  · by_cases hj : j = i
    · subst hj
      obtain rfl := Option.some.inj (hmoves.thread.symm.trans hi)
      cases threadMove hmoves with
      | call hmove => exact ⟨_, List.getElem?_set_self hlt⟩
    · exact ⟨stage, (List.getElem?_set_ne hj).trans hi⟩

theorem returned_stays {ending : Ending} {response : Response}
    (hnext : (service settings).next c act = some c')
    (hi : c.threads[i]? = some (.call request (.returned ending response))) :
    c'.threads[i]? = some (.call request (.returned ending response)) := by
  have hlt := (List.getElem?_eq_some_iff.mp hi).1
  rcases Program.next_cases hnext with ⟨other, -, rfl⟩ | ⟨j, l, choice, shared', l', -, hmoves, rfl⟩
  · exact (List.getElem?_append_left hlt).trans hi
  · by_cases hj : j = i
    · subst hj
      obtain rfl := Option.some.inj (hmoves.thread.symm.trans hi)
      cases threadMove hmoves with
      | call hmove => cases hmove
    · exact (List.getElem?_set_ne hj).trans hi

/-- Only a call of `daemon.shutdown` raises the flag. -/
theorem running_step {l l' : Thread} {choice : Choice} {shared' : Shared}
    (hmoves : (service settings).Moves c i l choice shared' l')
    (hrunning : c.shared.shuttingDown = false) (hother : ∀ request, l ≠ .call request .shutdown) :
    shared'.shuttingDown = false := by
  cases threadMove hmoves with
  | worker hmove => cases hmove <;> exact hrunning
  | call hmove =>
    cases hmove with
    | shutdown => exact absurd rfl (hother _)
    | _ => exact hrunning

/-- A dispatch that has failed says so in a status that can be written. -/
theorem reportable_of_failed {failure : Failure} (hreports : failure.Reportable) :
    (respond request (.failed failure) fun _ => false).status.Reportable := by
  cases failure with
  | status status => exact hreports
  | raised exception =>
    rw [show (respond request (.failed (.raised exception)) fun _ => false).status = _ from
      fenceResponse_status _ exception _]
    exact ⟨failing_fenceCode exception, (presentable_dispatchReason_iff exception).mpr hreports⟩

/-- A response without a result can be written. -/
theorem encodeResponse_of_plain {ending : Ending} (hid : request.requestId ≠ 0)
    (hanswers : ending.Answers request.method) (hreports : ending.Reports settings)
    (hplain : Plain (respond request ending fun _ => false)) :
    ∃ reply, encodeResponse (respond request ending fun _ => false) = .ok reply := by
  by_cases hmethod : request.method = .jobResult
  · have hok := hplain ((respond_header request ending _).2.trans hmethod)
    -- A result succeeds or fails, and every other end belongs to another method.
    cases ending with
    | produced result => cases hok.symm.trans Status.ok_success
    | failed failure =>
      have hreportable := @reportable_of_failed _ request failure hreports
      have hheader := (respond_header request (.failed failure) fun _ => false).1
      exact (encodeResponse_failed_iff (hheader ▸ hid) hreportable.not_ok).mpr hreportable
    | _ => cases hmethod.symm.trans hanswers
  · exact encodeResponse_of_ending hid hanswers hmethod hreports

end Service

/-! ## Soundness -/

/-- What a call in the log has to do with the service. -/
def Entry.Sound (c : Config Shared Thread) (entry : Entry) : Prop :=
  match entry.thread with
  | none => entry.answer.succeeded = false
  | some i => entry.since ≤ i ∧ ∃ id ending response,
      c.threads[i]? = some (.call { entry.invocation.request with requestId := id }
        (.returned ending response)) ∧ Shows entry.invocation response entry.answer

structure Daemon.Sound (settings : Settings) (daemon : Daemon) : Prop where
  leads : (Orchestration.service settings).Leads Choice.Sane (Orchestration.initial settings)
    daemon.service
  running : daemon.service.shared.shuttingDown = false
  methods : ∀ {request : Request} {stage : CallStage},
    .call request stage ∈ daemon.service.threads →
    request.method ≠ .daemonShutdown
  log : ∀ entry ∈ daemon.log, entry.Sound daemon.service

theorem Daemon.Sound.reachable {daemon : Daemon} (h : daemon.Sound settings) :
    Orchestration.Reachable settings daemon.service :=
  h.leads.mono fun _ _ => trivial

/-- The thread of the service is the dispatch of this request, and has returned this response. -/
def Dispatched (c : Config Shared Thread) (pair : Request × Response) (i : Nat) : Prop :=
  ∃ ending, c.threads[i]? = some (.call pair.1 (.returned ending pair.2))

/-- Nothing is on the wire between two calls, and what its handler has dispatched are, one by one,
the dispatches by which the calls were answered. -/
structure Wire.Sound (c : Config Shared Thread) (wire : Wire) : Prop where
  idle : Idle wire.peers
  dispatched : List.Forall₂ (Dispatched c) wire.peers.server.handler.dispatched wire.calls

/-- A call that waits for its dispatch is that of the request that was delivered. -/
def Line.Sound (c : Config Shared Thread) : Line → Prop
  | service => True
  | idle wire => wire.Sound c
  | calling wire invocation since => wire.Sound c ∧ since ≤ c.threads.length ∧
      invocation.request.method ≠ .daemonShutdown
  | awaiting wire invocation since i => wire.Sound c ∧ since ≤ i ∧ ∃ request stage,
      wire.delivered invocation.request = some request ∧ c.threads[i]? = some (.call request stage)

section Soundness

variable {settings : Settings} {c c' : Config Shared Thread} {act : Act Choice Request}

theorem Entry.Sound.next {entry : Entry} (h : entry.Sound c)
    (hnext : (Orchestration.service settings).next c act = some c') : entry.Sound c' := by
  unfold Entry.Sound at h ⊢
  split at h
  · exact h
  · obtain ⟨hsince, id, ending, response, hi, hshows⟩ := h
    exact ⟨hsince, id, ending, response, returned_stays hnext hi, hshows⟩

theorem Wire.Sound.next {wire : Wire} (h : wire.Sound c)
    (hnext : (Orchestration.service settings).next c act = some c') : wire.Sound c' where
  idle := h.idle
  dispatched := h.dispatched.imp fun _ _ ⟨ending, hi⟩ => ⟨ending, returned_stays hnext hi⟩

theorem Line.Sound.next {line : Line} (h : line.Sound c)
    (hnext : (Orchestration.service settings).next c act = some c') : line.Sound c' := by
  cases line with
  | service => trivial
  | idle wire => exact Wire.Sound.next h hnext
  | calling wire invocation since =>
    refine ⟨h.1.next hnext, Nat.le_trans h.2.1 ?_, h.2.2⟩
    rcases Program.next_cases hnext with ⟨other, -, rfl⟩ | ⟨j, l, choice, shared', l', -, -, rfl⟩
    · rw [List.length_append]
      exact Nat.le_add_right _ _
    · exact Nat.le_of_eq (List.length_set).symm
  | awaiting wire invocation since i =>
    obtain ⟨hwire, hsince, request, stage, hdelivered, hi⟩ := h
    obtain ⟨stage', hi'⟩ := call_stays hnext hi
    exact ⟨hwire.next hnext, hsince, request, stage', hdelivered, hi'⟩

omit [Kernel] in
theorem selected_request (invocation : Invocation) (id : UInt64) :
    ({ invocation.request with requestId := id } : Request).selected =
      { invocation.request with requestId := id } := by
  cases invocation <;> rfl

/-- What was delivered is the request of the call. -/
theorem delivered_eq_some {wire : Wire} {invocation : Invocation} {request : Request}
    (h : wire.delivered invocation.request = some request) :
    request = { invocation.request with requestId := wire.peers.client.nextRequestId } ∧
      (∃ link, wire.peers.client.link = some link) ∧
      (∃ handler, wire.peers.server = .serving handler) ∧
      ∃ payload, encodeRequest request = .ok payload := by
  unfold Wire.delivered at h
  split at h
  · rename_i link handler hlink hserver
    split at h
    · rename_i payload hencode
      rw [(decodeRequest_of_encodeRequest hencode).1, selected_request] at h
      cases h
      exact ⟨rfl, ⟨link, hlink⟩, ⟨handler, hserver⟩, payload, hencode⟩
    · cases h
  · cases h

theorem delivered_of_encodes {wire : Wire} {invocation : Invocation} {link : Link}
    {handler : Handler} {payload : Bytes} (hlink : wire.peers.client.link = some link)
    (hserver : wire.peers.server = .serving handler)
    (hencode : encodeRequest { invocation.request with
      requestId := wire.peers.client.nextRequestId } = .ok payload) :
    wire.delivered invocation.request =
      some { invocation.request with requestId := wire.peers.client.nextRequestId } := by
  have hdecode := (decodeRequest_of_encodeRequest hencode).1
  rw [selected_request] at hdecode
  unfold Wire.delivered
  simp only [hlink, hserver, hencode, hdecode]
  rfl

section Delivered

variable {wire : Wire} {invocation : Invocation} {round : Round} {request : Request}
  {result : Except Status Response} {peers : Peers}

theorem reaches_of_delivered (h : wire.delivered invocation.request = some request)
    (hrequest : round.request = invocation.request) : round.Reaches wire.peers := by
  obtain ⟨rfl, hlink, hserving, hencodes⟩ := delivered_eq_some h
  rw [← hrequest] at hencodes
  exact ⟨hlink, hserving, hencodes⟩

theorem not_reaches_of_undelivered (h : wire.delivered invocation.request = none)
    (hrequest : round.request = invocation.request) : ¬ round.Reaches wire.peers := by
  rintro ⟨⟨link, hlink⟩, ⟨handler, hserving⟩, payload, hencode⟩
  rw [Round.sent, hrequest] at hencode
  cases h.symm.trans (delivered_of_encodes hlink hserving hencode)

/-- The handler decodes what was delivered. -/
theorem dispatched_of_delivered (h : wire.delivered invocation.request = some request)
    (hrequest : round.request = invocation.request) : round.dispatched wire.peers = request := by
  rw [Round.dispatched, Round.sent, hrequest, selected_request]
  exact (delivered_eq_some h).1.symm

/-- A call that is not delivered leaves the log of the handler as it is. -/
theorem Wire.Sound.giveUp (h : wire.Sound c)
    (hundelivered : wire.delivered invocation.request = none)
    (hrequest : round.request = invocation.request)
    (hplay : round.play wire.descriptor wire.peers = some (result, peers)) :
    (wire.after peers none).Sound c := by
  obtain ⟨hend, hidle⟩ := roundEnd_of_play (Int.natCast_nonneg _) h.idle hplay
  refine ⟨hidle, ?_⟩
  have hserver := hend.server_eq (not_reaches_of_undelivered hundelivered hrequest)
  rw [Wire.after, hserver, Option.toList_none, List.append_nil]
  exact h.dispatched

/-- A call that is delivered makes the handler dispatch once. -/
theorem Wire.Sound.answer (h : wire.Sound c)
    (hdelivered : wire.delivered invocation.request = some request)
    (hrequest : round.request = invocation.request)
    (hplay : round.play wire.descriptor wire.peers = some (result, peers)) {i : Nat}
    {ending : Ending}
    (hthread : c.threads[i]? =
      some (.call request (.returned ending (round.turn.dispatch request)))) :
    (wire.after peers (some i)).Sound c := by
  obtain ⟨hend, hidle⟩ := roundEnd_of_play (Int.natCast_nonneg _) h.idle hplay
  refine ⟨hidle, ?_⟩
  have hlog := (hend.cases_of_reaches (reaches_of_delivered hdelivered hrequest)).1
  rw [dispatched_of_delivered hdelivered hrequest] at hlog
  rw [Wire.after, hlog]
  exact List.rel_append h.dispatched (.cons ⟨ending, hthread⟩ .nil)

end Delivered

theorem Daemon.Sound.next {daemon : Daemon} (h : daemon.Sound settings)
    (hact : act.Allowed Choice.Sane)
    (hmethods : ∀ request, act = .spawn request → request.method ≠ .daemonShutdown)
    (hnext : (Orchestration.service settings).next daemon.service act = some c') :
    Daemon.Sound settings ⟨c', daemon.log⟩ := by
  have hleads := h.leads.trans (Program.Leads.of_next hact hnext)
  have hlog : ∀ entry ∈ daemon.log, entry.Sound c' :=
    fun entry hentry => (h.log entry hentry).next hnext
  rcases Program.next_cases hnext with ⟨request, hspawn, rfl⟩ |
    ⟨j, l, choice, shared', l', -, hmoves, rfl⟩
  · refine ⟨hleads, h.running, fun hcall => ?_, hlog⟩
    rcases List.mem_append.mp hcall with hcall | hcall
    · exact h.methods hcall
    · cases List.mem_singleton.mp hcall
      exact hmethods request hspawn
  · refine ⟨hleads, ?_, fun hcall => ?_, hlog⟩
    · refine running_step hmoves h.running fun request heq => ?_
      subst heq
      have hmem := List.mem_of_getElem? hmoves.thread
      exact h.methods hmem (routed_of_reachable h.reachable _ hmem)
    · rcases List.mem_or_eq_of_mem_set hcall with hcall | hcall
      · exact h.methods hcall
      · obtain ⟨stage, rfl⟩ := call_of_moves hmoves ⟨_, hcall.symm⟩
        exact h.methods (List.mem_of_getElem? hmoves.thread)

/-- A dispatch that has returned answers its method, and its response is what `dispatch` makes of
its end. -/
theorem Daemon.Sound.returned {daemon : Daemon} (h : daemon.Sound settings)
    (hversion : settings.VersionFits) {i : Nat} {request : Request} {ending : Ending}
    {response : Response}
    (hi : daemon.service.threads[i]? = some (.call request (.returned ending response))) :
    ending.Answers request.method ∧ ending.Reports settings ∧
      response = respond request ending fun _ => false := by
  have hreports : Thread.Reports settings _ := (reportsOutline_holds hversion h.leads).thread hi
  exact ⟨(routed_of_reachable h.reachable _ (List.mem_of_getElem? hi)).1, hreports⟩

theorem Daemon.Sound.logged {daemon : Daemon} (h : daemon.Sound settings) {entry : Entry}
    (hentry : entry.Sound daemon.service) : (daemon.logged entry).Sound settings where
  leads := h.leads
  running := h.running
  methods := h.methods
  log := by
    intro other hother
    rcases List.mem_append.mp hother with hother | hother
    · exact h.log other hother
    · rw [List.mem_singleton.mp hother]
      exact hentry

/-- A call that could not be delivered fails. -/
theorem sound_giveUp {wire : Wire} {invocation : Invocation} {round : Round} {since : Nat}
    {result : Except Status Response} {peers : Peers} (hidle : Idle wire.peers)
    (hundelivered : wire.delivered invocation.request = none)
    (hrequest : round.request = invocation.request)
    (hplay : round.play wire.descriptor wire.peers = some (result, peers)) :
    Entry.Sound c ⟨invocation, since, none, invocation.answer result⟩ := by
  rw [Entry.Sound]
  by_contra hsucceeded
  rw [Bool.not_eq_false] at hsucceeded
  have hfailed : ∀ status, result = .error status → invocation.request.method.answersStatus = true →
      status.ok = false := by
    rintro status rfl hmethod
    exact play_error (hrequest ▸ hmethod) hplay
  obtain ⟨response, rfl, -⟩ := MovableClient.ok_of_succeeded hfailed hsucceeded
  exact not_reaches_of_undelivered hundelivered hrequest (reaches_of_play hidle hplay)

/-- A call that was dispatched answers what the dispatch has returned. -/
theorem sound_answer (hkernel : Kernel.Contract) (hversion : settings.VersionFits)
    {daemon : Daemon} (h : daemon.Sound settings) {wire : Wire} {invocation : Invocation}
    {round : Round} {since i : Nat} {request : Request} {ending : Ending} {stage : CallStage}
    {request' : Request} {result : Except Status Response} {peers : Peers}
    (hidle : Idle wire.peers) (hsince : since ≤ i)
    (hdelivered : wire.delivered invocation.request = some request')
    (hcall : daemon.service.threads[i]? = some (.call request' stage))
    (hthread : daemon.service.threads[i]? =
      some (.call request (.returned ending (round.turn.dispatch request))))
    (hrequest : round.request = invocation.request)
    (hplay : round.play wire.descriptor wire.peers = some (result, peers)) :
    Entry.Sound daemon.service ⟨invocation, since, some i, invocation.answer result⟩ := by
  cases hcall.symm.trans hthread
  obtain ⟨heq, ⟨link, hlink⟩, ⟨handler, hserver⟩, payload, hencode⟩ := delivered_eq_some hdelivered
  have hsent : round.sent wire.peers = request := by
    rw [Round.sent, hrequest, heq]
  have hdispatched := dispatched_of_delivered hdelivered hrequest
  obtain ⟨hanswers, hreports, hresponse⟩ := h.returned hversion hthread
  have hheard := play_hears (Int.natCast_nonneg _) hidle hlink hserver (hsent ▸ hencode) hplay
  rw [hdispatched] at hheard
  have hmethod : (round.turn.dispatch request).method = invocation.request.method := by
    rw [Turn.dispatch, (respond_header _ _ _).2, heq]
  refine ⟨hsince, wire.peers.client.nextRequestId, ending, round.turn.dispatch request, ?_, ?_⟩
  · rw [← heq]
    exact hthread
  · refine shows_of_hears hkernel hmethod (fun hplain => ?_) hheard
    rw [hresponse] at hplain ⊢
    exact encodeResponse_of_plain (hasHeader_of_encodeRequest hencode).1 hanswers hreports hplain

def outline (settings : Settings) : Outline Daemon Line where
  shared := Daemon.Sound settings
  thread _ daemon line := line.Sound daemon.service
  pair _ _ := True

theorem outline_preserves (hkernel : Kernel.Contract) (hversion : settings.VersionFits) :
    (remote settings).Preserves Event.Sane (fun _ => True) (outline settings) where
  symm _ := trivial
  start _ _ _ := ⟨⟨by rintro _ ⟨⟩; rfl, by rintro _ ⟨⟩; rfl⟩, .nil⟩
  start_pair _ _ := trivial
  own := by
    intro c k line event daemon' line' hsane hmoves _ hc
    have hline := hc.thread hmoves.thread
    have hdaemon : c.shared.Sound settings := hc.shared
    cases lineMove hmoves with
    | @inside i choice c' hnext =>
      have hact : (Act.move i choice : Act Choice Request).Allowed Choice.Sane := hsane
      exact ⟨hdaemon.next hact (by rintro _ ⟨⟩) hnext, trivial⟩
    | invoke hmethod => exact ⟨hdaemon, hline, Nat.le_refl _, hmethod⟩
    | @deliver wire invocation since request hdelivered =>
      have hnext : (service settings).next c.shared.service (.spawn request) = some _ := rfl
      obtain ⟨hwire, hsince, hmethod⟩ := hline
      have hact : (Act.spawn request : Act Choice Request).Allowed Choice.Sane := trivial
      have hshutdown : ∀ other, (Act.spawn request : Act Choice Request) = .spawn other →
          other.method ≠ .daemonShutdown := by
        rintro _ ⟨⟩
        rw [(delivered_eq_some hdelivered).1]
        exact hmethod
      exact ⟨hdaemon.next hact hshutdown hnext, hwire.next hnext, hsince, request,
        .begun, hdelivered, List.getElem?_concat_length⟩
    | giveUp hundelivered hrequest hplay =>
      exact ⟨hdaemon.logged (sound_giveUp hline.1.idle hundelivered hrequest hplay),
        hline.1.giveUp hundelivered hrequest hplay⟩
    | answer hthread hrequest hplay =>
      obtain ⟨hwire, hsince, request', stage, hdelivered, hcall⟩ := hline
      have hentry := sound_answer hkernel hversion hdaemon hwire.idle hsince hdelivered
        hcall hthread
        hrequest hplay
      cases hcall.symm.trans hthread
      exact ⟨hdaemon.logged hentry, hwire.answer hdelivered hrequest hplay hthread⟩
  other := by
    intro c k line event daemon' line' j m hsane hmoves _ hc _ hm
    refine ⟨?_, trivial⟩
    have hline : m.Sound c.shared.service := hc.thread hm
    cases lineMove hmoves with
    | inside hnext => exact hline.next hnext
    | @deliver wire invocation since request hdelivered =>
      have hnext : (service settings).next c.shared.service (.spawn request) = some _ := rfl
      exact hline.next hnext
    | _ => exact hline

theorem outline_holds (hkernel : Kernel.Contract) (hversion : settings.VersionFits)
    {c : Config Daemon Line} (h : Reachable settings c) : (outline settings).Holds c := by
  refine (outline_preserves hkernel hversion).holds (fun _ => trivial) ?_ h
  refine Outline.Holds.singleton ⟨Program.Leads.refl _, rfl, fun hcall => ?_, nofun⟩ trivial
  cases List.eq_of_mem_replicate hcall

end Soundness

end PhotospiderDaemon.Server.Remote
