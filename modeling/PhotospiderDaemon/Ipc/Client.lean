import PhotospiderDaemon.Ipc.FrameFaults
import PhotospiderDaemon.Ipc.ProtocolError

/-!
# The client

`Client::Impl` of `src/lib/ipc/client.cpp`. A call encodes its request, writes one frame,
reads one frame and decodes it. Every allocation on the way may throw `std::bad_alloc`, which
`call` does not catch. A call that is still waiting in a system call has not returned.

* `call_receives`: over a connection that moves all its bytes, a call is decided by the frame
  that waits for it.
* `protocolFailure_reaches_caller`: a failure that the server reports before routing.
-/

namespace PhotospiderDaemon.Ipc

open Foundation

/-- A connected descriptor: what was sent on it and what is still to be received. -/
structure Link where
  descriptor : Int
  valid : 0 ≤ descriptor
  incoming : Connection
  outgoing : Outgoing

/-- `Client::Impl`. A descriptor that was reset is gone. -/
structure Client where
  link : Option Link
  nextRequestId : UInt64

/-- Which allocations of a call throw. A status that `call` itself builds or copies is a
`diagnostic`; `growth` is the number of the payload's `recv` calls after which there is no
storage for it, where none stands for its reservation. -/
structure CallFaults where
  diagnostic : Bool
  encode : Bool
  write : Bool
  growth : Option Nat
  read : Bool
  decode : Bool
  sentinel : Bool

/-- Nothing throws. -/
def CallFaults.none : CallFaults := ⟨false, false, false, .none, false, false, false⟩

namespace Client

/-- `Client::connect`, once the socket is connected. -/
def connect (link : Link) : Client := ⟨some link, 1⟩

/-- `Client::connected`. -/
def connected (client : Client) : Bool := client.link.isSome

/-- `descriptor.reset()`, also `Client::disconnect`. -/
def disconnect (client : Client) : Client := { client with link := none }

variable [Kernel]

/-- The end of `call`, once a frame has been read. -/
def accept (client : Client) (request : Request) (frame : Bytes) (faults : CallFaults) :
    Attempt (Except Status Response) Client :=
  if faults.decode then .raised client
  else
    match decodeResponse frame request.method request.requestId with
    | .ok response => .returned (.ok response) client
    | .error status =>
      if faults.sentinel then .raised client
      else
        match decodeProtocolError frame with
        | .ok sentinel =>
          if sentinel.requestId = 0 && sentinel.method = .daemonInfo then
            .returned (.error sentinel.status) client.disconnect
          else .returned (.error status) client.disconnect
        | .error _ => .returned (.error status) client.disconnect

/-- The middle of `call`, once the request is encoded. -/
def exchange (client : Client) (link : Link) (request : Request) (payload : Bytes)
    (faults : CallFaults) : Attempt (Except Status Response) Client :=
  match writeFrameOrRaise faults.write link.descriptor payload link.outgoing with
  | .blocked outgoing => .blocked { client with link := some { link with outgoing } }
  | .raised outgoing => .raised { client with link := some { link with outgoing } }
  | .returned status outgoing =>
    if !status.ok then .returned (.error status) client.disconnect
    else
      match readFrameOrRaise faults.growth faults.read link.descriptor link.incoming with
      | .blocked incoming => .blocked { client with link := some { link with outgoing, incoming } }
      | .raised incoming => .raised { client with link := some { link with outgoing, incoming } }
      | .returned (.error status) _ =>
        if faults.diagnostic then .raised client.disconnect
        else if status.code = .notFound then
          .returned (.error (Status.failure .internal
            (ascii "local peer closed before a response; request outcome is unknown")))
            client.disconnect
        else .returned (.error status) client.disconnect
      | .returned (.ok frame) incoming =>
        accept { client with link := some { link with outgoing, incoming } } request frame faults

/-- `Client::Impl::call`. -/
def call (client : Client) (request : Request) (faults : CallFaults) :
    Attempt (Except Status Response) Client :=
  match client.link with
  | none =>
    if faults.diagnostic then .raised client
    else .returned (.error (Status.failure .invalidArgument (ascii "client is not connected")))
      client
  | some link =>
    if client.nextRequestId = 0 then
      if faults.diagnostic then .raised client.disconnect
      else
        .returned (.error (Status.failure .resourceExhausted (ascii "client request id exhausted")))
          client.disconnect
    else
      let request := { request with requestId := client.nextRequestId }
      let client := { client with nextRequestId := client.nextRequestId + 1 }
      if faults.encode then .raised client
      else
        match encodeRequest request with
        | .error status => .returned (.error status) client
        | .ok payload => client.exchange link request payload faults

/-- The status that a public method makes of a call. -/
def callStatus : Except Status Response → Status
  | .ok response => response.status
  | .error status => status

end Client

/-! ## Failures before routing -/

section Reaching

variable [Kernel]

/-- What the server has of a request when it fails: nothing, or the bytes it has kept. -/
def Kept (kept : Bytes) (requestPayload : Option Bytes) : Prop :=
  requestPayload = some kept ∨ kept = [] ∧ requestPayload = none

theorem recoverCorrelation_of_kept {request : Request} {payload kept : Bytes}
    {requestPayload : Option Bytes} (hencode : encodeRequest request = .ok payload)
    (hfront : kept <+: payload) (hkept : Kept kept requestPayload) :
    (11 ≤ kept.length →
      recoverCorrelation requestPayload = ⟨request.requestId, request.method⟩) ∧
    (kept.length < 11 → recoverCorrelation requestPayload = .sentinel) := by
  rcases hkept with rfl | ⟨rfl, rfl⟩
  · refine ⟨fun hlength => ?_, fun hlength => if_pos (Or.inl hlength)⟩
    obtain ⟨hne, hheader⟩ := hasHeader_of_encodeRequest hencode
    exact recoverCorrelation_of_hasHeader
      ⟨hne, List.prefix_of_prefix_length_le hheader hfront (by simpa using hlength)⟩
  · exact ⟨fun hlength => absurd hlength (by decide), fun _ => rfl⟩

theorem accept_of_correlated (client : Client) {request : Request} {status : Status}
    {requestPayload : Option Bytes} {reply : Bytes} (hid : request.requestId ≠ 0)
    (hreply : encodeProtocolError status requestPayload = .ok reply)
    (hrecover : recoverCorrelation requestPayload = ⟨request.requestId, request.method⟩) :
    client.accept request reply .none =
      .returned (.ok (failedResponse ⟨request.requestId, request.method⟩ status)) client := by
  have hdecode := decodeResponse_of_encodeProtocolError hreply (by rwa [hrecover])
  rw [hrecover] at hdecode
  rw [Client.accept, hdecode]
  rfl

theorem accept_of_sentinel (client : Client) (request : Request) {status : Status}
    {requestPayload : Option Bytes} {reply : Bytes}
    (hreply : encodeProtocolError status requestPayload = .ok reply)
    (hrecover : recoverCorrelation requestPayload = .sentinel) :
    client.accept request reply .none = .returned (.error status) client.disconnect := by
  obtain ⟨failure, hdecode⟩ :=
    decodeResponse_of_sentinel hreply hrecover request.method request.requestId
  have hsentinel := decodeProtocolError_of_encode hreply
  rw [hrecover] at hsentinel
  rw [Client.accept, hdecode, hsentinel]
  rfl

/-- A call over a connection that moves all the bytes it has to is decided by the frame that
is waiting for it. -/
theorem call_receives {client : Client} {link : Link} {request : Request}
    {payload reply rest : Bytes} (hlink : client.link = some link)
    (hencode : encodeRequest { request with requestId := client.nextRequestId } = .ok payload)
    (hsends : Steady link.outgoing.events)
    (hsent : (frame payload).length ≤ transfers link.outgoing.events)
    (hreceives : Steady link.incoming.events)
    (hreceived : (frame reply).length ≤ transfers link.incoming.events) (hreply : InRange reply)
    (hstream : link.incoming.stream = frame reply ++ rest) :
    ∃ link', link'.incoming.stream = rest ∧ client.call request .none =
      Client.accept ⟨some link', client.nextRequestId + 1⟩
        { request with requestId := client.nextRequestId } reply .none := by
  obtain ⟨hdecode, hlower, hupper⟩ := decodeRequest_of_encodeRequest hencode
  have hid : client.nextRequestId ≠ 0 := (hasHeader_of_encodeRequest hencode).1
  obtain ⟨o, hwrite, -⟩ := writeFrame_whole link.valid ⟨by omega, hupper⟩ hsends hsent
  obtain ⟨c, hread, hrest, -⟩ := readFrame_whole link.valid hreceives hreply hstream hreceived
  refine ⟨{ link with outgoing := o, incoming := c }, hrest, ?_⟩
  unfold Client.call
  simp only [hlink, hid, hencode, if_false, CallFaults.none, Bool.false_eq_true]
  unfold Client.exchange
  simp only [writeFrameOrRaise, hwrite, Status.ok_success, if_true, Bool.not_true,
    readFrameOrRaise, growthFailure, hread, Bool.false_eq_true, if_false]

/-- A failure that the server reports before routing comes back from the call as itself: under
the correlation of the request if the server has its header, and under the sentinel, which
drops the connection, otherwise. What is recovered from a payload is decided by its first
eleven bytes and agrees with the decoder of requests wherever that is past the header. -/
theorem protocolFailure_reaches_caller :
    (∀ (client : Client) (link : Link) (request : Request) (payload kept reply rest : Bytes)
      (requestPayload : Option Bytes) (status : Status), client.link = some link →
      encodeRequest { request with requestId := client.nextRequestId } = .ok payload →
      kept <+: payload → Kept kept requestPayload →
      encodeProtocolError status requestPayload = .ok reply →
      Steady link.outgoing.events → (frame payload).length ≤ transfers link.outgoing.events →
      Steady link.incoming.events → (frame reply).length ≤ transfers link.incoming.events →
      link.incoming.stream = frame reply ++ rest →
      ∃ result client', client.call request .none = .returned result client' ∧
        Client.callStatus result = status ∧
        (11 ≤ kept.length → client'.connected = true ∧
          result = decodeResponse reply request.method client.nextRequestId) ∧
        (kept.length < 11 → client'.connected = false ∧ result = .error status)) ∧
    (∀ payload payload' : Bytes, payload.take 11 = payload'.take 11 →
      recoverCorrelation (some payload) = recoverCorrelation (some payload')) ∧
    (∀ payload requestId method state, requestHeader ⟨payload, []⟩ = .ok (requestId, method) state →
      recoverCorrelation (some payload) = ⟨requestId, method⟩) ∧
    ∀ payload request, decodeRequest payload = .ok request →
      recoverCorrelation (some payload) = ⟨request.requestId, request.method⟩ := by
  refine ⟨?_, fun payload payload' htake => ?_, fun payload requestId method state hheader => ?_,
    fun payload request hdecode => ?_⟩
  · intro client link request payload kept reply rest requestPayload status hlink hencode hfront
      hkept hreply hsends hsent hreceives hreceived hstream
    obtain ⟨hlower, hupper⟩ := length_of_encodeProtocolError hreply
    obtain ⟨link', -, hcall⟩ := call_receives hlink hencode hsends hsent hreceives hreceived
      ⟨by omega, hupper⟩ hstream
    obtain ⟨hfull, hshort⟩ := recoverCorrelation_of_kept hencode hfront hkept
    rw [hcall]
    by_cases hlength : 11 ≤ kept.length
    · have hrecover := hfull hlength
      have hdecode := decodeResponse_of_encodeProtocolError hreply
        (by rw [hrecover]; exact (hasHeader_of_encodeRequest hencode).1)
      rw [hrecover] at hdecode
      exact ⟨_, _, accept_of_correlated _ (hasHeader_of_encodeRequest hencode).1 hreply
        hrecover, rfl,
        fun _ => ⟨rfl, hdecode.symm⟩, fun hless => absurd hlength (Nat.not_le.mpr hless)⟩
    · have hrecover := hshort (Nat.lt_of_not_le hlength)
      exact ⟨_, _, accept_of_sentinel _ _ hreply hrecover, rfl,
        fun hmore => absurd hmore hlength, fun _ => ⟨rfl, rfl⟩⟩
  · rw [← recoverCorrelation_take, htake, recoverCorrelation_take]
  · exact recoverCorrelation_of_hasHeader (requestHeader_eq_ok hheader)
  · exact recoverCorrelation_of_hasHeader (hasHeader_of_decodeRequest hdecode)

omit [Kernel] in
/-- A descriptor on which a frame is waiting, byte by byte. -/
def sampleLink (waiting : List Bytes) : Link where
  descriptor := 3
  valid := by decide
  incoming := ⟨frames waiting, List.replicate 64 (.ready 1), none⟩
  outgoing := ⟨[], List.replicate 64 (.ready 1)⟩

omit [Kernel] in
/-- The server has five bytes of a `daemon.info` request when it runs out of storage. -/
theorem protocolFailure_reaches_caller_partial :
    letI := sampleKernel
    ∃ client' : Client,
      (Client.connect (sampleLink [[3, 0, 0, 0, 0, 0, 0, 0, 0, 0, 8, 3, 0, 0, 0, 0]])).call default
        .none = .returned (.error ⟨⟨3⟩, []⟩) client' ∧ client'.connected = false := by
  let _ : Kernel := sampleKernel
  obtain ⟨result, client', hcall, -, -, hshort⟩ := protocolFailure_reaches_caller.1
    (Client.connect (sampleLink [[3, 0, 0, 0, 0, 0, 0, 0, 0, 0, 8, 3, 0, 0, 0, 0]])) _ default
    [3, 0, 1, 0, 0, 0, 0, 0, 0, 0, 8] [3, 0, 1, 0, 0] _ [] (some [3, 0, 1, 0, 0]) ⟨⟨3⟩, []⟩ rfl rfl
    (by decide) (Or.inl rfl) rfl (by simp [sampleLink, Steady, TransferEvent.Steady])
    (by decide) (by simp [sampleLink, Steady, TransferEvent.Steady]) (by decide) rfl
  obtain ⟨hconnected, rfl⟩ := hshort (by decide)
  exact ⟨client', hcall, hconnected⟩

end Reaching

end PhotospiderDaemon.Ipc
