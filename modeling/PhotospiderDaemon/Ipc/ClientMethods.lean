import PhotospiderDaemon.Ipc.Client
import PhotospiderDaemon.Ipc.Diagnostics

/-!
# The methods of the client

The public methods of `Client` in `src/lib/ipc/client.cpp`. A `Client` owns its `Impl` until it
is moved from. Each method fills in a request, has it called and picks its answer from the
response. Four of them return a plain `Status`, which comes from the response or from the call
that failed, so a call must never fail with the code `Ok`.

* `call_error`: it does not.
* `call_answered`: what was exchanged by a call that has a response.
* `answered_once`: methods that succeed on one connection were answered by different responses,
  whatever the server sends and whatever fails in between.
-/

namespace PhotospiderDaemon.Ipc

open Foundation

/-- A `Client`, which has no `Impl` after it was moved from. -/
structure MovableClient where
  impl : Option Client

/-- Which allocations of a method throw: the copy of its arguments, one within the call, or the
copy of what it returns. -/
structure MethodFaults where
  arguments : Bool
  call : CallFaults
  answer : Bool

def MethodFaults.none : MethodFaults := ⟨false, .none, false⟩

/-- The values that a method returns. -/
def Attempt.map {α β σ : Type} (f : α → β) : Attempt α σ → Attempt β σ
  | blocked state => .blocked state
  | returned value state => .returned (f value) state
  | raised state => .raised state

/-! ## What a method asks and answers -/

/-- A method with its arguments. -/
inductive Invocation where
  | sessionCreate (document : WorkflowDocument)
  | sessionClose (id : SessionId)
  | jobSubmit (id : SessionId) (options : JobSubmitOptions)
  | jobStatus (id : JobId)
  | jobCancel (id : JobId)
  | jobResult (id : JobId)
  | jobRelease (id : JobId)
  | daemonInfo
  | daemonShutdown

/-- The request that the method fills in. -/
def Invocation.request : Invocation → Request
  | sessionCreate document => { (default : Request) with method := .sessionCreate, document }
  | sessionClose sessionId => { (default : Request) with method := .sessionClose, sessionId }
  | jobSubmit sessionId submitOptions =>
    { (default : Request) with method := .jobSubmit, sessionId, submitOptions }
  | jobStatus jobId => { (default : Request) with method := .jobStatus, jobId }
  | jobCancel jobId => { (default : Request) with method := .jobCancel, jobId }
  | jobResult jobId => { (default : Request) with method := .jobResult, jobId }
  | jobRelease jobId => { (default : Request) with method := .jobRelease, jobId }
  | daemonInfo => { (default : Request) with method := .daemonInfo }
  | daemonShutdown => { (default : Request) with method := .daemonShutdown }

/-- What a method returns. -/
inductive Answer where
  | session (result : Except Status SessionId)
  | job (result : Except Status JobId)
  | status (result : Except Status JobStatus)
  | execution (result : Except Status ExecutionResult)
  | info (result : Except Status DaemonInfo)
  | plain (outcome : Status)

section Methods

variable [Kernel]

/-- The `Result` that a method makes of a call, with one field of the response. -/
def callResult {α : Type} (field : Response → α) : Except Status Response → Except Status α
  | .ok response => if response.status.ok then .ok (field response) else .error response.status
  | .error status => .error status

/-- The method reports success. -/
def Answer.succeeded : Answer → Bool
  | session (.ok _) | job (.ok _) | status (.ok _) | execution (.ok _) | info (.ok _) => true
  | plain outcome => outcome.ok
  | _ => false

/-- The answer that the method makes of its call. -/
def Invocation.answer : Invocation → Except Status Response → Answer
  | sessionCreate _, result => .session (callResult Response.sessionId result)
  | jobSubmit _ _, result => .job (callResult Response.jobId result)
  | jobStatus _, result => .status (callResult Response.jobStatus result)
  | jobResult _, result => .execution (callResult Response.executionResult result)
  | daemonInfo, result => .info (callResult Response.daemonInfo result)
  | sessionClose _, result | jobCancel _, result | jobRelease _, result | daemonShutdown, result =>
    .plain (Client.callStatus result)

/-! ## The methods -/

namespace MovableClient

/-- What all the methods have in common. -/
def perform {α : Type} (failed : Status → α) (answer : Except Status Response → α)
    (invocation : Invocation) (client : MovableClient) (faults : MethodFaults) :
    Attempt α MovableClient :=
  match client.impl with
  | none =>
    if faults.answer then .raised client
    else .returned (failed (Status.failure .invalidArgument (ascii "client is moved from"))) client
  | some impl =>
    if faults.arguments then .raised client
    else
      match impl.call invocation.request faults.call with
      | .blocked impl => .blocked ⟨some impl⟩
      | .raised impl => .raised ⟨some impl⟩
      | .returned result impl =>
        if faults.answer then .raised ⟨some impl⟩ else .returned (answer result) ⟨some impl⟩

/-- `Client::session_create`. -/
def sessionCreate (document : WorkflowDocument) :
    MovableClient → MethodFaults → Attempt (Except Status SessionId) MovableClient :=
  perform .error (callResult Response.sessionId) (.sessionCreate document)

/-- `Client::session_close`. -/
def sessionClose (id : SessionId) : MovableClient → MethodFaults → Attempt Status MovableClient :=
  perform (fun status => status) Client.callStatus (.sessionClose id)

/-- `Client::job_submit`. -/
def jobSubmit (id : SessionId) (options : JobSubmitOptions) :
    MovableClient → MethodFaults → Attempt (Except Status JobId) MovableClient :=
  perform .error (callResult Response.jobId) (.jobSubmit id options)

/-- `Client::job_status`. -/
def jobStatus (id : JobId) :
    MovableClient → MethodFaults → Attempt (Except Status JobStatus) MovableClient :=
  perform .error (callResult Response.jobStatus) (.jobStatus id)

/-- `Client::job_cancel`. -/
def jobCancel (id : JobId) : MovableClient → MethodFaults → Attempt Status MovableClient :=
  perform (fun status => status) Client.callStatus (.jobCancel id)

/-- `Client::job_result`. -/
def jobResult (id : JobId) :
    MovableClient → MethodFaults → Attempt (Except Status ExecutionResult) MovableClient :=
  perform .error (callResult Response.executionResult) (.jobResult id)

/-- `Client::job_release`. -/
def jobRelease (id : JobId) : MovableClient → MethodFaults → Attempt Status MovableClient :=
  perform (fun status => status) Client.callStatus (.jobRelease id)

/-- `Client::daemon_info`. -/
def daemonInfo : MovableClient → MethodFaults → Attempt (Except Status DaemonInfo) MovableClient :=
  perform .error (callResult Response.daemonInfo) .daemonInfo

omit [Kernel] in
/-- `Client::disconnect`. -/
def disconnect (client : MovableClient) : MovableClient := ⟨client.impl.map Client.disconnect⟩

/-- `Client::daemon_shutdown`. An exception skips the disconnect. -/
def daemonShutdown (client : MovableClient) (faults : MethodFaults) :
    Attempt Status MovableClient :=
  match perform (fun status => status) Client.callStatus .daemonShutdown client faults with
  | .returned status client => .returned status client.disconnect
  | other => other

/-- The method of an invocation. -/
def invoke (client : MovableClient) (faults : MethodFaults) :
    Invocation → Attempt Answer MovableClient
  | .sessionCreate document => (client.sessionCreate document faults).map .session
  | .sessionClose id => (client.sessionClose id faults).map .plain
  | .jobSubmit id options => (client.jobSubmit id options faults).map .job
  | .jobStatus id => (client.jobStatus id faults).map .status
  | .jobCancel id => (client.jobCancel id faults).map .plain
  | .jobResult id => (client.jobResult id faults).map .execution
  | .jobRelease id => (client.jobRelease id faults).map .plain
  | .daemonInfo => (client.daemonInfo faults).map .info
  | .daemonShutdown => (client.daemonShutdown faults).map .plain

/-- `Client::connect`, given what `connect_unix_socket` returns. A failure keeps the connection
that there was. -/
def connect (client : MovableClient) (connected : Except Status Link) :
    Status × MovableClient :=
  match connected with
  | .error status => (status, ⟨some (client.impl.getD ⟨none, 1⟩)⟩)
  | .ok link => (Status.success, ⟨some (Client.connect link)⟩)

/-- What a method does to the client, if it comes back. -/
inductive Called (client : MovableClient) (invocation : Invocation) (faults : MethodFaults) :
    MovableClient → Prop where
  | unmoved : Called client invocation faults client
  | called {impl impl' : Client} (himpl : client.impl = some impl)
    (hcall : (impl.call invocation.request faults.call).ended = some impl') :
    Called client invocation faults ⟨some impl'⟩
  | dropped {impl impl' : Client} (himpl : client.impl = some impl)
    (hcall : (impl.call invocation.request faults.call).ended = some impl') :
    Called client invocation faults ⟨some impl'.disconnect⟩

section Performing

variable {α : Type} {failed : Status → α} {answer : Except Status Response → α}
  {client client' : MovableClient} {invocation : Invocation} {faults : MethodFaults}

theorem perform_called (h : (perform failed answer invocation client faults).ended = some client') :
    Called client invocation faults client' := by
  unfold perform at h
  split at h
  · split at h <;> cases h <;> exact .unmoved
  · rename_i impl himpl
    split at h
    · cases h
      exact .unmoved
    · split at h
      · cases h
      · rename_i impl' hcall
        cases h
        exact .called himpl (by rw [hcall]; rfl)
      · rename_i result impl' hcall
        split at h <;> cases h <;> exact .called himpl (by rw [hcall]; rfl)

theorem perform_returned {value : α}
    (h : perform failed answer invocation client faults = .returned value client') :
    client.impl = none ∧ client' = client ∧
      (∃ message, value = failed (.failure .invalidArgument message)) ∨
    ∃ impl result impl', client.impl = some impl ∧ client' = ⟨some impl'⟩ ∧
      impl.call invocation.request faults.call = .returned result impl' ∧
        value = answer result := by
  unfold perform at h
  split at h
  · split at h <;> cases h
    exact Or.inl ⟨‹_›, rfl, _, rfl⟩
  · rename_i impl himpl
    split at h
    · cases h
    · split at h
      · cases h
      · cases h
      · rename_i result impl' hcall
        split at h <;> cases h
        exact Or.inr ⟨impl, result, impl', himpl, rfl, hcall, rfl⟩

end Performing

section Invoking

variable {client client' : MovableClient} {invocation : Invocation} {faults : MethodFaults}
  {answer : Answer}

omit [Kernel] in
theorem ended_map {α β σ : Type} (f : α → β) (attempt : Attempt α σ) :
    (attempt.map f).ended = attempt.ended := by
  cases attempt <;> rfl

theorem invoke_called (h : (client.invoke faults invocation).ended = some client') :
    Called client invocation faults client' := by
  cases invocation with
  | daemonShutdown =>
    simp only [invoke, ended_map, daemonShutdown] at h
    split at h
    · rename_i status client₁ hperform
      cases h
      rcases perform_returned hperform with ⟨himpl, rfl, -⟩ |
        ⟨impl, result, impl', himpl, rfl, hcall, -⟩
      · rw [disconnect, himpl, Option.map_none, ← himpl]
        exact .unmoved
      · exact .dropped himpl (by rw [hcall]; rfl)
    · exact perform_called h
  | _ =>
    simp only [invoke, ended_map] at h
    exact perform_called h

omit [Kernel] in
theorem map_returned {α β σ : Type} {f : α → β} {attempt : Attempt α σ} {value : β} {state : σ}
    (h : attempt.map f = .returned value state) :
    ∃ value', attempt = .returned value' state ∧ value = f value' := by
  cases attempt with
  | returned value' state' =>
    cases h
    exact ⟨value', rfl, rfl⟩
  | _ => cases h

omit [Kernel] in
/-- The client that a method leaves behind when its call has returned. -/
def leaves (impl : Client) : Invocation → MovableClient
  | .daemonShutdown => ⟨some impl.disconnect⟩
  | _ => ⟨some impl⟩

omit [Kernel] in
theorem leaves_cases (impl : Client) (invocation : Invocation) :
    leaves impl invocation = ⟨some impl⟩ ∨ leaves impl invocation = ⟨some impl.disconnect⟩ := by
  cases invocation with
  | daemonShutdown => exact Or.inr rfl
  | _ => exact Or.inl rfl

/-- An answer that reports success was made of a call. -/
theorem call_of_succeeded (h : client.invoke faults invocation = .returned answer client')
    (hanswer : answer.succeeded = true) : ∃ impl result impl', client.impl = some impl ∧
      impl.call invocation.request faults.call = .returned result impl' ∧
      answer = invocation.answer result ∧ client' = leaves impl' invocation := by
  have hperform : ∀ {α : Type} {failed : Status → α} {view : Except Status Response → α}
      {pack : α → Answer} {value : α} {client₁ : MovableClient},
      perform failed view invocation client faults = .returned value client₁ →
      (∀ message, (pack (failed (.failure .invalidArgument message))).succeeded = false) →
      (pack value).succeeded = true → (∀ result, pack (view result) = invocation.answer result) →
      ∃ impl result impl', client.impl = some impl ∧
        impl.call invocation.request faults.call = .returned result impl' ∧
        pack value = invocation.answer result ∧ client₁ = ⟨some impl'⟩ := by
    intro α failed view pack value client₁ hvalue hfailed hsucceeded hview
    rcases perform_returned hvalue with
      ⟨-, -, message, rfl⟩ | ⟨impl, result, impl', himpl, hclient, hcall, rfl⟩
    · exact absurd hsucceeded (by rw [hfailed message]; decide)
    · exact ⟨impl, result, impl', himpl, hcall, hview result, hclient⟩
  have hplain :
      ∀ message, (Answer.plain (Status.failure .invalidArgument message)).succeeded = false := by
    intro message
    simp [Answer.succeeded, ErrorCode.invalidArgument_ne_ok]
  cases invocation with
  | daemonShutdown =>
    obtain ⟨value, hvalue, rfl⟩ := map_returned h
    unfold daemonShutdown at hvalue
    split at hvalue
    · rename_i status client₁ hreturned
      cases hvalue
      obtain ⟨impl, result, impl', himpl, hcall, heq, rfl⟩ :=
        hperform hreturned hplain hanswer fun _ => rfl
      exact ⟨impl, result, impl', himpl, hcall, heq, rfl⟩
    · rename_i hother
      exact absurd hvalue (hother value client')
  | sessionClose | jobCancel | jobRelease =>
    obtain ⟨value, hvalue, rfl⟩ := map_returned h
    obtain ⟨impl, result, impl', himpl, hcall, heq, hclient⟩ :=
      hperform hvalue hplain hanswer fun _ => rfl
    exact ⟨impl, result, impl', himpl, hcall, heq, hclient⟩
  | _ =>
    obtain ⟨value, hvalue, rfl⟩ := map_returned h
    obtain ⟨impl, result, impl', himpl, hcall, heq, hclient⟩ :=
      hperform hvalue (fun _ => rfl) hanswer fun _ => rfl
    exact ⟨impl, result, impl', himpl, hcall, heq, hclient⟩

end Invoking

end MovableClient

/-! ## Calls that fail -/

/-- The methods that return a plain `Status`. -/
def Method.answersStatus : Method → Bool
  | .sessionClose | .jobCancel | .jobRelease | .daemonShutdown => true
  | _ => false

theorem encodeRequest_failure {request : Request} {status : Status}
    (hmethod : request.method.answersStatus = true) (h : encodeRequest request = .error status) :
    status.ok = false := by
  have hbody : Orderly (encodeRequestBody request) := by
    unfold encodeRequestBody
    cases hcase : request.method with
    | sessionClose => exact orderly_encodeSessionId _
    | jobCancel | jobRelease => exact orderly_encodeJobId _
    | daemonShutdown => exact .pure
    | _ =>
      rw [hcase] at hmethod
      cases hmethod
  have hencoder : Orderly (requestEncoder request) :=
    (Encoder.orderly_invalid (by decide)).bind fun _ => (Encoder.orderly_unsigned 2 _).bind fun _ =>
      (Encoder.orderly_unsigned 8 _).bind fun _ => (Encoder.orderly_u8 _).bind fun _ => hbody
  unfold encodeRequest Encoder.finish at h
  split at h
  · cases h
  · rename_i thrown hrun
    cases h
    have hreportable : (thrownStatus thrown).Reportable := hencoder.throws _ _ hrun
    exact decide_eq_false hreportable.1.1

open Decoder in
theorem refuses_decodeStatus : Refuses decodeStatus :=
  refuses_u8.bind fun _ => (refuses_throwIf (by decide)).bind fun _ =>
    (refuses_text _).bind fun _ =>
    (refuses_throwIf (by decide)).bind fun _ => .pure _

open Decoder in
theorem refuses_throwIf_bind {α : Type} {condition : Bool} {characters : List Char}
    {decoder : Decoder α} (h : plain characters = true)
    (hrest : condition = false → Refuses decoder) :
    Refuses (do
      throwIf condition (String.ofList characters)
      decoder) := by
  cases condition with
  | true =>
    intro s thrown s' hrun
    cases hrun
    exact malformed_literal h
  | false => exact hrest rfl

open Decoder in
/-- A response with nothing behind its status is only refused as `InvalidArgument`. -/
theorem decodeResponse_failure {payload : Bytes} {method : Method} {requestId : UInt64}
    {status : Status} (hmethod : method.answersStatus = true)
    (h : decodeResponse payload method requestId = .error status) : status.ok = false := by
  have hfields : Refuses (responseFields fenced method requestId).whole := by
    refine Throws.bind ?_ fun _ => refuses_requireEnd.bind fun _ => .pure _
    refine refuses_u16.bind fun _ => (refuses_throwIf (by decide)).bind fun _ => ?_
    refine refuses_u64.bind fun _ => refuses_u8.bind fun _ =>
      (refuses_decodeMethod _).bind fun m => ?_
    refine refuses_throwIf_bind (by decide) fun hmatch => refuses_decodeStatus.bind fun status => ?_
    obtain rfl : m = method := not_not.mp (of_decide_eq_false (Bool.or_eq_false_iff.mp hmatch).2)
    dsimp only
    split
    · unfold decodeResponseBody
      cases m <;> first | exact .pure _ | cases hmethod
    · exact .pure _
  have hinvalid : ∀ message, (Status.failure .invalidArgument message).ok = false :=
    fun message => decide_eq_false ErrorCode.invalidArgument_ne_ok
  unfold decodeResponse decodeResponseWith Decoder.start at h
  split at h
  · cases h
    exact hinvalid _
  · split at h
    · cases h
      exact hinvalid _
    · split at h
      · cases h
      · rename_i thrown state hrun
        cases h
        exact decide_eq_false (hfields _ _ _ hrun).2.1.1

theorem conclude_error {σ : Type} {r : Receipt Bytes σ} {endOfStream status : Status}
    {connection c : Connection} (hend : endOfStream.ok = false)
    (h : conclude r endOfStream connection = .returned (.error status) c) : status.ok = false := by
  unfold conclude at h
  split at h <;> cases h
  · exact hend
  · exact decide_eq_false ErrorCode.internal_ne_ok

/-- A read never fails with the code `Ok`. -/
theorem readFrame_error {descriptor : Int} {connection c : Connection} {status : Status}
    (h : readFrame descriptor connection = .returned (.error status) c) : status.ok = false := by
  have hinvalid : ∀ message, (Status.failure .invalidArgument message).ok = false :=
    fun message => decide_eq_false ErrorCode.invalidArgument_ne_ok
  unfold readFrame at h
  dsimp only at h
  split at h
  · cases h
    exact hinvalid _
  · split at h
    · cases h
    · rename_i hread
      cases h
      refine conclude_error ?_ hread
      unfold endOfStreamStatus
      split
      · exact decide_eq_false ErrorCode.notFound_ne_ok
      · exact hinvalid _
    · split at h
      · cases h
        exact hinvalid _
      · exact conclude_error (hinvalid _) h

theorem decodeProtocolError_failed {payload : Bytes} {response : Response}
    (h : decodeProtocolError payload = .ok response) : response.status.ok = false := by
  obtain ⟨-, state, hrun⟩ := start_eq_ok.mp h
  obtain ⟨response', s₁, -, hrest⟩ := Reader.bind_eq_ok hrun
  obtain ⟨hvalid, hpure⟩ := Reader.throwIf_bind_eq_ok hrest
  cases hpure
  exact (Bool.or_eq_false_iff.mp hvalid).1

/-! ## Calls that succeed -/

section Calls

variable {client client' : Client} {request : Request} {faults : CallFaults}

theorem readFrameOrRaise_error {growth : Option Nat} {diagnostic : Bool} {descriptor : Int}
    {connection c : Connection} {status : Status}
    (h : readFrameOrRaise growth diagnostic descriptor connection = .returned (.error status) c) :
    status.ok = false := by
  unfold readFrameOrRaise at h
  split at h
  · cases h
  · split at h
    · cases h
    · cases h
    · rename_i hread
      split at h <;> cases h
      exact readFrame_error hread

theorem accept_error {frame : Bytes} {status : Status}
    (hmethod : request.method.answersStatus = true)
    (h : client.accept request frame faults = .returned (.error status) client') :
    status.ok = false := by
  unfold Client.accept at h
  split at h
  · cases h
  · split at h
    · cases h
    · rename_i hdecode
      split at h
      · cases h
      · split at h
        · rename_i hsentinel
          split at h <;> cases h
          · exact decodeProtocolError_failed hsentinel
          · exact decodeResponse_failure hmethod hdecode
        · cases h
          exact decodeResponse_failure hmethod hdecode

theorem exchange_error {link : Link} {payload : Bytes} {status : Status}
    (hmethod : request.method.answersStatus = true)
    (h : client.exchange link request payload faults = .returned (.error status) client') :
    status.ok = false := by
  unfold Client.exchange at h
  split at h
  · cases h
  · cases h
  · split at h
    · rename_i hstatus
      cases h
      simpa using hstatus
    · split at h
      · cases h
      · cases h
      · rename_i hread
        split at h
        · cases h
        · split at h <;> cases h
          · exact decide_eq_false ErrorCode.internal_ne_ok
          · exact readFrameOrRaise_error hread
      · exact accept_error hmethod h

/-- A call of a method that returns a plain `Status` does not fail with the code `Ok`. -/
theorem call_error {status : Status} (hmethod : request.method.answersStatus = true)
    (h : client.call request faults = .returned (.error status) client') : status.ok = false := by
  have hmethod' :
      ({ request with requestId := client.nextRequestId } : Request).method.answersStatus =
      true := hmethod
  unfold Client.call at h
  split at h
  · split at h <;> cases h
    exact decide_eq_false ErrorCode.invalidArgument_ne_ok
  · dsimp only at h
    split at h
    · split at h <;> cases h
      exact decide_eq_false ErrorCode.resourceExhausted_ne_ok
    · split at h
      · cases h
      · split at h
        · rename_i hencode
          cases h
          exact encodeRequest_failure hmethod' hencode
        · exact exchange_error hmethod' h

/-- A call with a response: its request was sent as a whole, and the response is the next frame
of the stream, under the identity of the request. -/
structure Answered (client : Client) (request : Request) (response : Response) (client' : Client)
    (link link' : Link) (payload reply : Bytes) : Prop where
  connected : client.link = some link
  encoded : encodeRequest { request with requestId := client.nextRequestId } = .ok payload
  sent : link'.outgoing.sent = link.outgoing.sent ++ frame payload
  taken : link.incoming.stream = frame reply ++ link'.incoming.stream
  decoded : decodeResponse reply request.method client.nextRequestId = .ok response
  after : client' = ⟨some link', client.nextRequestId + 1⟩

theorem call_answered {response : Response}
    (h : client.call request faults = .returned (.ok response) client') :
    ∃ link link' payload reply,
      Answered client request response client' link link' payload reply := by
  unfold Client.call at h
  split at h
  · split at h <;> cases h
  rename_i link hlink
  dsimp only at h
  split at h
  · split at h <;> cases h
  split at h
  · cases h
  split at h
  · cases h
  rename_i payload hencode
  unfold Client.exchange at h
  obtain ⟨part, hsent, -, -, hwrites⟩ :=
    writeFrameOrRaise_part faults.write link.descriptor payload link.outgoing
  split at h
  · cases h
  · cases h
  rename_i status outgoing hwrite
  split at h
  · cases h
  rename_i hstatus
  -- A status that is `Ok` comes from a frame that was sent as a whole.
  have hwhole : outgoing.sent = link.outgoing.sent ++ frame payload := by
    rw [hwrite] at hsent hwrites
    rcases hwrites with ⟨o, ho, rfl⟩ | ⟨-, ⟨o, ho⟩ | ⟨o, ho⟩ | ⟨status', o, ho, hfailed⟩⟩
    · exact hsent
    · cases ho
    · cases ho
    · cases ho
      simp [hfailed] at hstatus
  obtain ⟨consumed, hstream, -, hok⟩ :=
    readFrameOrRaise_consumed faults.growth faults.read link.descriptor link.incoming
  split at h
  · cases h
  · cases h
  · split at h
    · cases h
    · split at h <;> cases h
  rename_i reply incoming hread
  obtain ⟨-, rfl⟩ := hok reply incoming hread
  rw [hread] at hstream
  unfold Client.accept at h
  split at h
  · cases h
  split at h
  · rename_i hdecode
    cases h
    exact ⟨link, _, payload, reply, hlink, hencode, hwhole, hstream, hdecode, rfl⟩
  · split at h
    · cases h
    · split at h
      · split at h <;> cases h
      · cases h

theorem exchange_nextRequestId {link : Link} {payload : Bytes}
    (h : (client.exchange link request payload faults).ended = some client') :
    client'.nextRequestId = client.nextRequestId := by
  unfold Client.exchange at h
  split at h
  · cases h
  · cases h
    rfl
  · split at h
    · cases h
      rfl
    · split at h
      · cases h
      · cases h
        rfl
      · split at h
        · cases h
          rfl
        · split at h <;> cases h <;> rfl
      · unfold Client.accept at h
        split at h
        · cases h
          rfl
        · split at h
          · cases h
            rfl
          · split at h
            · cases h
              rfl
            · split at h
              · split at h <;> cases h <;> rfl
              · cases h
                rfl

/-- The identities of the requests count up, and none is left when they wrap around. -/
theorem call_nextRequestId (h : (client.call request faults).ended = some client') :
    client'.link = none ∨ client.link ≠ none ∧ client.nextRequestId ≠ 0 ∧
      client'.nextRequestId = client.nextRequestId + 1 := by
  unfold Client.call at h
  split at h
  · rename_i hlink
    split at h <;> cases h <;> exact Or.inl hlink
  · rename_i link hlink
    dsimp only at h
    split at h
    · split at h <;> cases h <;> exact Or.inl rfl
    · rename_i hid
      refine Or.inr ⟨by rw [hlink]; nofun, hid, ?_⟩
      split at h
      · cases h
        rfl
      · split at h
        · cases h
          rfl
        · exact exchange_nextRequestId h

end Calls

/-! ## Sequences of operations -/

/-- What is done to a `Client`. The `Impl` that is moved away goes on in another one. -/
inductive Operation where
  | connect (connected : Except Status Link)
  | disconnect
  | moveAway
  | invoke (invocation : Invocation) (faults : MethodFaults)

/-- Everything but a connect that succeeds. -/
def Operation.keeps : Operation → Bool
  | connect (.ok _) => false
  | _ => true

namespace MovableClient

/-- The client after an operation, unless that is still waiting. -/
def operate (client : MovableClient) : Operation → Option MovableClient
  | .connect connected => some (client.connect connected).2
  | .disconnect => some client.disconnect
  | .moveAway => some ⟨none⟩
  | .invoke invocation faults => (client.invoke faults invocation).ended

def after (client : MovableClient) (operations : List Operation) : Option MovableClient :=
  operations.foldlM operate client

/-- The connection, if there still is one, has no request with this identity or a lower one
ahead of it. -/
def Beyond (id : UInt64) (client : MovableClient) : Prop :=
  ∀ impl, client.impl = some impl →
    impl.link = none ∨ impl.nextRequestId = 0 ∨ id < impl.nextRequestId

omit [Kernel] in
theorem beyond_succ {id : UInt64} (hid : id + 1 ≠ 0) : id < id + 1 := by
  rw [UInt64.lt_iff_toNat_lt, UInt64.toNat_add]
  have hlt := id.toNat_lt
  have hne : (id + 1).toNat ≠ 0 := fun hzero => hid (UInt64.toNat_inj.mp hzero)
  rw [UInt64.toNat_add] at hne
  have hone : (1 : UInt64).toNat = 1 := rfl
  rw [hone] at hne ⊢
  omega

variable {client client' : MovableClient}

theorem Beyond.called {id : UInt64} (h : client.Beyond id) {impl impl' : Client} {request : Request}
    {faults : CallFaults} (himpl : client.impl = some impl)
    (hcall : (impl.call request faults).ended = some impl') :
    impl'.link = none ∨ impl'.nextRequestId = 0 ∨ id < impl'.nextRequestId := by
  rcases call_nextRequestId hcall with hnone | ⟨hlink, hne, hnext⟩
  · exact Or.inl hnone
  · have hlt := ((h impl himpl).resolve_left hlink).resolve_left hne
    by_cases hzero : impl.nextRequestId + 1 = 0
    · exact Or.inr (Or.inl (hnext.trans hzero))
    · exact Or.inr (Or.inr (hnext ▸ UInt64.lt_trans hlt (beyond_succ hzero)))

theorem Beyond.operate {id : UInt64} (h : client.Beyond id) {operation : Operation}
    (hkeeps : operation.keeps = true) (hoperate : client.operate operation = some client') :
    client'.Beyond id := by
  cases operation with
  | connect connected =>
    cases connected with
    | ok link => cases hkeeps
    | error status =>
      cases hoperate
      rintro impl ⟨⟩
      cases himpl : client.impl with
      | none => exact Or.inl rfl
      | some impl => exact h impl himpl
  | disconnect =>
    cases hoperate
    intro impl himpl
    obtain ⟨impl', -, rfl⟩ := Option.map_eq_some_iff.mp himpl
    exact Or.inl rfl
  | moveAway =>
    cases hoperate
    nofun
  | invoke invocation faults =>
    cases invoke_called hoperate with
    | unmoved => exact h
    | called himpl hcall =>
      rintro impl ⟨⟩
      exact h.called himpl hcall
    | dropped himpl hcall =>
      rintro impl ⟨⟩
      exact Or.inl rfl

theorem Beyond.after {id : UInt64} {operations : List Operation}
    (hkeeps : ∀ operation ∈ operations, operation.keeps = true) (h : client.Beyond id)
    (hafter : client.after operations = some client') : client'.Beyond id := by
  induction operations generalizing client with
  | nil =>
    cases hafter
    exact h
  | cons operation operations ih =>
    obtain ⟨hfirst, hrest⟩ := List.forall_mem_cons.mp hkeeps
    obtain ⟨client₁, hoperate, hafter⟩ := Option.bind_eq_some_iff.mp hafter
    exact ih hrest (h.operate hfirst hoperate) hafter

/-- What stands behind a method that succeeds. The client has taken one frame; a shutdown has
disconnected it behind that. -/
structure Vouched (client : MovableClient) (invocation : Invocation) (answer : Answer)
    (response : Response) (client' : MovableClient) : Prop where
  answered : ∃ impl impl' link link' payload reply, client.impl = some impl ∧
    Answered impl invocation.request response impl' link link' payload reply ∧
    response.requestId = impl.nextRequestId ∧ client' = leaves impl' invocation
  ok : response.status.ok = true
  answer : answer = invocation.answer (.ok response)

theorem ok_of_succeeded {invocation : Invocation} {result : Except Status Response}
    (hfailed : ∀ status, result = .error status → invocation.request.method.answersStatus = true →
      status.ok = false)
    (h : (invocation.answer result).succeeded = true) :
    ∃ response, result = .ok response ∧ response.status.ok = true := by
  cases result with
  | error status =>
    cases invocation with
    | sessionClose | jobCancel | jobRelease | daemonShutdown =>
      exact absurd (h.symm.trans (hfailed status rfl rfl)) (by decide)
    | _ => cases h
  | ok response =>
    refine ⟨response, rfl, ?_⟩
    by_contra hok
    cases invocation with
    | sessionClose | jobCancel | jobRelease | daemonShutdown => exact hok h
    | _ => simp [Invocation.answer, callResult, hok, Answer.succeeded] at h

/-- A method that succeeds leaves the identity of its request behind. -/
theorem vouched_of_succeeded {invocation : Invocation} {faults : MethodFaults} {answer : Answer}
    (h : client.invoke faults invocation = .returned answer client')
    (hsucceeded : answer.succeeded = true) :
    ∃ response, Vouched client invocation answer response client' ∧
      client'.Beyond response.requestId := by
  obtain ⟨impl, result, impl', himpl, hcall, rfl, hclient⟩ := call_of_succeeded h hsucceeded
  obtain ⟨response, rfl, hok⟩ :=
    ok_of_succeeded (fun status heq hmethod => call_error hmethod (heq ▸ hcall)) hsucceeded
  obtain ⟨link, link', payload, reply, hanswered⟩ := call_answered hcall
  have hid := (hasHeader_of_decodeResponse hanswered.decoded).2.1
  refine ⟨response,
    ⟨⟨impl, impl', link, link', payload, reply, himpl, hanswered, hid, hclient⟩, hok, rfl⟩, ?_⟩
  rw [hclient]
  rcases leaves_cases impl' invocation with heq | heq <;> rw [heq]
  · rintro _ ⟨⟩
    refine Or.inr ?_
    rw [hanswered.after, hid]
    by_cases hzero : impl.nextRequestId + 1 = 0
    · exact Or.inl hzero
    · exact Or.inr (beyond_succ hzero)
  · rintro _ ⟨⟩
    exact Or.inl rfl

/-- Two methods that succeed on one connection were answered by two responses: whatever the server
sends and whatever fails in between, each of them has taken the frame that carries the identity of
its own request, and that of the later one is higher. -/
theorem answered_once {client₁ client₂ client₃ : MovableClient} {first second : Invocation}
    {faults faults' : MethodFaults} {answer answer' : Answer} {operations : List Operation}
    (hfirst : client.invoke faults first = .returned answer client₁)
    (hsucceeded : answer.succeeded = true)
    (hkeeps : ∀ operation ∈ operations, operation.keeps = true)
    (hafter : client₁.after operations = some client₂)
    (hsecond : client₂.invoke faults' second = .returned answer' client₃)
    (hsucceeded' : answer'.succeeded = true) :
    ∃ response response', Vouched client first answer response client₁ ∧
      Vouched client₂ second answer' response' client₃ ∧
      response.requestId < response'.requestId := by
  obtain ⟨response, hvouched, hbeyond⟩ := vouched_of_succeeded hfirst hsucceeded
  obtain ⟨response', hvouched', -⟩ := vouched_of_succeeded hsecond hsucceeded'
  refine ⟨response, response', hvouched, hvouched', ?_⟩
  obtain ⟨impl, _, link, _, payload, _, himpl, hanswered, hid, -⟩ := hvouched'.answered
  have hne : impl.nextRequestId ≠ 0 := (hasHeader_of_encodeRequest hanswered.encoded).1
  have hlinked : impl.link ≠ none := by
    rw [hanswered.connected]
    nofun
  rw [hid]
  exact ((hbeyond.after hkeeps hafter impl himpl).resolve_left hlinked).resolve_left hne

omit [Kernel] in
/-- An accepted `job.cancel` under the given identity. -/
def cancelledReply (id : UInt8) : Bytes := [3, 0, id, 0, 0, 0, 0, 0, 0, 0, 5, 0, 0, 0, 0, 0]

omit [Kernel] in
/-- Both responses are waiting. -/
def cancellingClient : MovableClient :=
  ⟨some (Client.connect { sampleLink [] with
    incoming := ⟨frames [cancelledReply 1, cancelledReply 2], List.replicate 4 (.ready 16), none⟩
    outgoing := ⟨[], List.replicate 6 (.ready 16)⟩ })⟩

omit [Kernel] in
/-- The call has returned, with this about it. -/
def returns {α σ : Type} (p : α → σ → Bool) : Attempt α σ → Bool
  | .returned value state => p value state
  | _ => false

omit [Kernel] in
theorem exists_of_returns {α σ : Type} {p : α → σ → Bool} {attempt : Attempt α σ}
    (h : returns p attempt = true) :
    ∃ value state, attempt = .returned value state ∧ p value state = true := by
  cases attempt with
  | returned value state => exact ⟨value, state, rfl, h⟩
  | _ => cases h

omit [Kernel] in
theorem answered_once_cancels :
    letI := sampleKernel
    ∃ (client₁ client₂ : MovableClient) (answer answer' : Answer) (response response' : Response),
      cancellingClient.invoke .none (.jobCancel ⟨7, 1⟩) = .returned answer client₁ ∧
      client₁.invoke .none (.jobCancel ⟨7, 2⟩) = .returned answer' client₂ ∧
      Vouched cancellingClient (.jobCancel ⟨7, 1⟩) answer response client₁ ∧
      Vouched client₁ (.jobCancel ⟨7, 2⟩) answer' response' client₂ ∧
      response.requestId < response'.requestId := by
  let _ : Kernel := sampleKernel
  have hrun : returns (fun answer client₁ => answer.succeeded &&
      returns (fun answer' _ => answer'.succeeded) (client₁.invoke .none (.jobCancel ⟨7, 2⟩)))
      (cancellingClient.invoke .none (.jobCancel ⟨7, 1⟩)) = true := by
    decide +kernel
  obtain ⟨answer, client₁, hfirst, hrun⟩ := exists_of_returns hrun
  obtain ⟨hsucceeded, hrun⟩ := Bool.and_eq_true_iff.mp hrun
  obtain ⟨answer', client₂, hsecond, hsucceeded'⟩ := exists_of_returns hrun
  have hkeeps : ∀ operation ∈ ([] : List Operation), operation.keeps = true := by simp
  obtain ⟨response, response', hvouched, hvouched', hlt⟩ :=
    answered_once hfirst hsucceeded hkeeps rfl hsecond hsucceeded'
  exact ⟨client₁, client₂, answer, answer', response, response', hfirst, hsecond, hvouched,
    hvouched', hlt⟩

end MovableClient

end Methods

end PhotospiderDaemon.Ipc
