import PhotospiderDaemon.Orchestration.Reports
import PhotospiderDaemon.Server.StreamLaw

/-!
# The exception fences and the wire

Three fences turn an exception into a failure of a fixed category: the one of `dispatch`, the
one of the connection loop and the one of a worker. Each keeps the text of `what()` if it can
allocate a copy. But none of them asks whether the encoder will take that text, and the encoder
refuses what is longer than 4096 bytes or not UTF-8. What then becomes of the category is
different for each of them: `dispatch` has it replaced by `InvalidArgument`, the connection loop
sends nothing at all, and the job can no longer be asked for its status. A second exception on
the way to the wire replaces the first one.

* `serveLoop_method`: an exception inside of a routed method.
* `serveLoop_raised`: an exception inside of the connection loop.
* `fence_step`, `fenced_of_leads`: an exception inside of a job, over any run from there on.
* `fences_keep_category_iff`: all of them.
-/

namespace PhotospiderDaemon.Server

open Foundation Ipc Orchestration

variable [Kernel]

/-! ## Texts and frames -/

omit [Kernel] in
theorem presentable_handlerDiagnostic_iff (exception : Raised) :
    Ipc.Presentable ((handlerDiagnostic exception).getD []) ↔ exception.Presentable :=
  @presentable_reason_iff (fun exception => (handlerDiagnostic exception).getD [])
    (fun _ => rfl) (presentable_ascii (by decide)) (presentable_ascii (by decide)) exception

omit [Kernel] in
/-- A diagnostic that cannot be allocated is replaced by the empty one, which always fits. -/
theorem presentable_or_empty_iff {failed : Bool} {reason : Bytes} {fits : Prop}
    (h : Ipc.Presentable reason ↔ fits) :
    Ipc.Presentable (if failed then [] else reason) ↔ failed = true ∨ fits := by
  cases failed with
  | true => exact iff_of_true presentable_nil (Or.inl rfl)
  | false => simpa using h

/-- Between two states of a descriptor exactly one failed frame was sent, under this correlation
and with this code. -/
def ReportedOnce (outgoing outgoing' : Outgoing) (correlation : RecoveredCorrelation)
    (code : ErrorCode) : Prop :=
  ∃ reply status, InRange reply ∧ outgoing'.sent = outgoing.sent ++ frame reply ∧
    decodeProtocolError reply = .ok (failedResponse correlation status) ∧ status.code = code

theorem reportedOnce_iff {outgoing outgoing' : Outgoing} {status : Status} {kept : Option Bytes}
    {reply : Bytes} (hreply : encodeProtocolError status kept = .ok reply)
    (hsent : outgoing'.sent = outgoing.sent ++ frame reply) (code : ErrorCode) :
    ReportedOnce outgoing outgoing' (recoverCorrelation kept) code ↔ status.code = code := by
  have hrange := inRange_of_encodeProtocolError hreply
  have hdecode := decodeProtocolError_of_encode hreply
  refine ⟨?_, fun hcode => ⟨reply, status, hrange, hsent, hdecode, hcode⟩⟩
  rintro ⟨reply', status', hrange', hsent', hdecode', rfl⟩
  have hframes : frame reply ++ [] = frame reply' ++ [] :=
    congrArg (· ++ []) (List.append_cancel_left (hsent.symm.trans hsent'))
  obtain ⟨rfl, -⟩ := frame_append_inj hrange hrange' hframes
  have hresponse := Except.ok.inj (hdecode.symm.trans hdecode')
  exact congrArg (fun response : Response => response.status.code) hresponse

/-- A connection that takes a whole frame. -/
structure Writable (descriptor : Int) (outgoing : Outgoing) : Prop where
  valid : 0 ≤ descriptor
  sends : Steady outgoing.events
  room : maximumFramePayloadBytes + 4 ≤ transfers outgoing.events

theorem Writable.writeFrame {descriptor : Int} {outgoing : Outgoing}
    (h : Writable descriptor outgoing) {reply : Bytes} (hreply : InRange reply) :
    ∃ o, writeFrame descriptor reply outgoing = .returned Status.success o ∧
      o.sent = outgoing.sent ++ frame reply := by
  have hlength : (frame reply).length ≤ transfers outgoing.events := by
    rw [length_frame]
    exact Nat.le_trans (Nat.add_le_add_right hreply.2 4) h.room
  obtain ⟨o, hwrite, hsent, -⟩ := writeFrame_whole h.valid hreply h.sends hlength
  exact ⟨o, hwrite, hsent⟩

/-- The report of an exception that leaves the connection loop keeps its category: nothing throws
while it is prepared, and its diagnostic fits or cannot be allocated. -/
def ReportFaults.Keeps (report : ReportFaults) (exception : Raised) : Prop :=
  report.prepare = false ∧ (report.diagnostic = true ∨ exception.Presentable)

/-- The turn keeps the category of an exception of its routed method: the diagnostic fits or
cannot be allocated. If an exception replaces it while the response is encoded, that one must be
of the same category and reported. -/
def Turn.Keeps (turn : Turn) (exception : Raised) : Prop :=
  match turn.encode with
  | none => turn.fails .diagnostic = true ∨ exception.Presentable
  | some second => handlerCode second = fenceCode exception ∧ turn.report.Keeps second

/-! ## Inside of the connection loop -/

variable {descriptor : Int} {turn : Turn} {handler : Handler} {exception : Raised}

/-- A read that returns has kept the front of its payload. -/
theorem progress_of_read {growth : Option Nat} {diagnostic : Bool} {connection c : Connection}
    {payload : Bytes}
    (h : readFrameOrRaise growth diagnostic descriptor connection = .returned (.ok payload) c) :
    InRange payload ∧ connection.stream = frame payload ++ c.stream ∧
      c.progress = connection.progress.map fun _ => ⟨payload.take 11⟩ := by
  obtain ⟨consumed, hstream, -, hok⟩ :=
    readFrameOrRaise_consumed growth diagnostic descriptor connection
  obtain ⟨hrange, rfl⟩ := hok payload c h
  rw [h] at hstream
  have hread : readFrame descriptor connection = .returned (.ok payload) c := by
    unfold readFrameOrRaise at h
    split at h
    · cases h
    · split at h
      · cases h
      · rename_i hread
        cases h
        exact hread
      · split at h <;> cases h
  obtain ⟨consumed, hconsumed, -, hprogress⟩ := readFrame_progress descriptor connection
  rw [hread] at hconsumed hprogress
  have hsame : consumed = frame payload :=
    List.append_cancel_right (hconsumed.symm.trans hstream)
  rw [hsame] at hprogress
  exact ⟨hrange, hstream, hprogress⟩

omit turn handler exception in
theorem refuse_ne_raised (descriptor : Int) (turn : Turn) (handler handler' : Handler)
    (status : Status) (requestPayload : Option Bytes) (progress : Option FrameReadProgress)
    (exception : Raised) :
    refuse descriptor turn handler status requestPayload progress ≠ .raised exception handler' := by
  obtain ⟨outgoing, hrefuse | hrefuse⟩ :=
    refuse_handler descriptor turn handler status requestPayload progress <;> rw [hrefuse] <;> nofun

/-- On a writable connection nothing was sent in a turn before an exception leaves it. If the
request was read, its front is kept. -/
theorem serveTurn_raised (hwritable : Writable descriptor handler.outgoing) {handler' : Handler}
    (h : serveTurn descriptor turn handler = .raised exception handler') :
    handler'.outgoing = handler.outgoing ∧
      ∀ payload connection, readFrameOrRaise turn.growth turn.read descriptor handler.incoming =
          .returned (.ok payload) connection →
        recoverCorrelation (some handler'.progress.payloadPrefix) =
          recoverCorrelation (some payload) := by
  have hkept : ∀ {payload connection}, readFrameOrRaise turn.growth turn.read descriptor
      handler.incoming = .returned (.ok payload) connection →
      recoverCorrelation (some (handler.received connection).progress.payloadPrefix) =
        recoverCorrelation (some payload) := by
    intro payload connection hread
    rw [Handler.received, (progress_of_read hread).2.2]
    exact recoverCorrelation_take payload
  unfold serveTurn at h
  split at h
  · cases h
  · rename_i hread
    cases h
    refine ⟨rfl, fun payload connection hreturned => ?_⟩
    cases hread.symm.trans hreturned
  · dsimp only at h
    split at h
    · exact absurd h (refuse_ne_raised _ _ _ _ _ _ _ _)
    · cases h
  · rename_i payload connection hread
    have hsame : ∀ {handler'' : Handler}, handler''.progress =
        (handler.received connection).progress →
        ∀ payload' connection', readFrameOrRaise turn.growth turn.read descriptor handler.incoming =
            .returned (.ok payload') connection' →
          recoverCorrelation (some handler''.progress.payloadPrefix) =
            recoverCorrelation (some payload') := by
      intro handler'' hprogress payload' connection' hread'
      cases hread.symm.trans hread'
      rw [hprogress]
      exact hkept hread
    split at h
    · cases h
      exact ⟨rfl, hsame rfl⟩
    · split at h
      · exact absurd h (refuse_ne_raised _ _ _ _ _ _ _ _)
      · rename_i request _
        unfold answer at h
        dsimp only at h
        split at h
        · cases h
          exact ⟨rfl, hsame rfl⟩
        · split at h
          · exact absurd h (refuse_ne_raised _ _ _ _ _ _ _ _)
          · -- A write throws only if it has failed.
            rename_i reply hreply
            obtain ⟨o, hwrite, -⟩ := hwritable.writeFrame (hasHeader_of_encodeResponse hreply).2
            have hwritten : writeFrameOrRaise turn.write descriptor reply
                ((handler.received connection).noted request (turn.dispatch request)).outgoing =
                  .returned Status.success o := by
              change writeFrameOrRaise turn.write descriptor reply handler.outgoing = _
              rw [writeFrameOrRaise, hwrite]
              simp only [Status.ok_success, if_true]
            rw [hwritten] at h
            simp only [Status.ok_success, Bool.not_true, Bool.false_eq_true, if_false] at h
            split at h <;> cases h

/-- The status of a handler failure. -/
theorem handlerFailure_eq (report : ReportFaults) (exception : Raised) :
    handlerFailure report (handlerCode exception) (handlerDiagnostic exception) =
      ⟨handlerCode exception,
        if report.diagnostic then [] else (handlerDiagnostic exception).getD []⟩ := by
  have hcode : handlerCode exception ≠ .ok := fenceCode_ne_ok exception
  unfold handlerFailure failureWithoutAllocation
  cases report.diagnostic <;> simp [hcode, Status.failure]

/-- A report is sent in one frame if nothing throws before and its status can be sent, and not at
all otherwise. -/
theorem writeProtocolFailure_spec {outgoing : Outgoing} (hwritable : Writable descriptor outgoing)
    (faults : ReportFaults) (status : Status) (requestPayload : Option Bytes)
    (progress : Option FrameReadProgress) :
    (∃ reply outgoing', (faults.prepare = false ∧ status.Reportable) ∧
      encodeProtocolError status (reportedPayload requestPayload progress) = .ok reply ∧
      writeProtocolFailure faults descriptor status requestPayload progress outgoing =
        .returned () outgoing' ∧ outgoing'.sent = outgoing.sent ++ frame reply) ∨
    ¬ (faults.prepare = false ∧ status.Reportable) ∧
      writeProtocolFailure faults descriptor status requestPayload progress outgoing =
        .returned () outgoing := by
  unfold writeProtocolFailure
  cases hprepare : faults.prepare with
  | true => exact Or.inr ⟨fun h => absurd h.1 (by decide), rfl⟩
  | false =>
    rw [if_neg Bool.false_ne_true]
    cases hencode : encodeProtocolError status (reportedPayload requestPayload progress) with
    | error failure =>
      refine Or.inr ⟨fun hreport => ?_, rfl⟩
      obtain ⟨reply, hreply⟩ := encodeProtocolError_iff.mpr hreport.2
      exact absurd (hencode.symm.trans hreply) nofun
    | ok reply =>
      obtain ⟨outgoing', hwrite, hsent⟩ :=
        hwritable.writeFrame (inRange_of_encodeProtocolError hencode)
      refine Or.inl ⟨reply, outgoing', ⟨rfl, encodeProtocolError_iff.mp ⟨reply, hencode⟩⟩, rfl, ?_,
        hsent⟩
      simp only [hwrite]

/-- Nothing was sent, so no frame was. -/
theorem not_reportedOnce {outgoing : Outgoing} (correlation : RecoveredCorrelation)
    (code : ErrorCode) : ¬ ReportedOnce outgoing outgoing correlation code := by
  rintro ⟨reply, status, -, hsent, -⟩
  exact frame_ne_nil reply (List.append_right_eq_self.mp hsent.symm)

/-- The fence of the connection loop sends its failure in one frame, or nothing. -/
theorem recover_fence (report : ReportFaults) (handler : Handler)
    (hwritable : Writable descriptor handler.outgoing) (exception : Raised) :
    ∃ outgoing, recover descriptor report exception handler = .left (handler.sent outgoing) ∧
      ((report.Keeps exception ∧ ∀ code, ReportedOnce handler.outgoing outgoing
          (recoverCorrelation (some handler.progress.payloadPrefix)) code ↔
            handlerCode exception = code) ∨
        ¬ report.Keeps exception ∧ outgoing = handler.outgoing) := by
  have hstatus := handlerFailure_eq report exception
  have hfits : report.prepare = false ∧ (handlerFailure report (handlerCode exception)
      (handlerDiagnostic exception)).Reportable ↔ report.Keeps exception := by
    rw [hstatus]
    refine and_congr_right fun _ => ?_
    rw [← presentable_or_empty_iff (presentable_handlerDiagnostic_iff exception)]
    exact and_iff_right (failing_fenceCode exception)
  unfold recover writeHandlerFailure
  rcases writeProtocolFailure_spec hwritable report (handlerFailure report (handlerCode exception)
      (handlerDiagnostic exception)) none (some handler.progress) with
    ⟨reply, outgoing, hreport, hreply, hwrite, hsent⟩ | ⟨hreport, hwrite⟩ <;> rw [hwrite]
  · refine ⟨outgoing, rfl, Or.inl ⟨hfits.mp hreport, fun code => ?_⟩⟩
    have honce := reportedOnce_iff hreply hsent code
    rwa [recoverCorrelation_reportedPayload, hstatus] at honce
  · exact ⟨handler.outgoing, rfl, Or.inr ⟨mt hfits.mpr hreport, rfl⟩⟩

/-- An exception that leaves the connection loop is reported in one frame with its category, or
not at all. -/
theorem serveLoop_raised (hwritable : Writable descriptor handler.outgoing)
    (hstopping : turn.stopping = false) {handler' : Handler}
    (h : serveTurn descriptor turn handler = .raised exception handler') :
    (turn.report.Keeps exception ∧ ∀ code,
      ReportedOnce handler.outgoing (serveLoop descriptor [turn] handler).handler.outgoing
        (recoverCorrelation (some handler'.progress.payloadPrefix)) code ↔
          handlerCode exception = code) ∨
    ¬ turn.report.Keeps exception ∧
      (serveLoop descriptor [turn] handler).handler.outgoing = handler.outgoing := by
  have hsame := (serveTurn_raised hwritable h).1
  obtain ⟨outgoing, hrecover, hcases⟩ := recover_fence turn.report handler'
    (hsame ▸ hwritable) exception
  have hloop : (serveLoop descriptor [turn] handler).handler.outgoing = outgoing := by
    simp only [serveLoop, hstopping, Bool.false_eq_true, if_false, h, hrecover]
    rfl
  rwa [hloop, ← hsame]

/-! ## Inside of a routed method -/

/-- No fence reports an exception as an invalid argument. -/
theorem fenceCode_ne_invalidArgument (exception : Raised) :
    fenceCode exception ≠ .invalidArgument := by
  cases exception with
  | badAlloc => exact ErrorCode.distinct.2.1.2.1.symm
  | _ => exact ErrorCode.distinct.2.1.2.2.2.symm

/-- What `dispatch` answers to a request whose method raises, and whether it can be encoded. -/
theorem encodeResponse_fence {request : Request} {payload : Bytes}
    (hheader : HasHeader payload request.requestId request.method)
    (hending : turn.ending request = .failed (.raised exception)) :
    (turn.dispatch request).status.code = fenceCode exception ∧
      encodeResponse (turn.dispatch request) =
        encodeProtocolError (turn.dispatch request).status (some payload) ∧
      ((∃ reply, encodeResponse (turn.dispatch request) = .ok reply) ∧
          (turn.fails .diagnostic = true ∨ exception.Presentable) ∨
        (∃ failure, encodeResponse (turn.dispatch request) = .error failure ∧
          failure.code = .invalidArgument) ∧
            ¬ (turn.fails .diagnostic = true ∨ exception.Presentable)) := by
  have hstatus : (turn.dispatch request).status =
      ⟨fenceCode exception, if turn.fails .diagnostic then [] else dispatchReason exception⟩ := by
    rw [Turn.dispatch, hending]
    exact fenceResponse_status _ _ _
  have hfailed : (turn.dispatch request).status.ok = false := by
    rw [hstatus]
    exact decide_eq_false (fenceCode_ne_ok exception)
  have hencode : encodeResponse (turn.dispatch request) =
      encodeProtocolError (turn.dispatch request).status (some payload) := by
    obtain ⟨hid, hmethod⟩ := dispatch_header turn request
    exact encodeResponse_failed (by rwa [hid, hmethod]) hfailed
  have hcode : (turn.dispatch request).status.code.Failing := by
    rw [hstatus]
    exact failing_fenceCode exception
  have hfits : Ipc.Presentable (turn.dispatch request).status.message ↔
      turn.fails .diagnostic = true ∨ exception.Presentable := by
    rw [hstatus]
    exact presentable_or_empty_iff (presentable_dispatchReason_iff exception)
  refine ⟨by rw [hstatus], hencode, ?_⟩
  rw [hencode, ← hfits]
  by_cases hpresentable : Ipc.Presentable (turn.dispatch request).status.message
  · exact Or.inl ⟨encodeProtocolError_iff.mpr ⟨hcode, hpresentable⟩, hpresentable⟩
  · exact Or.inr ⟨encodeProtocolError_unpresentable hcode hpresentable _, hpresentable⟩

/-- A request whose method raises is answered with one failed frame, or with none. It has the
category of the exception exactly if the turn keeps it. -/
theorem serveLoop_method (hwritable : Writable descriptor handler.outgoing)
    (hstopping : turn.stopping = false) {payload : Bytes} {connection : Connection}
    (hread : readFrameOrRaise turn.growth turn.read descriptor handler.incoming =
      .returned (.ok payload) connection) (hdecode : turn.decode = none) {request : Request}
    (hrequest : decodeRequest payload = .ok request)
    (hending : turn.ending request = .failed (.raised exception)) :
    ((∃ code, ReportedOnce handler.outgoing (serveLoop descriptor [turn] handler).handler.outgoing
        ⟨request.requestId, request.method⟩ code) ∨
      (serveLoop descriptor [turn] handler).handler.outgoing.sent = handler.outgoing.sent) ∧
    (ReportedOnce handler.outgoing (serveLoop descriptor [turn] handler).handler.outgoing
      ⟨request.requestId, request.method⟩ (fenceCode exception) ↔ turn.Keeps exception) := by
  have hheader : HasHeader payload request.requestId request.method :=
    hasHeader_of_decodeRequest hrequest
  have hcorrelation := recoverCorrelation_of_hasHeader hheader
  have hturn : serveTurn descriptor turn handler =
      answer descriptor turn payload request (handler.received connection) := by
    simp only [serveTurn, hread, hdecode, hrequest]
  unfold Turn.Keeps
  cases hencode : turn.encode with
  | some second =>
    -- The second exception leaves the loop.
    have hraised : serveTurn descriptor turn handler = .raised second
        ((handler.received connection).noted request (turn.dispatch request)) := by
      simp only [hturn, answer, hencode]
    have hkept := (serveTurn_raised hwritable hraised).2 payload connection hread
    rcases serveLoop_raised hwritable hstopping hraised with ⟨hkeeps, honce⟩ | ⟨hkeeps, hsame⟩
    · rw [hkept, hcorrelation] at honce
      exact ⟨Or.inl ⟨_, (honce _).mpr rfl⟩, (honce _).trans (and_iff_left hkeeps).symm⟩
    · rw [hsame]
      exact ⟨Or.inr rfl, iff_of_false (not_reportedOnce _ _) fun h => hkeeps h.2⟩
  | none =>
    obtain ⟨hcode, hsame, hcases⟩ := encodeResponse_fence hheader hending
    rcases hcases with ⟨⟨reply, hreply⟩, hfits⟩ | ⟨⟨failure, hfailure, hinvalid⟩, hunfit⟩
    · -- The response is sent as it is.
      obtain ⟨o, hwrite, hsent⟩ := hwritable.writeFrame (hasHeader_of_encodeResponse hreply).2
      have hloop : (serveLoop descriptor [turn] handler).handler.outgoing = o := by
        have hwrites : writeFrameOrRaise turn.write descriptor reply handler.outgoing =
            .returned Status.success o := by
          simp only [writeFrameOrRaise, hwrite, Status.ok_success, if_true]
        simp only [serveLoop, hstopping, Bool.false_eq_true, if_false, hturn, answer, hencode,
          hreply, Handler.noted, Handler.received, hwrites, Status.ok_success, Bool.not_true]
        by_cases haccepts : acceptsShutdown (turn.dispatch request) = true <;>
          simp [haccepts, Served.handler, Handler.sent]
      rw [hsame] at hreply
      have honce := reportedOnce_iff hreply hsent
      rw [hcorrelation] at honce
      rw [hloop]
      exact ⟨Or.inl ⟨_, (honce _).mpr rfl⟩, iff_of_true ((honce _).mpr hcode) hfits⟩
    · -- The failure of the encoder is sent instead.
      have hloop : (serveLoop descriptor [turn] handler).handler.outgoing =
          (writeProtocolFailure turn.report descriptor failure (some payload) none
            handler.outgoing).state := by
        simp only [serveLoop, hstopping, Bool.false_eq_true, if_false, hturn, answer, hencode,
          hfailure, refuse, Handler.noted, Handler.received]
        cases writeProtocolFailure turn.report descriptor failure (some payload) none
          handler.outgoing <;> rfl
      rw [hloop]
      rcases writeProtocolFailure_spec hwritable turn.report failure (some payload) none with
        ⟨reply, outgoing, -, hreply, hwrite, hsent⟩ | ⟨-, hwrite⟩ <;> rw [hwrite]
      · have honce := reportedOnce_iff hreply hsent
        rw [show recoverCorrelation (reportedPayload (some payload) none) =
          _ from hcorrelation] at honce
        refine ⟨Or.inl ⟨_, (honce _).mpr rfl⟩, iff_of_false (fun hreported => ?_) hunfit⟩
        exact fenceCode_ne_invalidArgument exception (((honce _).mp hreported).symm.trans hinvalid)
      · exact ⟨Or.inr rfl, iff_of_false (not_reportedOnce _ _) hunfit⟩

/-! ## Inside of a job -/

section Jobs

variable {settings : Settings} {c c₁ c₂ : Config Shared Thread} {i j : Nat} {r : JobRef}
  {l l' : Thread} {choice : Choice} {shared' : Shared} {record record' : JobRecord}

omit [Kernel] in
/-- The kernel raises an exception while a worker compiles or executes a job. -/
def Raises (c : Config Shared Thread) (i : Nat) (r : JobRef) (exception : Raised)
    (choice : Choice) : Prop :=
  (∃ mode, c.threads[i]? = some (.worker (.compiling r mode))) ∧
      choice = .compile (.raised exception) ∨
    (∃ maximumParallelism, c.threads[i]? = some (.worker (.executing r maximumParallelism))) ∧
      choice = .execute (.raised exception)

/-- The end of a job that an exception fence publishes. -/
inductive FencedEnd (exception : Raised) (record : JobRecord) : Prop where
  | failed (hstate : record.state = .failed) (hcode : record.outcome.code = fenceCode exception)
  | cancelled (hstate : record.state = .cancelled) (hcode : record.outcome.code = .cancelled)

/-- A fence publishes its end with a diagnostic that fits exactly if the token was set before the
fence locked the record, if the status of the fence could not be allocated, or if the text of the
exception fits. -/
def FenceFits (before : JobRecord) (fails : Fault → Bool) (exception : Raised) : Prop :=
  before.cancelled = true ∨ fails .copy = true ∨ exception.Presentable

/-- The fence has published its end, or is going to publish one without a diagnostic. -/
def Fenced (fits : Prop) (c : Config Shared Thread) (i : Nat) (r : JobRef) (exception : Raised) :
    Prop :=
  c.threads[i]? = some (.worker (.fallingBack r (fenceCode exception))) ∧ fits ∨
    c.shared.registry.At r fun record =>
      FencedEnd exception record ∧ (Ipc.Presentable record.outcome.message ↔ fits)

theorem FencedEnd.coherent (h : FencedEnd exception record) :
    terminal record.state = true ∧ record.Coherent := by
  cases h with
  | failed hstate hcode =>
    refine ⟨by rw [hstate]; rfl, (JobRecord.coherent_failed_iff hstate).mpr ?_⟩
    rw [hcode]
    exact ⟨fenceCode_ne_ok exception, fenceCode_ne_cancelled exception⟩
  | cancelled hstate hcode =>
    exact ⟨by rw [hstate]; rfl, (JobRecord.coherent_cancelled_iff hstate).mpr hcode⟩

/-- What the fence does in its own step. -/
theorem fence_publication {fails : Fault → Bool} {stage' : WorkerStage}
    (h : (WorkerStage.fencing r exception).Publication fails record record' stage') :
    fails .copy = false ∧
      (stage' = .fallingBack r (fenceCode exception) ∧ record.cancelled = true ∨
        FencedEnd exception record' ∧ (Ipc.Presentable record'.outcome.message ↔
          record.cancelled = true ∨ exception.Presentable)) := by
  cases h with
  | fence hcopy =>
    refine ⟨hcopy, ?_⟩
    unfold JobRecord.finishFailure
    cases hcancelled : record.cancelled with
    | true =>
      cases hfails : fails .diagnostic with
      | true => exact Or.inl ⟨rfl, rfl⟩
      | false =>
        refine Or.inr ⟨.cancelled rfl rfl, iff_of_true ?_ (Or.inl rfl)⟩
        exact presentable_ascii (by decide)
    | false =>
      refine Or.inr ⟨.failed rfl rfl, ?_⟩
      rw [or_iff_right Bool.false_ne_true]
      exact presentable_fenceReason_iff exception

/-- The fallback has no diagnostic. -/
theorem fallback_publication {fails : Fault → Bool} {stage' : WorkerStage}
    (h : (WorkerStage.fallingBack r (fenceCode exception)).Publication fails record record'
      stage') : FencedEnd exception record' ∧ Ipc.Presentable record'.outcome.message := by
  cases h with
  | fallback =>
    unfold JobRecord.fallback
    cases hcancelled : record.cancelled with
    | true => exact ⟨.cancelled rfl rfl, presentable_nil⟩
    | false => exact ⟨.failed rfl rfl, presentable_nil⟩

theorem advances_compileRaised {mode : ExecutionMode} {stage' : WorkerStage}
    (h : (WorkerStage.compiling r mode).Advances (.compile (.raised exception)) stage') :
    stage' = .fencing r exception := by
  cases h with
  | compiled hchoice => cases hchoice
  | compileFailed hchoice => cases hchoice
  | compileRaised hchoice =>
    cases hchoice
    rfl
  | stops hstage => simp at hstage
  | raises hstage => simp at hstage

theorem advances_executionRaised {maximumParallelism : UInt32} {stage' : WorkerStage}
    (h : (WorkerStage.executing r maximumParallelism).Advances (.execute (.raised exception))
      stage') : stage' = .fencing r exception := by
  cases h with
  | executed hchoice => cases hchoice
  | executionFailed hchoice => cases hchoice
  | executionRaised hchoice =>
    cases hchoice
    rfl
  | stops hstage => simp at hstage
  | raises hstage => simp at hstage

theorem advances_fencing {fails : Fault → Bool} {stage' : WorkerStage}
    (h : (WorkerStage.fencing r exception).Advances (.go fails) stage') :
    stage' = .fallingBack r (fenceCode exception) ∧ fails .copy = true := by
  cases h with
  | fallsBack hchoice hcopy =>
    cases hchoice
    exact ⟨rfl, hcopy⟩
  | stops hstage => simp at hstage
  | raises hstage => simp at hstage

theorem not_advances_fallingBack {code : ErrorCode} {stage' : WorkerStage} :
    ¬ (WorkerStage.fallingBack r code).Advances choice stage' := by
  intro h
  cases h with
  | stops hstage => simp at hstage
  | raises hstage => simp at hstage

/-- A worker in its fence has a record. -/
theorem record_of_fencing (h : Reachable settings c)
    (hi : c.threads[i]? = some (.worker (.fencing r exception))) :
    ∃ record, c.shared.registry.records[r]? = some record := by
  obtain ⟨⟨record, hr, -⟩, -⟩ := (registryOutline_holds h).thread hi r (List.mem_singleton_self r)
  exact ⟨record, hr⟩

/-- The step of a worker in its fence. -/
theorem fence_step {fails : Fault → Bool}
    (hnext : (service settings).next c (.move i (.go fails)) = some c₁)
    (hi : c.threads[i]? = some (.worker (.fencing r exception)))
    (hr : c.shared.registry.records[r]? = some record) :
    Fenced (FenceFits record fails exception) c₁ i r exception := by
  rcases Program.next_cases hnext with ⟨request, hact, -⟩ |
    ⟨j, l, choice, shared', l', hact, hmoves, rfl⟩
  · cases hact
  cases hact
  cases hmoves.thread.symm.trans hi
  have hself : (c.threads.set i l')[i]? = some l' :=
    List.getElem?_set_self (List.getElem?_eq_some_iff.mp hi).1
  cases threadMove hmoves with
  | worker hmove =>
    cases hmove with
    | advance _ _ hadvances =>
      obtain ⟨hstage, hcopy⟩ := advances_fencing hadvances
      rw [hstage] at hself ⊢
      exact Or.inl ⟨hself, Or.inr (Or.inl hcopy)⟩
    | publish hphase hr' _ _ hpublication =>
      obtain ⟨fails', hchoice, hpublication⟩ := hpublication
      cases hchoice
      rcases hphase with hphase | hphase <;> cases hphase
      cases hr.symm.trans hr'
      obtain ⟨hcopy, ⟨rfl, hcancelled⟩ | ⟨hend, hfits⟩⟩ := fence_publication hpublication
      · exact Or.inl ⟨hself, Or.inl hcancelled⟩
      · refine Or.inr ⟨_, Registry.records_write_self hr, hend, hfits.trans ?_⟩
        rw [FenceFits, hcopy, or_iff_right Bool.false_ne_true]

/-- The end is published once and stays. -/
theorem fenced_step {fits : Prop} (h : Reachable settings c)
    (hmoves : (service settings).Moves c j l choice shared' l')
    (hfenced : Fenced fits c i r exception) :
    Fenced fits ⟨shared', c.threads.set j l'⟩ i r exception := by
  rcases hfenced with ⟨hi, hfits⟩ | ⟨record, hr, hend, hfits⟩
  · by_cases hne : j = i
    · subst hne
      cases hmoves.thread.symm.trans hi
      cases threadMove hmoves with
      | worker hmove =>
        cases hmove with
        | advance _ _ hadvances => exact absurd hadvances not_advances_fallingBack
        | publish hphase hr _ _ hpublication =>
          obtain ⟨fails, -, hpublication⟩ := hpublication
          rcases hphase with hphase | hphase <;> cases hphase
          obtain ⟨hend, hpresentable⟩ := fallback_publication hpublication
          exact Or.inr ⟨_, Registry.records_write_self hr, hend, iff_of_true hpresentable hfits⟩
    · exact Or.inl ⟨(List.getElem?_set_ne hne).trans hi, hfits⟩
  · -- Nobody publishes in this record any more.
    obtain ⟨hterminal, hcoherent⟩ := hend.coherent
    have hunowned := unowned_of_coherent h hmoves.thread hr hterminal hcoherent
    obtain ⟨record', hr', -, hpublished⟩ :=
      (registry_evolves hmoves (registryOutline_holds h)).record hr
    refine Or.inr ⟨record', hr', ?_⟩
    have hsame := hpublished hunowned
    cases record
    cases record'
    cases hsame
    exact ⟨by cases hend with
      | failed hstate hcode => exact .failed hstate hcode
      | cancelled hstate hcode => exact .cancelled hstate hcode, hfits⟩

theorem fenced_of_leads {fits : Prop} (h : Reachable settings c₁)
    (hfenced : Fenced fits c₁ i r exception)
    (hleads : (service settings).Leads (fun _ => True) c₁ c₂) : Fenced fits c₂ i r exception := by
  refine Program.Leads.induct (motive := fun c₂ => Fenced fits c₂ i r exception) hleads hfenced
    ?_ ?_
  · intro c request _ hfenced
    refine hfenced.imp_left fun ⟨hi, hfits⟩ => ⟨?_, hfits⟩
    exact (List.getElem?_append_left (List.getElem?_eq_some_iff.mp hi).1).trans hi
  · intro c j l choice shared' l' hc hfenced _ hmoves
    exact fenced_step (h.trans hc) hmoves hfenced

/-- An exception of the kernel brings the worker into its fence. -/
theorem fencing_of_raises (hnext : (service settings).next c (.move i choice) = some c₁)
    (hraises : Raises c i r exception choice) :
    c₁.threads[i]? = some (.worker (.fencing r exception)) := by
  rcases Program.next_cases hnext with ⟨request, hact, -⟩ |
    ⟨j, l, choice', shared', l', hact, hmoves, rfl⟩
  · cases hact
  · cases hact
    have hlt := (List.getElem?_eq_some_iff.mp hmoves.thread).1
    refine (List.getElem?_set_self hlt).trans (congrArg some ?_)
    rcases hraises with ⟨⟨mode, hi⟩, rfl⟩ | ⟨⟨maximumParallelism, hi⟩, rfl⟩ <;>
      cases hmoves.thread.symm.trans hi
    · cases threadMove hmoves with
      | worker hmove =>
        cases hmove with
        | advance _ _ hadvances => exact congrArg _ (advances_compileRaised hadvances)
        | publish _ _ _ _ hpublication =>
          obtain ⟨fails, hchoice, -⟩ := hpublication
          cases hchoice
    · cases threadMove hmoves with
      | worker hmove =>
        cases hmove with
        | advance _ _ hadvances => exact congrArg _ (advances_executionRaised hadvances)
        | publish _ _ _ _ hpublication =>
          obtain ⟨fails, hchoice, -⟩ := hpublication
          cases hchoice

/-- A response to `job.status` succeeds, reports the end of a record, and can be encoded. -/
def StatusReported (record : JobRecord) (response : Response) : Prop :=
  response.status = Status.success ∧ response.jobStatus.state = record.state ∧
    response.jobStatus.outcome = record.outcome ∧ ∃ reply, encodeResponse response = .ok reply

/-- The status of such an end is valid but for its diagnostic. -/
theorem valid_fencedEnd (h : Reachable settings c)
    (hr : c.shared.registry.records[r]? = some record) (hend : FencedEnd exception record)
    (hmessage : Ipc.Presentable record.outcome.message) :
    JobStatus.Valid ⟨record.id, record.sessionId, record.state, record.outcome⟩ := by
  have hsound : c.shared.registry.Sound settings := (registryOutline_holds h).shared
  obtain ⟨hinstance, hvalue, -⟩ := hsound.issued hr
  obtain ⟨hsession, hsessionValue⟩ := record_session h hr
  exact
    { jobInstance := hinstance ▸ settings.instanceId_ne
      jobValue := hvalue
      sessionValue := hsessionValue
      domain := hsession.trans hinstance.symm
      fits := by
        change record.state.Fits record.outcome
        cases hend with
        | failed hstate hcode =>
          rw [hstate]
          exact ⟨⟨hcode ▸ failing_fenceCode exception, hmessage⟩,
            hcode ▸ fenceCode_ne_cancelled exception⟩
        | cancelled hstate hcode =>
          rw [hstate]
          exact ⟨⟨hcode ▸ ErrorCode.failing_cancelled, hmessage⟩, hcode⟩ }

/-- `job.status` reports such an end exactly if its two copies of the outcome are allocated and
the diagnostic fits. -/
theorem statusReported_iff (h : Reachable settings c)
    (hr : c.shared.registry.records[r]? = some record) (hend : FencedEnd exception record)
    {request : Request} (hid : request.requestId ≠ 0) (hmethod : request.method = .jobStatus)
    (observes responds : Fault → Bool) :
    StatusReported record (respond request (Lookup.status.finish record observes).2 responds) ↔
      observes .copy = false ∧ responds .copy = false ∧
        Ipc.Presentable record.outcome.message := by
  have hraised : ∀ response' exception' fails',
      (fenceResponse response' exception' fails').status ≠ Status.success := by
    intro response' exception' fails' hsuccess
    rw [fenceResponse_status] at hsuccess
    exact fenceCode_ne_ok exception' (congrArg Status.code hsuccess)
  cases hobserves : observes .copy with
  | true =>
    refine iff_of_false (fun hreported => ?_) fun h => absurd h.1 (by decide)
    have hsuccess := hreported.1
    simp only [Lookup.finish, JobRecord.observe, hobserves, if_true] at hsuccess
    exact hraised _ _ _ hsuccess
  | false =>
    cases hresponds : responds .copy with
    | true =>
      refine iff_of_false (fun hreported => ?_) fun h => absurd h.2.1 (by decide)
      have hsuccess := hreported.1
      simp only [Lookup.finish, JobRecord.observe, hobserves, Bool.false_eq_true, if_false,
        Ending.ofResult, respond, hresponds, if_true] at hsuccess
      exact hraised _ _ _ hsuccess
    | false =>
      have hresponse : respond request (Lookup.status.finish record observes).2 responds =
          { (default : Response) with
            requestId := request.requestId, method := request.method, status := Status.success
            jobStatus := ⟨record.id, record.sessionId, record.state, record.outcome⟩ } := by
        simp [Lookup.finish, JobRecord.observe, hobserves, Ending.ofResult, respond, hresponds]
      have hencode := encodeResponse_jobStatus_iff
        (show (respond request (Lookup.status.finish record observes).2 responds).requestId ≠ 0 by
          rw [hresponse]; exact hid) (by rw [hresponse]) (by rw [hresponse]; exact hmethod)
        (by rw [hresponse]; exact valid_fencedEnd h hr hend)
      rw [hresponse] at hencode ⊢
      refine ⟨fun hreported => ⟨rfl, rfl, hencode.mp hreported.2.2.2⟩, fun hfits => ?_⟩
      exact ⟨rfl, rfl, rfl, hencode.mpr hfits.2.2⟩

end Jobs

/-! ## The result -/

/-- What becomes of the category of an exception. Inside of a routed method the peer is sent at
most one failed frame for the request, and it has the category exactly if the turn keeps it.
Inside of the connection loop, where nothing was sent before, the peer is sent one frame with the
category exactly if the report keeps it, and nothing otherwise. A job whose compilation or
execution has raised ends as failed with the category, or as cancelled, and from then on
`job.status` reports it exactly if its own copies are allocated and the diagnostic that the fence
has left fits. -/
theorem fences_keep_category_iff :
    (∀ (descriptor : Int) (turn : Turn) (handler : Handler) (exception : Raised) (payload : Bytes)
      (connection : Connection) (request : Request), Writable descriptor handler.outgoing →
      turn.stopping = false →
      readFrameOrRaise turn.growth turn.read descriptor handler.incoming =
        .returned (.ok payload) connection → turn.decode = none →
      decodeRequest payload = .ok request → turn.ending request = .failed (.raised exception) →
      ((∃ code, ReportedOnce handler.outgoing (serveLoop descriptor [turn] handler).handler.outgoing
          ⟨request.requestId, request.method⟩ code) ∨
        (serveLoop descriptor [turn] handler).handler.outgoing.sent = handler.outgoing.sent) ∧
      (ReportedOnce handler.outgoing (serveLoop descriptor [turn] handler).handler.outgoing
        ⟨request.requestId, request.method⟩ (fenceCode exception) ↔ turn.Keeps exception)) ∧
    (∀ (descriptor : Int) (turn : Turn) (handler handler' : Handler) (exception : Raised),
      Writable descriptor handler.outgoing → turn.stopping = false →
      serveTurn descriptor turn handler = .raised exception handler' →
      (∀ payload connection, readFrameOrRaise turn.growth turn.read descriptor handler.incoming =
          .returned (.ok payload) connection →
        recoverCorrelation (some handler'.progress.payloadPrefix) =
          recoverCorrelation (some payload)) ∧
      (ReportedOnce handler.outgoing (serveLoop descriptor [turn] handler).handler.outgoing
          (recoverCorrelation (some handler'.progress.payloadPrefix)) (handlerCode exception) ↔
        turn.report.Keeps exception) ∧
      (¬ turn.report.Keeps exception →
        (serveLoop descriptor [turn] handler).handler.outgoing.sent = handler.outgoing.sent)) ∧
    (∀ (settings : Settings) (c c₁ : Config Shared Thread) (i : Nat) (r : JobRef)
      (exception : Raised) (choice : Choice),
      (service settings).next c (.move i choice) = some c₁ → Raises c i r exception choice →
      c₁.threads[i]? = some (.worker (.fencing r exception))) ∧
    ∀ (settings : Settings) (c c₁ c₂ : Config Shared Thread) (i : Nat) (r : JobRef)
      (exception : Raised) (fails : Fault → Bool), Reachable settings c →
      c.threads[i]? = some (.worker (.fencing r exception)) →
      (service settings).next c (.move i (.go fails)) = some c₁ →
      (service settings).Leads (fun _ => True) c₁ c₂ →
      c₂.threads[i]? ≠ some (.worker (.fallingBack r (fenceCode exception))) →
      ∃ before record, c.shared.registry.records[r]? = some before ∧
        c₂.shared.registry.records[r]? = some record ∧ FencedEnd exception record ∧
        ∀ request observes responds, request.requestId ≠ 0 → request.method = .jobStatus →
          (StatusReported record
              (respond request (Lookup.status.finish record observes).2 responds) ↔
            observes .copy = false ∧ responds .copy = false ∧
              FenceFits before fails exception) := by
  refine ⟨?_, ?_, ?_, ?_⟩
  · intro descriptor turn handler exception payload connection request hwritable hstopping hread
      hdecode hrequest hending
    exact serveLoop_method hwritable hstopping hread hdecode hrequest hending
  · intro descriptor turn handler handler' exception hwritable hstopping hraised
    refine ⟨(serveTurn_raised hwritable hraised).2, ?_⟩
    rcases serveLoop_raised hwritable hstopping hraised with ⟨hkeeps, honce⟩ | ⟨hkeeps, hsame⟩
    · exact ⟨iff_of_true ((honce _).mpr rfl) hkeeps, fun hnot => absurd hkeeps hnot⟩
    · rw [hsame]
      exact ⟨iff_of_false (not_reportedOnce _ _) hkeeps, fun _ => rfl⟩
  · intro settings c c₁ i r exception choice hnext hraises
    exact fencing_of_raises hnext hraises
  · intro settings c c₁ c₂ i r exception fails h hi hnext hleads hout
    have hc₁ : Reachable settings c₁ := h.trans
      (Program.Leads.of_next (show (Act.move i (.go fails)).Allowed _ from trivial) hnext)
    obtain ⟨before, hbefore⟩ := record_of_fencing h hi
    rcases fenced_of_leads hc₁ (fence_step hnext hi hbefore) hleads with
      ⟨hfalling, -⟩ | ⟨record, hr, hend, hfits⟩
    · exact absurd hfalling hout
    · refine ⟨before, record, hbefore, hr, hend, fun request observes responds hid hmethod => ?_⟩
      rw [statusReported_iff (hc₁.trans hleads) hr hend hid hmethod, hfits]

/-- A turn in which every method raises. -/
def raisingTurn (exception : Raised) : Turn :=
  { failingTurn with
    ending := fun _ => .failed (.raised exception)
    routed := fun _ => trivial }

omit [Kernel] in
/-- A connection on which a `daemon.info` waits. -/
def sampleConnection : Handler :=
  .accepted (frame [3, 0, 1, 0, 0, 0, 0, 0, 0, 0, 8]) (List.replicate 16 (.ready 1))
    (List.replicate (maximumFramePayloadBytes + 4) (.ready 1))

omit [Kernel] in
theorem writable_sampleConnection : Writable 3 sampleConnection.outgoing where
  valid := by decide
  sends := steady_replicate (maximumFramePayloadBytes + 4) 0
  room := by
    change _ ≤ transfers (List.replicate (maximumFramePayloadBytes + 4) _)
    rw [transfers_replicate]

/-- The first job of `sampleSettings` is executed by worker 0, and the kernel raises an
exception. -/
def sampleRaise (exception : Raised) : List (Act Choice Request) :=
  [.spawn (sampleRequest .sessionCreate), plainMove 2, plainMove 2,
    .move 2 (.compile (.value ())), plainMove 2,
    .spawn (sampleRequest .jobSubmit), plainMove 3, plainMove 3, plainMove 3,
    plainMove 0, plainMove 0, plainMove 0, .move 0 (.compile (.value ())), plainMove 0,
    .move 0 (.execute (.raised exception))]

omit [Kernel] in
theorem fencing_sampleRaise :
    letI := sampleKernel
    ((service sampleSettings).run (initial sampleSettings) (sampleRaise (.standard none))).bind
      (fun c => c.threads[0]?) = some (.worker (.fencing 0 (.standard none))) := rfl

omit [Kernel] in
theorem run_sampleRaise :
    letI := sampleKernel
    ∃ c, (service sampleSettings).run (initial sampleSettings)
        (sampleRaise (.standard none) ++ [plainMove 0]) = some c ∧
      c.threads[0]? = some (.worker .idle) ∧
      c.shared.registry.records[0]?.map JobRecord.state = some .failed :=
  ⟨_, rfl, rfl, rfl⟩

omit [Kernel] in
/-- An exception without a text keeps its category, in a routed method, in the connection loop,
where it is raised while a request is decoded, and in a job. -/
theorem fences_keep_category_iff_null :
    letI := sampleKernel
    ReportedOnce sampleConnection.outgoing
        (serveLoop 3 [raisingTurn (.standard none)] sampleConnection).handler.outgoing
        ⟨1, .daemonInfo⟩ .internal ∧
      ReportedOnce sampleConnection.outgoing (serveLoop 3
          [{ failingTurn with decode := some (.standard none) }] sampleConnection).handler.outgoing
        ⟨1, .daemonInfo⟩ .internal ∧
      ∃ c c₁ record, (service sampleSettings).run (initial sampleSettings)
          (sampleRaise (.standard none)) = some c ∧
        (service sampleSettings).next c (plainMove 0) = some c₁ ∧
        c₁.shared.registry.records[0]? = some record ∧ record.state = .failed ∧
        StatusReported record (respond { sampleRequest .jobStatus with requestId := 1 }
          (Lookup.status.finish record fun _ => false).2 fun _ => false) := by
  let _ : Kernel := sampleKernel
  have hfits : (Raised.standard none).Presentable := presentable_nil
  refine ⟨?_, ?_, ?_⟩
  · exact (fences_keep_category_iff.1 3 (raisingTurn (.standard none)) sampleConnection
      (.standard none) [3, 0, 1, 0, 0, 0, 0, 0, 0, 0, 8] _ _ writable_sampleConnection rfl rfl rfl
      rfl rfl).2.mpr (Or.inr hfits)
  · exact (fences_keep_category_iff.2.1 3 { failingTurn with decode := some (.standard none) }
      sampleConnection _ (.standard none) writable_sampleConnection rfl rfl).2.1.mpr
      ⟨rfl, Or.inr hfits⟩
  · obtain ⟨c₁, hrun₁, hidle, hstate⟩ := run_sampleRaise
    obtain ⟨c, hrun, hnext⟩ := Program.run_snoc.mp hrun₁
    have hi := fencing_sampleRaise
    rw [hrun] at hi
    obtain ⟨before, record, -, hr, -, hreported⟩ := fences_keep_category_iff.2.2.2 sampleSettings c
      c₁ c₁ 0 0 (.standard none) (fun _ => false) (leads_of_run (sampleRaise (.standard none)) hrun)
      hi hnext (.refl c₁) (by simp [hidle])
    rw [hr] at hstate
    exact ⟨c, c₁, record, hrun, hnext, hr, Option.some.inj hstate,
      (hreported _ _ _ (by decide) rfl).mpr ⟨rfl, rfl, Or.inr (Or.inr hfits)⟩⟩

omit [Kernel] in
/-- The text of an exception is one byte that is not UTF-8. Then a routed method is not answered
with its category, the connection loop answers nothing, and the status of the job cannot be
sent. -/
theorem category_lost :
    letI := sampleKernel
    ¬ ReportedOnce sampleConnection.outgoing
        (serveLoop 3 [raisingTurn (.standard (some [0x80]))] sampleConnection).handler.outgoing
        ⟨1, .daemonInfo⟩ .internal ∧
    (serveLoop 3 [{ failingTurn with decode := some (.standard (some [0x80])) }]
      sampleConnection).handler.outgoing.sent = [] ∧
    ∃ c request ending, (service sampleSettings).run (initial sampleSettings)
        (sampleRaise (.standard (some [0x80])) ++
          [plainMove 0, .spawn { sampleRequest .jobStatus with requestId := 1 }, plainMove 4,
            plainMove 4, plainMove 4, plainMove 4]) = some c ∧
      c.threads[4]? = some (.call request (.returned ending
        (respond request ending fun _ => false))) ∧
      ending = .observed ⟨⟨7, 1⟩, ⟨7, 1⟩, .failed, Status.failure .internal [0x80]⟩ ∧
      ∀ reply, encodeResponse (respond request ending fun _ => false) ≠ .ok reply := by
  let _ : Kernel := sampleKernel
  have hunfit : ¬ Ipc.Presentable [0x80] := by decide
  refine ⟨fun honce => ?_, ?_, _, { sampleRequest .jobStatus with requestId := 1 }, _,
    rfl, rfl, rfl, fun reply hreply => ?_⟩
  · have hread : readFrameOrRaise none false 3 sampleConnection.incoming =
        .returned (.ok [3, 0, 1, 0, 0, 0, 0, 0, 0, 0, 8]) _ := rfl
    have hrequest : decodeRequest [3, 0, 1, 0, 0, 0, 0, 0, 0, 0, 8] =
        .ok { (default : Request) with requestId := 1, method := .daemonInfo } := rfl
    have hending : (raisingTurn (.standard (some [0x80]))).ending
        { (default : Request) with requestId := 1, method := .daemonInfo } =
          .failed (.raised (.standard (some [0x80]))) := rfl
    have hkeeps := (serveLoop_method writable_sampleConnection rfl hread rfl hrequest hending).2.mp
      honce
    rcases hkeeps with hfails | hfits
    · cases hfails
    · exact hunfit hfits
  · rcases serveLoop_raised writable_sampleConnection rfl
      (show serveTurn 3 { failingTurn with decode := some (.standard (some [0x80])) }
        sampleConnection = .raised _ _ from rfl) with ⟨⟨-, hfails | hfits⟩, -⟩ | ⟨-, hsame⟩
    · cases hfails
    · exact absurd hfits hunfit
    · exact congrArg Outgoing.sent hsame
  · exact hunfit ((encodeResponse_jobStatus_iff (by decide) rfl rfl fun hfits =>
      absurd hfits hunfit).mp ⟨reply, hreply⟩)

end PhotospiderDaemon.Server
