import PhotospiderDaemon.Ipc.Encodable
import PhotospiderDaemon.Orchestration.Accounting
import PhotospiderDaemon.Orchestration.Finality

/-!
# Whatever the service reports can be sent

The validators of the protocol and the state machine of the jobs were written apart from each
other. Here they meet: as long as no allocation fails and the kernel keeps to its contract, every
response of the service other than a result is one that `encode_response` accepts.

What a response carries was put together step by step, by workers and calls that pass statuses,
texts and exceptions on to each other, and the records are where these rest in between. So the
invariant has two halves, one about the records and one about what each thread carries.

* `Choice.Sane`: what is assumed of the kernel.
* `JobRecord.Reports`, `Thread.Reports`: the two halves of the invariant.
* `reportsOutline_holds`: the invariant in every configuration of such runs.
* `reports_encodable`: the result.
-/

namespace PhotospiderDaemon.Orchestration

open Foundation Ipc

variable [Kernel]

/-! ## Failures that can be sent -/

/-- An exception whose diagnostic fits into a status. -/
def Raised.Presentable : Raised → Prop
  | standard what => Ipc.Presentable (what.getD [])
  | _ => True

/-- A failure whose diagnostic fits into a status. -/
def Failure.Reportable : Failure → Prop
  | status outcome => outcome.Reportable
  | raised exception => exception.Presentable

theorem failing_fenceCode (exception : Raised) : (fenceCode exception).Failing := by
  cases exception with
  | badAlloc => exact ErrorCode.failing_resourceExhausted
  | _ => exact ErrorCode.failing_internal

omit [Kernel] in
/-- The diagnostic of a fence is the text of the exception, or one of its own. -/
theorem presentable_reason_iff {reason : Raised → Bytes}
    (hstandard : ∀ what, reason (.standard what) = what.getD [])
    (hbadAlloc : Ipc.Presentable (reason .badAlloc))
    (hnonstandard : Ipc.Presentable (reason .nonstandard)) (exception : Raised) :
    Ipc.Presentable (reason exception) ↔ exception.Presentable := by
  cases exception with
  | badAlloc => exact iff_of_true hbadAlloc trivial
  | standard what =>
    rw [hstandard]
    exact Iff.rfl
  | nonstandard => exact iff_of_true hnonstandard trivial

omit [Kernel] in
theorem presentable_fenceReason_iff (exception : Raised) :
    Ipc.Presentable (fenceReason exception) ↔ exception.Presentable :=
  presentable_reason_iff (fun _ => rfl) (presentable_ascii (by decide))
    (presentable_ascii (by decide)) exception

omit [Kernel] in
theorem presentable_dispatchReason_iff (exception : Raised) :
    Ipc.Presentable (dispatchReason exception) ↔ exception.Presentable :=
  presentable_reason_iff (fun _ => rfl) (presentable_ascii (by decide))
    (presentable_ascii (by decide)) exception

/-- The failures that the service makes itself. -/
theorem reportable_rejection (fails : Fault → Bool) {code : ErrorCode} (hcode : code.Failing)
    {characters : List Char} (h : plain characters = true) :
    (rejection fails code (String.ofList characters)).Reportable := by
  unfold rejection
  split
  · trivial
  · exact reportable_literal hcode h

theorem reserve_reportable {settings : Settings} {table : SessionTable} {fails : Fault → Bool}
    {failure : Failure} (h : table.reserve settings fails = .error failure) :
    failure.Reportable := by
  unfold SessionTable.reserve at h
  dsimp only at h
  split at h
  · cases h
    exact ⟨ErrorCode.failing_resourceExhausted, presentable_nil⟩
  · split at h
    · cases h
      exact reportable_rejection fails ErrorCode.failing_resourceExhausted (by decide)
    · cases h

theorem publish_reportable {settings : Settings} {table : SessionTable}
    {document : WorkflowDocument} {fails : Fault → Bool} {failure : Failure}
    (h : table.publish settings document fails = .refused failure) : failure.Reportable := by
  unfold SessionTable.publish at h
  split at h
  · cases h
    exact reportable_rejection fails ErrorCode.failing_resourceExhausted (by decide)
  · dsimp only at h
    split at h
    · cases h
      trivial
    · split at h
      · cases h
        exact reportable_rejection fails ErrorCode.failing_internal (by decide)
      · split at h <;> cases h

theorem submit_reportable {settings : Settings} {registry : Registry} {sessionId : SessionId}
    {graph : WorkflowDocument} {options : JobSubmitOptions} {fails : Fault → Bool}
    {failure : Failure}
    (h : (registry.submit settings sessionId graph options fails).2 = .error failure) :
    failure.Reportable := by
  unfold Registry.submit at h
  split at h
  · cases h
    exact reportable_rejection fails ErrorCode.failing_cancelled (by decide)
  split at h
  · cases h
    exact reportable_rejection fails ErrorCode.failing_resourceExhausted (by decide)
  split at h
  · cases h
    exact reportable_rejection fails ErrorCode.failing_resourceExhausted (by decide)
  split at h
  · cases h
    trivial
  unfold Registry.publishRecord at h
  split at h
  · cases h
    trivial
  split at h
  · cases h
    exact reportable_rejection fails ErrorCode.failing_internal (by decide)
  split at h
  · cases h
    trivial
  · cases h

/-! ## Records -/

/-- What a record reports can be sent. -/
structure JobRecord.Reports (settings : Settings) (record : JobRecord) : Prop where
  session : record.sessionId.instance' = settings.instanceId ∧ record.sessionId.value ≠ 0
  fits : record.state.Fits record.outcome
  result : record.state = .succeeded → record.result.isSome = true

namespace JobRecord

variable {settings : Settings} {record record' : JobRecord}

theorem Reports.of_published (h : record.Reports settings)
    (hsession : record'.sessionId = record.sessionId)
    (hpublished : record'.published = record.published) : record'.Reports settings := by
  have hstate : record'.state = record.state := congrArg Prod.fst hpublished
  have houtcome : record'.outcome = record.outcome :=
    congrArg (fun published => published.2.1) hpublished
  have hresult : record'.result = record.result :=
    congrArg (fun published => published.2.2) hpublished
  refine ⟨hsession ▸ h.session, ?_, ?_⟩
  · rw [hstate, houtcome]
    exact h.fits
  · rw [hstate, hresult]
    exact h.result

/-- The status that a record reports passes `validate_job_status`. -/
theorem Reports.valid (h : record.Reports settings)
    (hinstance : record.id.instance' = settings.instanceId) (hvalue : record.id.value ≠ 0) :
    (⟨record.id, record.sessionId, record.state, record.outcome⟩ : JobStatus).Valid where
  jobInstance := hinstance ▸ settings.instanceId_ne
  jobValue := hvalue
  sessionValue := h.session.2
  domain := h.session.1.trans hinstance.symm
  fits := h.fits

theorem Reports.answer_reportable {fails : Fault → Bool} {failure : Failure}
    (h : record.Reports settings)
    (hanswer : record.answer fails = .error failure) : failure.Reportable := by
  have hfits := h.fits
  unfold answer at hanswer
  split at hanswer
  · cases hanswer
    trivial
  · split at hanswer
    · cases hanswer
    · rename_i hstate
      rw [hstate] at hfits
      rw [if_neg (by simp [hfits.1.not_ok])] at hanswer
      cases hanswer
      exact hfits.1
    · rename_i hstate
      rw [hstate] at hfits
      rw [if_neg (by simp [hfits.1.not_ok])] at hanswer
      cases hanswer
      exact hfits.1
    · cases hanswer
      exact reportable_literal ErrorCode.failing_invalidArgument (by decide)

end JobRecord

/-! ## The contract of the kernel -/

/-- No allocation of the service fails and the kernel keeps to its contract: a failure has a code
other than `Ok`, diagnostics fit into a status, and a compilation never fails as cancelled. -/
def Choice.Sane : Choice → Prop
  | go fails => ∀ fault, fails fault = false
  | compile outcome => ∀ failure, outcome.failure? = some failure →
      failure.Reportable ∧ ∀ status, failure = .status status → status.code ≠ .cancelled
  | execute outcome => ∀ failure, outcome.failure? = some failure → failure.Reportable
  | raise _ => False

theorem Choice.Sane.quiet {choice : Choice} (h : choice.Sane) : choice.Quiet := by
  cases choice with
  | go fails => exact h
  | raise exception => exact h
  | _ => trivial

/-- The version that is compiled into the daemon fits into its field. -/
structure Settings.VersionFits (settings : Settings) : Prop where
  nonempty : settings.serviceVersion ≠ []
  length : settings.serviceVersion.length ≤ 128
  utf8 : validUtf8 settings.serviceVersion = true

/-! ## What threads carry -/

/-- What a worker carries can be published. -/
def WorkerStage.Reports : WorkerStage → Prop
  | executionFailed _ status => status.Reportable
  | finishingFailure _ status => status.Reportable ∧ status.code ≠ .cancelled
  | finishingCancelled _ reason => Ipc.Presentable reason
  | fencing _ exception => exception.Presentable
  | fallingBack _ _ => False
  | _ => True

theorem WorkerStage.reports_of_free {stage : WorkerStage} (h : stage.phase = .free) :
    stage.Reports := by
  cases stage with
  | idle => trivial
  | exited => trivial
  | _ => cases h

/-- What a method has ended with can be sent. -/
def Ending.Reports (settings : Settings) : Ending → Prop
  | created id => id.instance' = settings.instanceId ∧ id.value ≠ 0
  | submitted id => id.instance' = settings.instanceId ∧ id.value ≠ 0
  | observed status => status.Valid
  | described info => info.Valid
  | failed failure => failure.Reportable
  | _ => True

def Thread.Reports (settings : Settings) : Thread → Prop
  | worker stage => stage.Reports
  | call _ (.create (.rollingBack failure)) => failure.Reportable
  | call _ (.close (.reopening _ exception)) => exception.Presentable
  | call _ (.ended ending) => ending.Reports settings
  | call request (.returned ending response) =>
      ending.Reports settings ∧ response = respond request ending fun _ => false
  | _ => True

variable {settings : Settings}

/-- A response that carries such an end can be sent, if it is not a result. -/
theorem encodeResponse_of_ending {request : Request} {ending : Ending}
    (hid : request.requestId ≠ 0) (hanswers : ending.Answers request.method)
    (hmethod : request.method ≠ .jobResult) (h : ending.Reports settings) :
    ∃ reply, encodeResponse (respond request ending fun _ => false) = .ok reply := by
  have hinstance := settings.instanceId_ne
  have hsend : ∀ (response : Response) (method : Method) {n : Nat},
      response.requestId = request.requestId → response.status = Status.success →
      response.method = method →
      WireWrites n (encodeResponseBody { response with method := method }) → n ≤ 8192 →
      ∃ reply, encodeResponse response = .ok reply := by
    intro response method n hheader hstatus hsame hwrites hn
    subst hsame
    exact encodeResponse_of_body (hheader ▸ hid) hstatus hwrites hn
  cases ending with
  | created id =>
    exact hsend _ .sessionCreate rfl rfl hanswers
      (writes_sessionId (h.1 ▸ hinstance) h.2) (by decide)
  | submitted id =>
    exact hsend _ .jobSubmit rfl rfl hanswers (writes_jobId (h.1 ▸ hinstance) h.2) (by decide)
  | observed status => exact hsend _ .jobStatus rfl rfl hanswers h.writes (by decide)
  | described info => exact hsend _ .daemonInfo rfl rfl hanswers h.writes (by decide)
  | produced result => exact absurd hanswers hmethod
  | closed => exact hsend _ .sessionClose rfl rfl hanswers Writes.pure (by decide)
  | cancelAccepted => exact hsend _ .jobCancel rfl rfl hanswers Writes.pure (by decide)
  | released => exact hsend _ .jobRelease rfl rfl hanswers Writes.pure (by decide)
  | shutdownAccepted => exact hsend _ .daemonShutdown rfl rfl hanswers Writes.pure (by decide)
  | failed failure =>
    have hreportable : (respond request (.failed failure) fun _ => false).status.Reportable := by
      cases failure with
      | status status => exact h
      | raised exception =>
        change (fenceResponse _ exception _).status.Reportable
        rw [fenceResponse_status]
        exact ⟨failing_fenceCode exception, (presentable_dispatchReason_iff exception).mpr h⟩
    have hrequest : (respond request (.failed failure) fun _ => false).requestId ≠ 0 := by
      rw [(respond_header request (.failed failure) _).1]
      exact hid
    exact (encodeResponse_failed_iff hrequest hreportable.not_ok).mpr hreportable

/-! ## One step -/

/-- What a worker publishes can be sent. -/
theorem WorkerStage.Publication.reports {stage stage' : WorkerStage} {fails : Fault → Bool}
    {record record' : JobRecord} (h : stage.Publication fails record record' stage')
    (hquiet : ∀ fault, fails fault = false) (hstage : stage.Reports)
    (hrecord : record.Reports settings) : record'.Reports settings := by
  have hflag : ¬ fails .diagnostic = true := by simp [hquiet]
  -- A cancellation that was requested is published with a literal, a failure as it is.
  have hfailure : ∀ status : Status, status.Reportable → status.code ≠ .cancelled →
      (record.finishFailure status fails).1.Reports settings := by
    intro status hreportable hcode
    unfold JobRecord.finishFailure
    split
    · exact ⟨hrecord.session, ⟨reportable_literal ErrorCode.failing_cancelled (by decide), rfl⟩,
        nofun⟩
    · exact ⟨hrecord.session, ⟨hreportable, hcode⟩, nofun⟩
  cases h with
  | result =>
    unfold JobRecord.publish
    split
    · exact ⟨hrecord.session, ⟨reportable_literal ErrorCode.failing_cancelled (by decide), rfl⟩,
        nofun⟩
    · exact ⟨hrecord.session, rfl, fun _ => rfl⟩
  | failure => exact hfailure _ hstage.1 hstage.2
  | @cancellation r reason =>
    have hreason : Ipc.Presentable
        (if reason.isEmpty then ascii "execution was cancelled" else reason) := by
      split
      · exact presentable_ascii (by decide)
      · exact hstage
    unfold JobRecord.finishCancelled
    rw [if_neg hflag]
    exact ⟨hrecord.session, ⟨⟨ErrorCode.failing_cancelled, hreason⟩, rfl⟩, nofun⟩
  | @fence r exception _ =>
    exact hfailure _
      ⟨failing_fenceCode exception, (presentable_fenceReason_iff exception).mpr hstage⟩
      (fenceCode_ne_cancelled exception)
  | fallback => exact hstage.elim

variable {c : Config Shared Thread} {i : Nat} {l l' : Thread} {choice : Choice} {shared' : Shared}

/-- What every record reports can be sent. -/
def Registry.Reports (settings : Settings) (registry : Registry) : Prop :=
  ∀ (r : JobRef) (record : JobRecord), registry.records[r]? = some record → record.Reports settings

/-- The identifiers in the session table. -/
theorem session_issued (h : Reachable settings c) {s : SessionRef} {session : SessionRecord}
    (hs : c.shared.table.records[s]? = some session) :
    session.id.instance' = settings.instanceId ∧ session.id.value ≠ 0 := by
  have hsound := (sessionOutline_holds h).shared.1
  have hlt := (List.getElem?_eq_some_iff.mp hs).1
  have hlength := hsound.length_lt
  rw [hsound.issued hs]
  refine ⟨rfl, fun hzero => ?_⟩
  have hfull := (SessionTable.ofNat_eq_zero_iff (by omega) (Nat.succ_pos s)).mp hzero
  omega

/-- A submit takes the identifier of its session from the session table. -/
theorem record_session (h : Reachable settings c) {r : JobRef} {record : JobRecord}
    (hr : c.shared.registry.records[r]? = some record) :
    record.sessionId.instance' = settings.instanceId ∧ record.sessionId.value ≠ 0 := by
  refine Program.Leads.induct (motive := fun c => ∀ (r : JobRef) (record : JobRecord),
    c.shared.registry.records[r]? = some record →
    record.sessionId.instance' = settings.instanceId ∧ record.sessionId.value ≠ 0) h ?_ ?_ ?_ r
    record hr
  · intro r record hr
    cases hr
  · intro c₁ request _ ih
    exact ih
  · intro c₁ i l choice shared' l' hc₁ ih _ hmoves r record' hr'
    have hc := registryOutline_holds hc₁
    rcases record_cases hmoves hc hr' with ⟨record, hr, -⟩ | ⟨s, session, graph, options, hs, rfl⟩
    · obtain ⟨_, hr'', hfollows, -⟩ := (registry_evolves hmoves hc).record hr
      obtain rfl := Option.some.inj (hr'.symm.trans hr'')
      rw [hfollows.sessionId_eq]
      exact ih r record hr
    · exact session_issued hc₁ hs

theorem reports_records (h : Reachable settings c) (hchoice : choice.Sane)
    (hmoves : (service settings).Moves c i l choice shared' l')
    (hrecords : c.shared.registry.Reports settings) (hl : l.Reports settings) :
    shared'.registry.Reports settings := by
  intro r record' hr'
  have hc := registryOutline_holds h
  rcases record_cases hmoves hc hr' with ⟨record, hr, hstep⟩ | ⟨s, session, graph, options, hs, rfl⟩
  · have hrecord := hrecords r record hr
    obtain ⟨_, hr'', hfollows, -⟩ := (registry_evolves hmoves hc).record hr
    obtain rfl := Option.some.inj (hr'.symm.trans hr'')
    cases hstep with
    | keeps hpublished => exact hrecord.of_published hfollows.sessionId_eq hpublished
    | begins hqueued =>
      have hfits := hrecord.fits
      rw [hqueued] at hfits
      exact ⟨hrecord.session, hfits, nofun⟩
    | settles =>
      exact ⟨hrecord.session, ⟨⟨ErrorCode.failing_cancelled, presentable_nil⟩, rfl⟩, nofun⟩
    | publishes _ hgo hpublication =>
      subst hgo
      exact hpublication.reports hchoice hl hrecord
  · exact ⟨session_issued h hs, rfl, nofun⟩

omit [Kernel] in
theorem valid_describe (hversion : settings.VersionFits) (activeSessions : Nat)
    (registry : Registry) : (describe settings activeSessions registry).Valid := by
  refine ⟨?_, hversion.length, hversion.utf8⟩
  simp [inconsistentDaemonInfo, describe, settings.instanceId_ne, hversion.nonempty,
    settings.maximumConcurrency_ne, settings.maximumSessions_ne]

/-- What a worker carries after a step that writes nothing. -/
theorem WorkerStage.Advances.reports {stage stage' : WorkerStage}
    (h : stage.Advances choice stage') (hchoice : choice.Sane) (hstage : stage.Reports) :
    stage'.Reports := by
  cases h with
  | stops _ hreason =>
    rcases hreason with rfl | rfl
    · exact presentable_ascii (by decide)
    · exact presentable_ascii (by decide)
  | compileFailed hgo =>
    subst hgo
    obtain ⟨hreportable, hcode⟩ := hchoice _ rfl
    exact ⟨hreportable, hcode _ rfl⟩
  | compileRaised hgo =>
    subst hgo
    exact (hchoice _ rfl).1
  | executionFailed hgo =>
    subst hgo
    exact hchoice (.status _) rfl
  | executionRaised hgo =>
    subst hgo
    exact hchoice (.raised _) rfl
  | cancels => exact hstage.2
  | fails hcode => exact ⟨hstage, hcode⟩
  | raises _ hquiet => exact absurd hchoice.quiet hquiet
  | fallsBack hgo hcopy =>
    subst hgo
    exact absurd (hcopy.symm.trans (hchoice .copy)) (by decide)
  | _ => trivial

/-- What a thread carries after its own step. -/
theorem reports_thread (hversion : settings.VersionFits) (h : Reachable settings c)
    (hchoice : choice.Sane) (hmoves : (service settings).Moves c i l choice shared' l')
    (hrecords : c.shared.registry.Reports settings) (hl : l.Reports settings) :
    l'.Reports settings := by
  have hsound : c.shared.registry.Sound settings := (registryOutline_holds h).shared
  have hclaim := (registryOutline_holds h).thread hmoves.thread
  cases threadMove hmoves with
  | worker hmove =>
    cases hmove with
    | unexpected hr hqueued =>
      exact absurd ((hclaim _ (List.mem_singleton_self _)).1.of_some hr) hqueued
    | advance _ _ hadvances => exact hadvances.reports hchoice hl
    | publish _ _ _ hphase' _ =>
      rcases hphase' with hfree | ⟨-, -, hquiet⟩
      · exact WorkerStage.reports_of_free hfree
      · exact absurd hchoice.quiet hquiet
    | _ => trivial
  | @call request _ _ _ hmove =>
    cases hmove with
    | refuse _ _ _ => exact reportable_rejection _ ErrorCode.failing_cancelled (by decide)
    | enter => cases hmethod : request.method <;> trivial
    | shutdownFailed hraise =>
      subst hraise
      exact hchoice.elim
    | respond hgo =>
      subst hgo
      exact ⟨hl, congrArg (respond request _) (funext hchoice)⟩
    | createRefused _ _ hreserve => exact reserve_reportable hreserve
    | createAbandoned _ hfailure =>
      rcases hfailure with ⟨outcome, rfl, hfailure⟩ | ⟨fails, -, hpublish⟩
      · exact (hchoice _ hfailure).1
      · exact publish_reportable hpublish
    | createPublished _ hnext _ _ => exact ⟨rfl, hnext⟩
    | createRolledBack _ _ => exact hl
    | closeMissed _ _ _ => exact reportable_rejection _ ErrorCode.failing_notFound (by decide)
    | closeReopened _ => exact hl
    | submitMissed _ _ _ => exact reportable_rejection _ ErrorCode.failing_notFound (by decide)
    | @submitEnded s session fails _ _ _ =>
      change (Ending.ofResult _ _).Reports settings
      cases hresult : (c.shared.registry.submit settings session.id session.graph
        request.submitOptions fails).2 with
      | error failure => exact submit_reportable hresult
      | ok id =>
        rcases Registry.submit_cases settings c.shared.registry session.id session.graph
          request.submitOptions fails with ⟨failure, heq⟩ | ⟨failure, heq, -⟩ | ⟨heq, hnext, -⟩ <;>
          rw [heq] at hresult <;> cases hresult
        exact ⟨rfl, hnext⟩
    | lookupMissed _ _ => exact reportable_rejection _ ErrorCode.failing_notFound (by decide)
    | @lookupFinished kind r record fails _ hr =>
      have hrecord := hrecords r record hr
      have hissued := hsound.issued hr
      cases kind with
      | status =>
        change (Ending.ofResult .observed (record.observe fails)).Reports settings
        unfold JobRecord.observe
        split
        · trivial
        · exact hrecord.valid hissued.1 hissued.2.1
      | cancel => trivial
      | result =>
        change (Ending.ofResult .produced (record.answer fails)).Reports settings
        cases hanswer : record.answer fails with
        | error failure => exact hrecord.answer_reportable hanswer
        | ok value => trivial
    | releaseMissed _ _ => exact reportable_rejection _ ErrorCode.failing_notFound (by decide)
    | releaseRefused _ _ _ =>
      exact reportable_rejection _ ErrorCode.failing_invalidArgument (by decide)
    | infoFailed hquiet => exact absurd hchoice.quiet hquiet
    | infoEnded => exact valid_describe hversion _ _
    | _ => trivial

/-! ## Every configuration -/

/-- What the records report and what the threads carry can be sent. -/
def reportsOutline (settings : Settings) : Outline Shared Thread where
  shared shared := shared.registry.Reports settings
  thread _ _ := Thread.Reports settings
  pair _ _ := True

theorem reportsOutline_preserves (hversion : settings.VersionFits) :
    (service settings).Preserves Choice.Sane (Reachable settings) (reportsOutline settings) where
  symm _ := trivial
  start _ _ _ := trivial
  start_pair _ _ := trivial
  own hchoice hmoves h hc :=
    ⟨reports_records h hchoice hmoves hc.shared (hc.thread hmoves.thread),
      reports_thread hversion h hchoice hmoves hc.shared (hc.thread hmoves.thread)⟩
  other _ _ _ hc _ hj := ⟨hc.thread hj, trivial⟩

theorem reportsOutline_holds (hversion : settings.VersionFits)
    (h : (service settings).Leads Choice.Sane (initial settings) c) :
    (reportsOutline settings).Holds c := by
  refine (reportsOutline_preserves hversion).holds
    (fun hleads => hleads.mono fun _ _ => trivial) ?_ h
  refine ⟨fun r record hr => ?_, fun {i l} hi => ?_, fun _ _ _ => trivial⟩
  · cases hr
  · obtain rfl := eq_idle_of_initial hi
    trivial

/-- If no allocation fails and the kernel keeps to its contract, every response other than a
result can be encoded. Every status that a record can be asked for is valid, only a success has a
result, and identifiers carry the token of the service and no zero. -/
theorem reports_encodable (hversion : settings.VersionFits)
    (h : (service settings).Leads Choice.Sane (initial settings) c) :
    (∀ request ending response, .call request (.returned ending response) ∈ c.threads →
      (∃ payload, decodeRequest payload = .ok request) → request.method ≠ .jobResult →
      ∃ reply, encodeResponse response = .ok reply) ∧
    (∀ (r : JobRef) (record : JobRecord), c.shared.registry.records[r]? = some record →
      jobStatusFailure ⟨record.id, record.sessionId, record.state, record.outcome⟩ = none ∧
      (record.result.isSome = true ↔ record.state = .succeeded) ∧
      record.id.instance' = settings.instanceId ∧ record.id.value ≠ 0 ∧
      record.sessionId.instance' = settings.instanceId ∧ record.sessionId.value ≠ 0) ∧
    ∀ l ∈ c.threads,
      (∀ id, l.ending? = some (.created id) → id.instance' = settings.instanceId ∧ id.value ≠ 0) ∧
      (∀ id, l.ending? = some (.submitted id) →
        id.instance' = settings.instanceId ∧ id.value ≠ 0) ∧
      (∀ status, l.ending? = some (.observed status) → jobStatusFailure status = none) ∧
      ∀ info, l.ending? = some (.described info) → inconsistentDaemonInfo info = false := by
  have hreachable : Reachable settings c := h.mono fun _ _ => trivial
  have hc := reportsOutline_holds hversion h
  have hsound : c.shared.registry.Sound settings := (registryOutline_holds hreachable).shared
  refine ⟨?_, ?_, ?_⟩
  · rintro request ending response hreturned ⟨payload, hdecode⟩ hmethod
    obtain ⟨i, hi⟩ := List.getElem?_of_mem hreturned
    obtain ⟨hreports, rfl⟩ := hc.thread hi
    obtain ⟨hanswers, -⟩ := routed_of_reachable hreachable _ hreturned
    exact encodeResponse_of_ending (hasHeader_of_decodeRequest hdecode).1 hanswers hmethod hreports
  · intro r record hr
    have hrecord := hc.shared r record hr
    obtain ⟨hinstance, hvalue, -⟩ := hsound.issued hr
    refine ⟨(hrecord.valid hinstance hvalue).accepted, ⟨fun hresult => ?_, hrecord.result⟩,
      hinstance, hvalue, hrecord.session⟩
    by_contra hstate
    rw [hsound.result_none hr hstate] at hresult
    cases hresult
  · intro l hl
    obtain ⟨i, hi⟩ := List.getElem?_of_mem hl
    have hreports : ∀ ending, l.ending? = some ending → ending.Reports settings := by
      intro ending hending
      have hthread : l.Reports settings := hc.thread hi
      cases l with
      | worker stage => cases hending
      | call request stage =>
        cases stage with
        | ended ending => cases hending; exact hthread
        | returned ending response => cases hending; exact hthread.1
        | _ => cases hending
    exact ⟨fun id => hreports _, fun id => hreports _,
      fun status hending => JobStatus.Valid.accepted (hreports _ hending),
      fun info hending => DaemonInfo.Valid.consistent (hreports _ hending)⟩

omit [Kernel] in
theorem versionFits_sampleSettings : sampleSettings.VersionFits :=
  ⟨by decide, by decide, (presentable_ascii (by decide)).2⟩

omit [Kernel] in
/-- A `job.status` from the wire, about the first job. -/
def sampleStatusRequest : Request :=
  { (default : Request) with requestId := 1, method := .jobStatus, jobId := ⟨7, 1⟩ }

/-- The first job of `sampleSettings` fails in its execution, and its status is asked for. -/
def sampleFailure : List (Act Choice Request) :=
  [.spawn (sampleRequest .sessionCreate), plainMove 2, plainMove 2,
    .move 2 (.compile (.value ())), plainMove 2,
    .spawn (sampleRequest .jobSubmit), plainMove 3, plainMove 3, plainMove 3,
    plainMove 0, plainMove 0, plainMove 0, .move 0 (.compile (.value ())), plainMove 0,
    .move 0 (.execute (.failure ⟨.internal, ascii "no tile"⟩)), plainMove 0, plainMove 0,
    .spawn sampleStatusRequest, plainMove 4, plainMove 4, plainMove 4, plainMove 4]

/-- The request and the answer of a `job.status` that has returned. -/
def Thread.observed? : Thread → Option (Request × JobStatus)
  | .call request (.returned (.observed status) _) => some (request, status)
  | _ => none

omit [Kernel] in
theorem Thread.eq_observed {l : Thread} {request : Request} {status : JobStatus}
    (h : l.observed? = some (request, status)) :
    ∃ response, l = .call request (.returned (.observed status) response) := by
  unfold Thread.observed? at h
  split at h <;> cases h
  exact ⟨_, rfl⟩

omit [Kernel] in
/-- The status of a job that has failed is sent. -/
theorem reports_encodable_failed :
    letI := sampleKernel
    ∃ c response reply, (service sampleSettings).Leads Choice.Sane (initial sampleSettings) c ∧
      .call sampleStatusRequest (.returned (.observed ⟨⟨7, 1⟩, ⟨7, 1⟩, .failed,
        Status.failure .internal (ascii "no tile")⟩) response) ∈ c.threads ∧
      encodeResponse response = .ok reply := by
  let _ : Kernel := sampleKernel
  have hsane : ∀ act ∈ sampleFailure, act.Allowed Choice.Sane := by
    have hreportable : (⟨.internal, ascii "no tile"⟩ : Status).Reportable :=
      ⟨⟨by decide, by decide⟩, presentable_ascii (by decide)⟩
    simp [sampleFailure, plainMove, Act.Allowed, Choice.Sane, KernelOutcome.failure?,
      Failure.Reportable, hreportable]
  have hrun : ((service sampleSettings).run (initial sampleSettings) sampleFailure).any (fun c =>
      c.threads.any fun l => l.observed? = some (sampleStatusRequest,
        ⟨⟨7, 1⟩, ⟨7, 1⟩, .failed, Status.failure .internal (ascii "no tile")⟩)) = true := by
    decide +kernel
  obtain ⟨c, hrun, htest⟩ := (Option.any_eq_true _ _).mp hrun
  obtain ⟨l, hmem, hl⟩ := List.any_eq_true.mp htest
  have hleads : (service sampleSettings).Leads Choice.Sane (initial sampleSettings) c :=
    ⟨sampleFailure, hsane, hrun⟩
  have hdecode : decodeRequest [3, 0, 1, 0, 0, 0, 0, 0, 0, 0, 4, 7, 0, 0, 0, 0, 0, 0, 0,
      1, 0, 0, 0, 0, 0, 0, 0] = .ok sampleStatusRequest := rfl
  obtain ⟨response, rfl⟩ := Thread.eq_observed (of_decide_eq_true hl)
  obtain ⟨reply, hreply⟩ := (reports_encodable versionFits_sampleSettings hleads).1 _ _ _
    hmem ⟨_, hdecode⟩ (by decide)
  exact ⟨c, response, reply, hleads, hmem, hreply⟩

end PhotospiderDaemon.Orchestration
