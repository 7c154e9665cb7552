import PhotospiderDaemon.Ipc.Diagnostics

/-!
# Which responses can be sent

Beside failures, a response carries an identifier, the status of a job, a result or the
description of the daemon. Except for a result, which may be too large for a frame, what
`encode_response` asks of these is only that the validators of the protocol accept them and that
their texts fit.

* `JobStatus.Valid`, `DaemonInfo.Valid`: what the validators and the text fields ask.
* `encodeResponse_of_body`: a success is sent if its body is.
* `encodeResponse_oversized`: a result with a Value that no frame can hold is not.
-/

namespace PhotospiderDaemon.Ipc

open Foundation

/-- A literal in a text field. -/
theorem writes_literal {characters : List Char} (h : plain characters = true) {maximum : Nat}
    (hlength : characters.length ≤ maximum) [Kernel] :
    WireWrites (4 + maximum) (Encoder.text (ascii (String.ofList characters)) maximum) := by
  have hcount : (ascii (String.ofList characters)).length = characters.length := by simp [ascii]
  obtain ⟨hsize, hutf8⟩ := presentable_ascii h
  refine Writes.mono (writes_text _ maximum ?_ (by omega) hutf8) ?_ <;> rw [hcount] <;> omega

variable [Kernel]

theorem writes_methodName (method : Method) :
    WireWrites (4 + 64) (Encoder.text (methodName method) 64) := by
  cases method <;> exact writes_literal (by decide) (by decide)

theorem writes_methodInventory :
    WireWrites (9 * 68) (forM methodInventory fun method => Encoder.text method 64) := by
  have hforM : WireWrites ((methodInventory.map fun _ => 68).sum)
      (forM methodInventory fun method => Encoder.text method 64) := by
    refine Writes.forM fun name hname => ?_
    obtain ⟨method, -, rfl⟩ := List.mem_map.mp (List.mem_mergeSort.mp hname)
    exact writes_methodName method
  have hsum : (methodInventory.map fun _ => 68).sum = 9 * 68 := by
    simp [List.map_const', length_methodInventory]
  rwa [hsum] at hforM

/-! ## Bodies -/

theorem writes_success : WireWrites 4101 (encodeStatus Status.success) :=
  writes_status (Kernel.codes_le _ (by simp [Status.success, ErrorCode.ok])) (fun _ => rfl)
    presentable_nil

theorem writes_sessionId {id : SessionId} (hinstance : id.instance' ≠ 0) (hvalue : id.value ≠ 0) :
    WireWrites (8 + 8) (encodeSessionId id) :=
  Writes.throwIf_bind (by simp [invalidSessionId, hinstance, hvalue])
    ((writes_u64 _).bind (writes_u64 _))

theorem writes_jobId {id : JobId} (hinstance : id.instance' ≠ 0) (hvalue : id.value ≠ 0) :
    WireWrites (8 + 8) (encodeJobId id) :=
  Writes.throwIf_bind (by simp [invalidJobId, hinstance, hvalue])
    ((writes_u64 _).bind (writes_u64 _))

/-- The outcome belongs to the state. -/
def JobState.Fits : JobState → Status → Prop
  | queued, outcome | running, outcome | succeeded, outcome => outcome = Status.success
  | failed, outcome => outcome.Reportable ∧ outcome.code ≠ .cancelled
  | cancelled, outcome => outcome.Reportable ∧ outcome.code = .cancelled

theorem JobState.Fits.writes {state : JobState} {outcome : Status} (h : state.Fits outcome) :
    WireWrites 4101 (encodeStatus outcome) := by
  cases state with
  | failed => exact h.1.writes
  | cancelled => exact h.1.writes
  | _ => exact (show outcome = Status.success from h) ▸ writes_success

/-- What `validate_job_status` and the text field ask of a status. -/
structure JobStatus.Valid (status : JobStatus) : Prop where
  jobInstance : status.jobId.instance' ≠ 0
  jobValue : status.jobId.value ≠ 0
  sessionValue : status.sessionId.value ≠ 0
  domain : status.sessionId.instance' = status.jobId.instance'
  fits : status.state.Fits status.outcome

/-- `validate_job_status` accepts a valid status. -/
theorem JobStatus.Valid.accepted {status : JobStatus} (h : status.Valid) :
    jobStatusFailure status = none := by
  have hjob : invalidJobId status.jobId = false := by
    simp [invalidJobId, h.jobInstance, h.jobValue]
  have hsession : invalidSessionId status.sessionId = false := by
    simp [invalidSessionId, h.domain, h.jobInstance, h.sessionValue]
  have hfits := h.fits
  simp only [jobStatusFailure, hjob, hsession, h.domain]
  cases hstate : status.state <;> rw [hstate] at hfits
  case failed => simp [hfits.1.not_ok, hfits.2]
  case cancelled => simp [hfits.2]
  all_goals
    rw [show status.outcome = Status.success from hfits]
    simp

theorem JobStatus.Valid.writes {status : JobStatus} (h : status.Valid) :
    WireWrites (8 + (8 + (8 + (8 + (1 + 4101))))) (encodeJobStatus status) :=
  Writes.throwIf_bind (by rw [h.accepted]; rfl)
    ((writes_u64 _).bind ((writes_u64 _).bind ((writes_u64 _).bind ((writes_u64 _).bind
      ((writes_u8 _).bind h.fits.writes)))))

/-- What `validate_daemon_info` and the text field of the version ask of a description. -/
structure DaemonInfo.Valid (info : DaemonInfo) : Prop where
  consistent : inconsistentDaemonInfo info = false
  version : info.serviceVersion.length ≤ 128
  utf8 : validUtf8 info.serviceVersion = true

theorem DaemonInfo.Valid.writes {info : DaemonInfo} (h : info.Valid) :
    WireWrites (2 + (8 + (132 + (68 + (1 + (9 * 68 + (8 + (8 + (4 + 4)))))))))
      (encodeDaemonInfo info) := by
  have hconsistent := h.consistent
  simp only [inconsistentDaemonInfo, Bool.or_eq_false_iff, decide_eq_false_iff_not,
    not_not] at hconsistent
  obtain ⟨⟨⟨⟨-, htransport⟩, -⟩, -⟩, hmethods⟩ := hconsistent
  have hversion : WireWrites 132 (Encoder.text info.serviceVersion 128) := by
    have hlength := h.version
    exact (writes_text _ 128 hlength (by omega) h.utf8).mono (by omega)
  have hunix : WireWrites (4 + 64) (Encoder.text info.transport 64) := by
    rw [htransport]
    exact writes_literal (by decide) (by decide)
  have hcount : decide (info.methods.length > 16) = false := by
    simp [hmethods, length_methodInventory]
  have hinventory : WireWrites (9 * 68)
      (forM info.methods fun method => Encoder.text method 64) := hmethods ▸ writes_methodInventory
  exact Writes.throwIf_bind h.consistent ((writes_u16 _).bind ((writes_u64 _).bind
    (hversion.bind (hunix.bind (Writes.throwIf_bind hcount ((writes_u8 _).bind
      (hinventory.bind ((writes_u64 _).bind ((writes_u64 _).bind ((writes_u32 _).bind
        (writes_u32 _)))))))))))

/-- A success is sent if its body is. -/
theorem encodeResponse_of_body {response : Response} (hid : response.requestId ≠ 0)
    (hok : response.status = Status.success) {n : Nat}
    (hbody : WireWrites n (encodeResponseBody response)) (hn : n ≤ 8192) :
    ∃ reply, encodeResponse response = .ok reply := by
  have hguard : (decide (response.requestId = 0) || !validMethod response.method.code) = false := by
    simp [hid, validMethod_code]
  have hselected : WireWrites n
      (if response.status.ok then encodeResponseBody response else pure ()) := by
    rw [hok, Status.ok_success]
    exact hbody
  have hstatus : WireWrites 4101 (encodeStatus response.status) := hok ▸ writes_success
  have hwrites : WireWrites (2 + (8 + (1 + (4101 + n)))) (responseEncoder response) :=
    Writes.throwIf_bind hguard
      ((writes_u16 _).bind ((writes_u64 _).bind ((writes_u8 _).bind (hstatus.bind hselected))))
  exact finish_of_writes hwrites (Nat.le_trans (by omega : _ ≤ 12304) (by decide))

theorem fails_bytes {value : Bytes} (h : maximumFramePayloadBytes < value.length) :
    Fails (Encoder.bytes value) :=
  .bind_right fun _ => .bind_right fun _ => .append h

/-- The bytes of a Value are the last of its fields. -/
theorem fails_encodeValue {value : Value} (h : maximumFramePayloadBytes < value.bytes.length) :
    Fails (encodeValue value) := by
  unfold encodeValue
  iterate 11 refine .bind_right fun _ => ?_
  exact fails_bytes h

/-- A success is not sent if its body is not. -/
theorem encodeResponse_of_fails {response : Response} (hok : response.status.ok = true)
    (hbody : Fails (encodeResponseBody response)) :
    ∃ failure, encodeResponse response = .error failure := by
  have hencoder : Fails (responseEncoder response) := by
    unfold responseEncoder
    rw [if_pos hok]
    iterate 5 refine .bind_right fun _ => ?_
    exact hbody
  cases hreply : encodeResponse response with
  | error failure => exact ⟨failure, rfl⟩
  | ok reply => exact absurd (finish_eq_ok.mp hreply) (hencoder [] _)

/-- A result with a Value that no frame can hold is not sent. -/
theorem encodeResponse_oversized {response : Response} (hok : response.status.ok = true)
    (hmethod : response.method = .jobResult) {entry : Bytes × Value}
    (hentry : entry ∈ response.executionResult.values.entries)
    (hlong : maximumFramePayloadBytes < entry.2.bytes.length) :
    ∃ failure, encodeResponse response = .error failure := by
  refine encodeResponse_of_fails hok ?_
  rw [encodeResponseBody, hmethod]
  exact .bind_right fun _ => .bind_right fun _ =>
    .bind_left (.forM hentry (.bind_right fun _ => fails_encodeValue hlong))

/-- The status of a job that is valid but for its diagnostic is sent exactly if that fits. -/
theorem encodeResponse_jobStatus_iff {response : Response} (hid : response.requestId ≠ 0)
    (hok : response.status = Status.success) (hmethod : response.method = .jobStatus)
    (hvalid : Presentable response.jobStatus.outcome.message → response.jobStatus.Valid) :
    (∃ reply, encodeResponse response = .ok reply) ↔
      Presentable response.jobStatus.outcome.message := by
  have hbody : encodeResponseBody response = encodeJobStatus response.jobStatus := by
    rw [encodeResponseBody, hmethod]
  refine ⟨fun ⟨reply, hreply⟩ => ?_, fun hmessage => ?_⟩
  · by_contra hmessage
    have hstatus : Fails (encodeStatus response.jobStatus.outcome) := fun p result hrun =>
      hmessage (encodeStatus_eq_ok hrun).2
    have hfails : Fails (encodeResponseBody response) := by
      rw [hbody]
      unfold encodeJobStatus
      iterate 6 refine .bind_right fun _ => ?_
      exact hstatus
    obtain ⟨failure, hfailure⟩ := encodeResponse_of_fails (hok ▸ Status.ok_success) hfails
    rw [hfailure] at hreply
    cases hreply
  · exact encodeResponse_of_body hid hok (hbody ▸ (hvalid hmessage).writes) (by decide)

end PhotospiderDaemon.Ipc
