import Mathlib.Data.List.TakeWhile
import PhotospiderDaemon.Foundation.Throwing
import PhotospiderDaemon.Ipc.FrameStream
import PhotospiderDaemon.Ipc.ProtocolError

/-!
# Which failures can be sent

A failure travels as a code and a text, and `encode_status` has its own opinion about both: it
refuses a text of more than 4096 bytes or of invalid UTF-8. The statuses that the codec and
the frame reader build themselves carry short ASCII texts, so they always pass; a status with
a text from elsewhere need not.

* `encodeProtocolError_iff`, `encodeResponse_failed_iff`: exactly the `Reportable` failures are
  sent.
* `decodeRequest_failure`, `encodeResponse_failure`, `readFrame_failure`: the failures that
  arise on the way are among them.
-/

namespace PhotospiderDaemon.Ipc

open Foundation

/-! ## Texts -/

/-- A text that fits into the diagnostic of a status. -/
def Presentable (message : Bytes) : Prop := message.length ≤ 4096 ∧ validUtf8 message = true

instance (message : Bytes) : Decidable (Presentable message) := inferInstanceAs (Decidable (_ ∧ _))

theorem presentable_nil : Presentable [] := by decide

/-- Bytes below 128 are characters of their own. -/
theorem validUtf8Loop_of_le {value : Bytes} (h : ∀ byte ∈ value, byte ≤ 0x7f) (turns index : Nat) :
    validUtf8Loop value turns index = some true := by
  induction turns generalizing index with
  | zero => rfl
  | succ turns ih =>
    unfold validUtf8Loop
    by_cases hindex : index < value.length
    · have hbyte : value[index] ≤ 0x7f := h _ (List.getElem_mem hindex)
      simp [hindex, hbyte, ih]
    · simp [hindex]

/-- Few ASCII characters, and none of them null. The literals of the source are `String.ofList`
of theirs. -/
def plain (characters : List Char) : Bool :=
  characters.length ≤ 4096 && characters.all fun c => 0 < c.toNat && c.toNat < 128

section Literals

variable {characters : List Char}

theorem mem_ascii_of_plain (h : plain characters = true) {byte : UInt8}
    (hbyte : byte ∈ ascii (String.ofList characters)) : 0 < byte.toNat ∧ byte.toNat < 128 := by
  obtain ⟨c, hc, rfl⟩ := List.mem_map.mp hbyte
  rw [String.toList_ofList] at hc
  simp only [plain, Bool.and_eq_true, List.all_eq_true, decide_eq_true_eq] at h
  obtain ⟨hpos, hlt⟩ := h.2 c hc
  rw [UInt8.toNat_ofNat', Nat.mod_eq_of_lt (by omega)]
  exact ⟨hpos, hlt⟩

theorem presentable_ascii (h : plain characters = true) :
    Presentable (ascii (String.ofList characters)) := by
  have hlength : (ascii (String.ofList characters)).length ≤ 4096 := by
    simp only [plain, Bool.and_eq_true, decide_eq_true_eq] at h
    simpa [ascii] using h.1
  have hbytes : ∀ byte ∈ ascii (String.ofList characters), byte ≤ 0x7f := by
    intro byte hbyte
    have hlt := (mem_ascii_of_plain h hbyte).2
    exact UInt8.le_iff_toNat_le.mpr (Nat.le_of_lt_succ hlt)
  exact ⟨hlength, by simp [validUtf8, validUtf8Loop_of_le hbytes]⟩

/-- `what()` gives a literal back. -/
theorem what_ascii (h : plain characters = true) :
    what (ascii (String.ofList characters)) = ascii (String.ofList characters) := by
  refine List.takeWhile_eq_self_iff.mpr fun byte hbyte => ?_
  have hpos := (mem_ascii_of_plain h hbyte).1
  rw [decide_eq_true_eq]
  rintro rfl
  exact absurd hpos (by decide)

end Literals

variable [Kernel]

/-! ## Failures that can be sent -/

/-- A code of the kernel's enumeration other than `Ok`. -/
def ErrorCode.Failing (code : ErrorCode) : Prop := code ≠ .ok ∧ code.raw ≤ ErrorCode.internal.raw

namespace ErrorCode

theorem failing_invalidArgument : invalidArgument.Failing :=
  ⟨invalidArgument_ne_ok, Kernel.codes_le _ (by simp [invalidArgument])⟩

theorem failing_notFound : notFound.Failing :=
  ⟨notFound_ne_ok, Kernel.codes_le _ (by simp [notFound])⟩

theorem failing_resourceExhausted : resourceExhausted.Failing :=
  ⟨resourceExhausted_ne_ok, Kernel.codes_le _ (by simp [resourceExhausted])⟩

theorem failing_cancelled : cancelled.Failing :=
  ⟨cancelled_ne_ok, Kernel.codes_le _ (by simp [cancelled])⟩

theorem failing_internal : internal.Failing :=
  ⟨internal_ne_ok, Kernel.codes_le _ (by simp [internal])⟩

end ErrorCode

/-- A failure that `encode_status` accepts. -/
def Status.Reportable (status : Status) : Prop :=
  status.code.Failing ∧ Presentable status.message

theorem Status.Reportable.not_ok {status : Status} (h : status.Reportable) : status.ok = false :=
  decide_eq_false h.1.1

theorem reportable_literal {code : ErrorCode} (hcode : code.Failing) {characters : List Char}
    (h : plain characters = true) :
    (Status.failure code (ascii (String.ofList characters))).Reportable :=
  ⟨hcode, presentable_ascii h⟩

omit [Kernel] in
/-- The condition on which the encoder refuses a diagnostic. -/
theorem unfit_of_not_presentable {message : Bytes} (h : ¬ Presentable message) :
    (decide (message.length > 4096) || decide (message.length > 2 ^ 32 - 1) ||
      !validUtf8 message) = true := by
  simp only [Bool.or_eq_true, decide_eq_true_eq, Bool.not_eq_true']
  unfold Presentable at h
  rw [not_and_or, Nat.not_le, Bool.not_eq_true] at h
  exact h.imp_left Or.inl

theorem encodeStatus_eq_ok {status : Status} {payload payload' : Bytes}
    (h : (encodeStatus status).run payload = .ok ((), payload')) :
    status.code.raw ≤ ErrorCode.internal.raw ∧ Presentable status.message := by
  unfold encodeStatus at h
  obtain ⟨_, _, hguard, h⟩ := Writer.bind_eq_ok h
  obtain ⟨_, _, -, htext⟩ := Writer.bind_eq_ok h
  unfold Encoder.text at htext
  obtain ⟨_, _, hbound, -⟩ := Writer.bind_eq_ok htext
  refine ⟨?_, ?_⟩
  · by_contra hlarge
    rw [UInt8.not_le] at hlarge
    simp only [Encoder.throwIf, gt_iff_lt, hlarge, decide_true, Bool.true_or] at hguard
    cases hguard
  · by_contra hlong
    rw [Encoder.throwIf, unfit_of_not_presentable hlong] at hbound
    cases hbound

theorem writes_status {status : Status} (hcode : status.code.raw ≤ ErrorCode.internal.raw)
    (hcanonical : status.ok = true → status.message = []) (hmessage : Presentable status.message) :
    WireWrites 4101 (encodeStatus status) := by
  obtain ⟨hlength, hutf8⟩ := hmessage
  have htext := writes_text status.message 4096 hlength (by omega) hutf8
  refine Writes.mono (Writes.throwIf_bind ?_ ((writes_u8 _).bind htext)) (by omega)
  rw [Bool.or_eq_false_iff]
  refine ⟨decide_eq_false (UInt8.not_lt.mpr hcode), ?_⟩
  cases hok : status.ok with
  | false => rfl
  | true => simp [hcanonical hok]

theorem Status.Reportable.writes {status : Status} (h : status.Reportable) :
    WireWrites 4101 (encodeStatus status) :=
  writes_status h.1.2 (fun hok => absurd (h.not_ok.symm.trans hok) (by decide)) h.2

/-- An encoder that needs less than a frame fills one. -/
theorem finish_of_writes {encoder : Encoder} {n : Nat} (h : WireWrites n encoder)
    (hn : n ≤ maximumFramePayloadBytes) : ∃ payload, encoder.finish = .ok payload := by
  obtain ⟨payload, hrun, -⟩ := h [] (by simpa using hn)
  exact ⟨payload, finish_eq_ok.mpr hrun⟩

/-- A protocol error is sent exactly if its failure is reportable. -/
theorem encodeProtocolError_iff {status : Status} {requestPayload : Option Bytes} :
    (∃ reply, encodeProtocolError status requestPayload = .ok reply) ↔ status.Reportable := by
  constructor
  · rintro ⟨reply, h⟩
    have hfailed := encodeProtocolError_not_ok h
    have hrun := finish_eq_ok.mp h
    unfold protocolErrorEncoder at hrun
    obtain ⟨_, _, -, hrun⟩ := Writer.bind_eq_ok hrun
    obtain ⟨_, _, -, hrun⟩ := Writer.bind_eq_ok hrun
    obtain ⟨_, _, -, hrun⟩ := Writer.bind_eq_ok hrun
    obtain ⟨_, _, -, hrun⟩ := Writer.bind_eq_ok hrun
    obtain ⟨hcode, hmessage⟩ := encodeStatus_eq_ok hrun
    exact ⟨⟨of_decide_eq_false hfailed, hcode⟩, hmessage⟩
  · intro h
    have hwrites : WireWrites (2 + (8 + (1 + 4101)))
        (protocolErrorEncoder status (recoverCorrelation requestPayload)) :=
      Writes.throwIf_bind h.not_ok
        ((writes_u16 _).bind ((writes_u64 _).bind ((writes_u8 _).bind h.writes)))
    exact finish_of_writes hwrites (by decide)

/-- A failed response is written as a protocol error under its own correlation. -/
theorem responseEncoder_failed {response : Response} (hid : response.requestId ≠ 0)
    (hfailed : response.status.ok = false) :
    responseEncoder response =
      protocolErrorEncoder response.status ⟨response.requestId, response.method⟩ := by
  have hguard : (decide (response.requestId = 0) || !validMethod response.method.code) = false := by
    simp [hid, validMethod_code]
  have hpasses : ∀ code message, Encoder.throwIf false code message = pure () := fun _ _ => rfl
  unfold responseEncoder protocolErrorEncoder
  rw [hguard, hfailed, hpasses, hpasses, if_neg Bool.false_ne_true]
  simp only [bind_pure_unit]

theorem encodeResponse_failed {response : Response} {payload : Bytes}
    (hheader : HasHeader payload response.requestId response.method)
    (hfailed : response.status.ok = false) :
    encodeResponse response = encodeProtocolError response.status (some payload) := by
  rw [encodeResponse, responseEncoder_failed hheader.1 hfailed, encodeProtocolError,
    recoverCorrelation_of_hasHeader hheader]

/-- A failed response to a request is sent exactly if its failure is reportable. -/
theorem encodeResponse_failed_iff {response : Response} (hid : response.requestId ≠ 0)
    (hfailed : response.status.ok = false) :
    (∃ reply, encodeResponse response = .ok reply) ↔ response.status.Reportable := by
  have hheader : HasHeader (headerBytes protocolVersion response.requestId response.method.code)
      response.requestId response.method := ⟨hid, List.prefix_refl _⟩
  rw [encodeResponse_failed hheader hfailed]
  exact encodeProtocolError_iff

/-- A failure with a text that does not fit is refused by the encoder of texts. -/
theorem encodeProtocolError_unpresentable {status : Status} (hcode : status.code.Failing)
    (h : ¬ Presentable status.message) (requestPayload : Option Bytes) :
    ∃ failure, encodeProtocolError status requestPayload = .error failure ∧
      failure.code = .invalidArgument := by
  have hcanonical : (decide (status.code.raw > ErrorCode.internal.raw) ||
      (status.ok && !status.message.isEmpty)) = false := by
    rw [Bool.or_eq_false_iff]
    exact ⟨decide_eq_false (UInt8.not_lt.mpr hcode.2), by simp [Status.ok, hcode.1]⟩
  have htext : FailsWith maximumFramePayloadBytes 0 (Encoder.text status.message 4096)
      (.codecFailure .invalidArgument (ascii "wire text exceeds its bound or is invalid UTF-8")) :=
    .throwIf (unfit_of_not_presentable h)
  have hstatus : FailsWith maximumFramePayloadBytes (1 + 0) (encodeStatus status) _ :=
    .throwIf_bind hcanonical (.bind (writes_u8 _) htext)
  have hfails : FailsWith maximumFramePayloadBytes (2 + (8 + (1 + (1 + 0))))
      (protocolErrorEncoder status (recoverCorrelation requestPayload)) _ :=
    .throwIf_bind (decide_eq_false hcode.1)
      (.bind (writes_u16 _) (.bind (writes_u64 _) (.bind (writes_u8 _) hstatus)))
  refine ⟨thrownStatus (.codecFailure .invalidArgument
    (ascii "wire text exceeds its bound or is invalid UTF-8")), ?_, rfl⟩
  rw [encodeProtocolError, Encoder.finish, hfails [] (by decide)]

/-! ## Failures of the decoder of requests -/

/-- A payload was refused as `InvalidArgument`, with a text that can be sent. -/
def Thrown.Malformed (thrown : Thrown) : Prop :=
  (thrownStatus thrown).code = .invalidArgument ∧ (thrownStatus thrown).Reportable

theorem malformed_literal {characters : List Char} (h : plain characters = true) :
    (Thrown.codecFailure .invalidArgument (ascii (String.ofList characters))).Malformed := by
  refine ⟨rfl, ErrorCode.failing_invalidArgument, ?_⟩
  show Presentable (what (ascii (String.ofList characters)))
  rw [what_ascii h]
  exact presentable_ascii h

/-- A decoder that refuses as `InvalidArgument` only. -/
abbrev Refuses {α : Type} (decoder : Decoder α) : Prop := Throws Thrown.Malformed decoder

namespace Decoder

theorem malformed_truncated : truncated.Malformed := malformed_literal (by decide)

theorem refuses_throwIf {condition : Bool} {characters : List Char} (h : plain characters = true) :
    Refuses (throwIf condition (String.ofList characters)) :=
  Throws.throwIf (malformed_literal h)

theorem refuses_fail {α : Type} {characters : List Char} (h : plain characters = true) :
    Refuses (fail (String.ofList characters) : Decoder α) :=
  Throws.throw (malformed_literal h)

theorem refuses_u8 : Refuses u8 := Throws.byte malformed_truncated

theorem refuses_unsigned (width : Nat) : Refuses (unsigned width) :=
  Throws.little malformed_truncated width

theorem refuses_u16 : Refuses u16 := (refuses_unsigned 2).bind fun _ => .pure _

theorem refuses_u32 : Refuses u32 := (refuses_unsigned 4).bind fun _ => .pure _

theorem refuses_u64 : Refuses u64 := (refuses_unsigned 8).bind fun _ => .pure _

theorem refuses_i64 : Refuses i64 := refuses_u64.bind fun _ => .pure _

theorem refuses_f64 : Refuses f64 := refuses_u64.bind fun _ => .pure _

theorem refuses_boolean : Refuses boolean :=
  refuses_u8.bind fun _ => (refuses_throwIf (by decide)).bind fun _ => .pure _

theorem refuses_text (maximum : Nat) : Refuses (text maximum) :=
  refuses_u32.bind fun _ => (refuses_throwIf (by decide)).bind fun _ =>
    (Throws.take malformed_truncated _).bind fun _ =>
      (refuses_throwIf (by decide)).bind fun _ => .pure _

theorem refuses_requireEnd : Refuses requireEnd :=
  Throws.remaining.bind fun _ => refuses_throwIf (by decide)

end Decoder

open Decoder

theorem refuses_fenced (kind : DecoderCountKind) (count : UInt64) : Refuses (fenced kind count) :=
  (Throws.check (malformed_literal (by decide))).bind fun _ => Throws.observe _

theorem refuses_decodeParameter : Refuses decodeParameter := by
  refine refuses_u8.bind fun tag => ?_
  split
  · exact refuses_i64.bind fun _ => .pure _
  split
  · exact refuses_f64.bind fun _ => .pure _
  split
  · exact refuses_boolean.bind fun _ => .pure _
  split
  · exact (refuses_text _).bind fun _ => .pure _
  · exact refuses_fail (by decide)

theorem refuses_decodeInput : Refuses decodeInput :=
  refuses_u64.bind fun _ => (refuses_text _).bind fun _ => .pure _

theorem refuses_decodeParameterEntry (parameters : OrderedMap Bytes ParameterValue) :
    Refuses (decodeParameterEntry parameters) :=
  (refuses_text _).bind fun _ => refuses_decodeParameter.bind fun _ =>
    (refuses_throwIf (by decide)).bind fun _ => .pure _

/-- A count, its semantic bound and its fence, in front of what the count controls. -/
theorem refuses_count {α : Type} {bound : UInt32} {kind : DecoderCountKind} {characters : List Char}
    {decoder : UInt32 → Decoder α} (h : plain characters = true)
    (hrest : ∀ c, Refuses (decoder c)) :
    Refuses (do
      let c ← u32
      throwIf (c > bound) (String.ofList characters)
      fenced kind c.toUInt64
      decoder c) :=
  refuses_u32.bind fun c => (refuses_throwIf h).bind fun _ =>
    (refuses_fenced kind _).bind fun _ => hrest c

theorem refuses_decodeNode : Refuses (decodeNode fenced) :=
  refuses_u64.bind fun _ => (refuses_text _).bind fun _ =>
    refuses_count (by decide) fun _ => (refuses_decodeInput.many _).bind fun _ =>
      refuses_count (by decide) fun _ =>
        (Throws.iterate refuses_decodeParameterEntry _ _).bind fun _ => .pure _

theorem refuses_decodeOutput : Refuses decodeOutput :=
  (refuses_text _).bind fun _ => refuses_u64.bind fun _ => (refuses_text _).bind fun _ => .pure _

theorem refuses_decodeDocument : Refuses (decodeDocument fenced) :=
  refuses_u32.bind fun _ =>
    refuses_count (by decide) fun _ => (refuses_decodeNode.many _).bind fun _ =>
      refuses_count (by decide) fun _ => (refuses_decodeOutput.many _).bind fun _ => .pure _

theorem refuses_decodeMethod (raw : UInt8) : Refuses (decodeMethod raw) := by
  unfold decodeMethod
  split
  · exact .pure _
  · exact refuses_fail (by decide)

theorem refuses_decodeSessionId : Refuses decodeSessionId :=
  refuses_u64.bind fun _ => refuses_u64.bind fun _ =>
    (refuses_throwIf (by decide)).bind fun _ => .pure _

theorem refuses_decodeJobId : Refuses decodeJobId :=
  refuses_u64.bind fun _ => refuses_u64.bind fun _ =>
    (refuses_throwIf (by decide)).bind fun _ => .pure _

theorem refuses_decodeSubmit : Refuses decodeSubmit :=
  refuses_u64.bind fun _ => refuses_u64.bind fun _ => refuses_boolean.bind fun _ =>
    refuses_u32.bind fun _ => (refuses_throwIf (by decide)).bind fun _ => .pure _

theorem refuses_decodeRequestBody (request : Request) :
    Refuses (decodeRequestBody fenced request) := by
  unfold decodeRequestBody
  split
  · exact refuses_decodeDocument.bind fun _ => .pure _
  · exact refuses_decodeSessionId.bind fun _ => .pure _
  · exact refuses_decodeSubmit.bind fun _ => .pure _
  all_goals first
    | exact refuses_decodeJobId.bind fun _ => .pure _
    | exact .pure _

theorem refuses_requestFields : Refuses (requestFields fenced) :=
  refuses_u16.bind fun _ => (refuses_throwIf (by decide)).bind fun _ =>
    refuses_u64.bind fun _ => (refuses_throwIf (by decide)).bind fun _ =>
      refuses_u8.bind fun _ => (refuses_decodeMethod _).bind fun _ => refuses_decodeRequestBody _

/-- A payload that is no request is refused as `InvalidArgument`, and this can be reported. -/
theorem decodeRequest_failure {payload : Bytes} {status : Status}
    (h : decodeRequest payload = .error status) :
    status.code = .invalidArgument ∧ status.Reportable := by
  have hwhole : Refuses (requestFields fenced).whole :=
    refuses_requestFields.bind fun _ => refuses_requireEnd.bind fun _ => .pure _
  unfold decodeRequest decodeRequestWith Decoder.start at h
  split at h
  · cases h
    exact ⟨rfl, reportable_literal ErrorCode.failing_invalidArgument (by decide)⟩
  · split at h
    · cases h
    · rename_i thrown state hrun
      cases h
      exact hwhole _ _ _ hrun

/-! ## Failures of the encoder of responses -/

/-- What was thrown becomes a status that can be sent. -/
def Thrown.Reportable (thrown : Thrown) : Prop := (thrownStatus thrown).Reportable

/-- An encoder that extends the payload within a frame, or refuses with a failure that can be
reported. -/
structure Orderly (encoder : Encoder) : Prop where
  throws : Writer.Throws Thrown.Reportable encoder
  emits : Emits maximumFramePayloadBytes encoder fun _ => True

namespace Orderly

theorem pure : Orderly (pure ()) := ⟨.pure (), .pure trivial⟩

theorem bind {encoder : Encoder} {next : Unit → Encoder} (h : Orderly encoder)
    (hnext : ∀ u, Orderly (next u)) : Orderly (encoder >>= next) :=
  ⟨h.throws.bind fun u => (hnext u).throws, h.emits.bind (hnext ()).emits fun _ _ _ _ => trivial⟩

theorem forM {α : Type} {encode : α → Encoder} (h : ∀ a, Orderly (encode a)) (xs : List α) :
    Orderly (forM xs encode) := by
  induction xs with
  | nil => exact pure
  | cons x xs ih =>
    rw [List.forM_cons]
    exact (h x).bind fun _ => ih

end Orderly

theorem reportable_thrown {code : ErrorCode} (hcode : code.Failing) {characters : List Char}
    (h : plain characters = true) :
    (Thrown.codecFailure code (ascii (String.ofList characters))).Reportable := by
  refine ⟨hcode, ?_⟩
  show Presentable (what (ascii (String.ofList characters)))
  rw [what_ascii h]
  exact presentable_ascii h

namespace Encoder

theorem reportable_overflow : overflow.Reportable :=
  reportable_thrown ErrorCode.failing_resourceExhausted (by decide)

theorem orderly_throwIf {condition : Bool} {code : ErrorCode} {characters : List Char}
    (hcode : code.Failing) (h : plain characters = true) :
    Orderly (throwIf condition code (String.ofList characters)) := by
  refine ⟨Writer.Throws.throwIf (reportable_thrown hcode h), ?_⟩
  cases condition with
  | true => exact Emits.throw
  | false => exact Emits.pure trivial

theorem orderly_invalid {condition : Bool} {characters : List Char} (h : plain characters = true) :
    Orderly (throwIf condition .invalidArgument (String.ofList characters)) :=
  orderly_throwIf ErrorCode.failing_invalidArgument h

theorem orderly_exhausted {condition : Bool} {characters : List Char}
    (h : plain characters = true) :
    Orderly (throwIf condition .resourceExhausted (String.ofList characters)) :=
  orderly_throwIf ErrorCode.failing_resourceExhausted h

theorem orderly_append (data : Bytes) : Orderly (append data) :=
  ⟨Writer.Throws.append reportable_overflow data, (Emits.append _ data).mono fun _ _ => trivial⟩

theorem orderly_u8 (value : UInt8) : Orderly (u8 value) := orderly_append _

theorem orderly_unsigned (width value : Nat) : Orderly (unsigned width value) :=
  ⟨Writer.Throws.little reportable_overflow width value,
    (Emits.little _ width value).mono fun _ _ => trivial⟩

theorem orderly_text (value : Bytes) (maximum : Nat) : Orderly (text value maximum) :=
  (orderly_invalid (by decide)).bind fun _ => (orderly_unsigned 4 _).bind fun _ => orderly_append _

theorem orderly_bytes (value : Bytes) : Orderly (bytes value) :=
  (orderly_exhausted (by decide)).bind fun _ => (orderly_unsigned 4 _).bind fun _ =>
    orderly_append _

theorem orderly_validateJobStatus (status : JobStatus) : Orderly (validateJobStatus status) := by
  unfold validateJobStatus jobStatusFailure
  split
  · exact orderly_invalid (by decide)
  split
  · exact orderly_invalid (by decide)
  split
  · exact orderly_invalid (by decide)
  split
  all_goals
    split
    · exact orderly_invalid (by decide)
    · exact .pure

end Encoder

open Encoder

theorem orderly_encodeStatus (status : Status) : Orderly (encodeStatus status) :=
  (orderly_invalid (by decide)).bind fun _ => (orderly_u8 _).bind fun _ => orderly_text _ _

theorem orderly_encodeFacet (facet : ValueFacet) : Orderly (encodeFacet facet) :=
  (orderly_text _ _).bind fun _ => (orderly_unsigned 4 _).bind fun _ => orderly_bytes _

theorem orderly_encodeValue (value : Value) : Orderly (encodeValue value) :=
  (orderly_invalid (by decide)).bind fun _ => (orderly_invalid (by decide)).bind fun _ =>
    (orderly_unsigned 4 _).bind fun _ => (orderly_u8 _).bind fun _ =>
    (Orderly.forM (fun _ => orderly_unsigned 8 _) _).bind fun _ =>
    (Orderly.forM (fun _ => (orderly_unsigned 8 _).bind fun _ => orderly_unsigned 8 _) _).bind
      fun _ => (orderly_unsigned 8 _).bind fun _ =>
    (Orderly.forM (fun _ => orderly_unsigned 8 _) _).bind fun _ =>
    (orderly_exhausted (by decide)).bind fun _ => (orderly_u8 _).bind fun _ =>
    (Orderly.forM orderly_encodeFacet _).bind fun _ => orderly_bytes _

theorem orderly_encodeBackend (entry : UInt64 × Backend) : Orderly (encodeBackend entry) :=
  (orderly_invalid (by decide)).bind fun _ => (orderly_unsigned 8 _).bind fun _ => orderly_u8 _

theorem orderly_encodeTiming (timing : OperationTiming) : Orderly (encodeTiming timing) :=
  (orderly_invalid (by decide)).bind fun _ => (orderly_unsigned 8 _).bind fun _ =>
    (orderly_u8 _).bind fun _ => (orderly_unsigned 8 _).bind fun _ => orderly_u8 _

theorem orderly_encodeDiagnostics (diagnostics : ExecutionDiagnostics) :
    Orderly (encodeDiagnostics diagnostics) :=
  (orderly_exhausted (by decide)).bind fun _ => (orderly_unsigned 8 _).bind fun _ =>
    (orderly_unsigned 4 _).bind fun _ =>
    (Orderly.forM orderly_encodeBackend _).bind fun _ =>
    (orderly_unsigned 8 _).bind fun _ => (orderly_unsigned 8 _).bind fun _ =>
    (orderly_unsigned 8 _).bind fun _ => (orderly_unsigned 4 _).bind fun _ =>
    (Orderly.forM (fun _ => orderly_text _ _) _).bind fun _ =>
    (orderly_unsigned 4 _).bind fun _ => (Orderly.forM orderly_encodeTiming _).bind fun _ =>
    (orderly_text _ _).bind fun _ => orderly_text _ _

theorem orderly_encodeExecutionResult (result : ExecutionResult) :
    Orderly (encodeExecutionResult result) :=
  (orderly_exhausted (by decide)).bind fun _ => (orderly_unsigned 4 _).bind fun _ =>
    (Orderly.forM (fun _ => (orderly_text _ _).bind fun _ => orderly_encodeValue _) _).bind
      fun _ => orderly_encodeDiagnostics _

theorem orderly_encodeDaemonInfo (info : DaemonInfo) : Orderly (encodeDaemonInfo info) :=
  (orderly_invalid (by decide)).bind fun _ => (orderly_unsigned 2 _).bind fun _ =>
    (orderly_unsigned 8 _).bind fun _ => (orderly_text _ _).bind fun _ =>
    (orderly_text _ _).bind fun _ => (orderly_invalid (by decide)).bind fun _ =>
    (orderly_u8 _).bind fun _ => (Orderly.forM (fun _ => orderly_text _ _) _).bind fun _ =>
    (orderly_unsigned 8 _).bind fun _ => (orderly_unsigned 8 _).bind fun _ =>
    (orderly_unsigned 4 _).bind fun _ => orderly_unsigned 4 _

theorem orderly_encodeSessionId (id : SessionId) : Orderly (encodeSessionId id) :=
  (orderly_invalid (by decide)).bind fun _ => (orderly_unsigned 8 _).bind fun _ =>
    orderly_unsigned 8 _

theorem orderly_encodeJobId (id : JobId) : Orderly (encodeJobId id) :=
  (orderly_invalid (by decide)).bind fun _ => (orderly_unsigned 8 _).bind fun _ =>
    orderly_unsigned 8 _

theorem orderly_encodeJobStatus (status : JobStatus) : Orderly (encodeJobStatus status) :=
  (orderly_validateJobStatus status).bind fun _ => (orderly_unsigned 8 _).bind fun _ =>
    (orderly_unsigned 8 _).bind fun _ => (orderly_unsigned 8 _).bind fun _ =>
    (orderly_unsigned 8 _).bind fun _ => (orderly_u8 _).bind fun _ => orderly_encodeStatus _

theorem orderly_encodeResponseBody (response : Response) :
    Orderly (encodeResponseBody response) := by
  unfold encodeResponseBody
  split
  · exact orderly_encodeSessionId _
  · exact orderly_encodeJobId _
  · exact orderly_encodeJobStatus _
  · exact orderly_encodeExecutionResult _
  · exact orderly_encodeDaemonInfo _
  all_goals exact .pure

/-- What follows the header of a response. -/
theorem orderly_statusAndBody (response : Response) :
    Orderly (do
      encodeStatus response.status
      if response.status.ok then encodeResponseBody response else pure ()) := by
  refine (orderly_encodeStatus _).bind fun _ => ?_
  split
  · exact orderly_encodeResponseBody response
  · exact .pure

/-- A response that cannot be encoded fails with a status that can. -/
theorem encodeResponse_failure {response : Response} {status : Status}
    (h : encodeResponse response = .error status) : status.Reportable := by
  have hencoder : Orderly (responseEncoder response) :=
    (orderly_invalid (by decide)).bind fun _ => (orderly_unsigned 2 _).bind fun _ =>
      (orderly_unsigned 8 _).bind fun _ => (orderly_u8 _).bind fun _ =>
        orderly_statusAndBody response
  unfold encodeResponse Encoder.finish at h
  split at h
  · cases h
  · rename_i thrown hrun
    cases h
    exact hencoder.throws _ _ hrun

/-- A response that was encoded has its header in front and fits into a frame. -/
theorem hasHeader_of_encodeResponse {response : Response} {reply : Bytes}
    (h : encodeResponse response = .ok reply) :
    HasHeader reply response.requestId response.method ∧ InRange reply := by
  have hrun := finish_eq_ok.mp h
  have hid : response.requestId ≠ 0 := by
    intro hzero
    rw [responseEncoder, hzero] at hrun
    cases hrun
  have hrest := (orderly_statusAndBody response).emits.mono fun bs _ => List.nil_prefix (l := bs)
  have hemits : Emits maximumFramePayloadBytes (responseEncoder response)
      (headerBytes protocolVersion response.requestId response.method.code <+: ·) :=
    Emits.throwIf_bind fun _ => (Emits.little _ 2 _).begins ((Emits.little _ 8 _).begins
      ((Emits.append _ [response.method.code]).begins hrest))
  obtain ⟨bs, hbs, hlength, hheader⟩ := hemits [] reply (Nat.zero_le _) hrun
  rw [List.nil_append] at hbs
  subst hbs
  have hlower := hheader.length_le
  rw [length_headerBytes] at hlower
  exact ⟨⟨hid, hheader⟩, Nat.le_trans (by decide) hlower, hlength⟩

/-! ## Failures of the frame reader -/

/-- A read that fails in a schedule without failures does so with a status that can be sent, and
has kept the front of what has arrived of the payload. -/
theorem readFrame_failure {descriptor : Int} (hd : 0 ≤ descriptor) {connection c : Connection}
    (hs : Steady connection.events) {status : Status}
    (h : readFrame descriptor connection = .returned (.error status) c) :
    status.Reportable ∧ c.progress =
      connection.progress.map fun _ => ⟨(arrivedPayload connection.stream).take 11⟩ := by
  obtain ⟨stream, events, progress⟩ := connection
  have htruncated : truncatedFrame.Reportable :=
    reportable_literal ErrorCode.failing_invalidArgument (by decide)
  unfold readFrame at h
  simp only [if_neg (Int.not_lt.mpr hd)] at h
  obtain ⟨header, hreads, hprogress⟩ := readExact_spec 4 (by decide)
    ⟨stream, events, resetProgress progress⟩
  have hstream : stream = _ := hreads.stream_eq
  have hsuffix := hreads.events_suffix
  rcases hreads.cases with ⟨c₁, hc, hlength, -⟩ | ⟨status₁, c₁, hc, hend⟩ | ⟨c₁, hc, -⟩
  all_goals
    simp only [hc, Outcome.state_returned] at h hprogress hsuffix hstream
  · subst hstream
    rw [arrivedPayload_append hlength]
    split at h
    · rename_i hsize
      have hnone : (if frameSize header > maximumFramePayloadBytes then []
          else c₁.stream.take (frameSize header)) = [] := by
        split
        · rfl
        · have hzero : frameSize header = 0 := by simpa [*] using hsize
          rw [hzero, List.take_zero]
      rw [hnone]
      cases h
      exact ⟨reportable_literal ErrorCode.failing_invalidArgument (by decide), hprogress⟩
    · rename_i hsize
      simp only [Bool.or_eq_true, decide_eq_true_eq, not_or] at hsize
      obtain ⟨payload, hpayload, hcapture⟩ := readPayload_spec (frameSize header) hprogress
      have hrest := hpayload.stream_eq
      rcases hpayload.cases with ⟨c₂, hc₂, -⟩ | ⟨status₂, c₂, hc₂, hend₂⟩ | ⟨c₂, hc₂, -⟩
      all_goals
        rw [hc₂] at h hrest hcapture
        cases h
      obtain ⟨hempty, hshort, rfl⟩ := hend₂ (hs.of_suffix hsuffix)
      rw [if_neg hsize.2, hrest, Outcome.state_returned, hempty, List.append_nil,
        List.take_of_length_le (Nat.le_of_lt hshort)]
      exact ⟨htruncated, hcapture⟩
  · cases h
    obtain ⟨hempty, hshort, rfl⟩ := hend hs
    rw [hempty, List.append_nil] at hstream
    subst hstream
    refine ⟨?_, by rw [arrivedPayload_short hshort]; exact hprogress⟩
    unfold endOfStreamStatus
    split
    · exact reportable_literal ErrorCode.failing_notFound (by decide)
    · exact htruncated
  · cases h

end PhotospiderDaemon.Ipc
