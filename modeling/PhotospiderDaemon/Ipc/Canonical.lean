import PhotospiderDaemon.Foundation.Canonical
import PhotospiderDaemon.Ipc.Diagnostics

/-!
# The canonical form of requests

The bytes of a request are determined by the request, except for the order in which the
parameters of a workflow node were written. `wireRequest request orders` is the wire form in
which the parameters of each node stand in the order that `orders` gives them; the encoder
writes the ascending orders, and the decoder accepts nothing but wire forms.

* `Canonical decoder encoder form`: the decoder only accepts forms, and the encoder writes
  the form of whatever the decoder returned. There is one lemma for each message part
  without freedom.
* `accepts_decodeNode`, `accepts_decodeDocument`: the parts with an order of parameters.
* `decodeRequest_canonical`: the result for payloads.
-/

namespace PhotospiderDaemon.Ipc

open Foundation

/-! ## Wire forms -/

abbrev ParameterEntry := Bytes × ParameterValue

def wireText (value : Bytes) : Bytes := littleEndian 4 value.length ++ value

def wireParameter : ParameterValue → Bytes
  | .integer value => [1] ++ littleEndian 8 value.toUInt64.toNat
  | .floating value => [2] ++ littleEndian 8 value.bits.toNat
  | .boolean value => [3] ++ [if value then 1 else 0]
  | .text value => [4] ++ wireText value

def wireParameterEntry (entry : ParameterEntry) : Bytes :=
  wireText entry.1 ++ wireParameter entry.2

/-- The form of an edge. The other alternative is never written. -/
def wireInput : WorkflowInput → Bytes
  | .nodeOutput source => littleEndian 8 source.sourceNode.toNat ++ wireText source.sourcePort
  | .inputReference _ => []

/-- The form of a node with its parameters in the given order. -/
def wireNode (node : WorkflowNode) (entries : List ParameterEntry) : Bytes :=
  littleEndian 8 node.id.toNat ++ (wireText node.operation ++
    (littleEndian 4 node.inputs.length ++ (node.inputs.flatMap wireInput ++
      (littleEndian 4 entries.length ++ entries.flatMap wireParameterEntry))))

def wireOutput (output : WorkflowOutput) : Bytes :=
  wireText output.name ++ (littleEndian 8 output.nodeId.toNat ++ wireText output.port)

/-- The form of a document with one order of parameters for each node. -/
def wireDocument (document : WorkflowDocument) (orders : List (List ParameterEntry)) : Bytes :=
  littleEndian 4 document.schemaVersion.toNat ++ (littleEndian 4 document.nodes.length ++
    ((List.zipWith wireNode document.nodes orders).flatten ++
      (littleEndian 4 document.outputs.length ++ document.outputs.flatMap wireOutput)))

/-- The form of a session or job id. -/
def wireId (instance' value : UInt64) : Bytes :=
  littleEndian 8 instance'.toNat ++ littleEndian 8 value.toNat

def wireSubmit (id : SessionId) (options : JobSubmitOptions) : Bytes :=
  wireId id.instance' id.value ++
    ([if options.allowGpu then 1 else 0] ++ littleEndian 4 options.maximumParallelism.toNat)

/-- The form of the fields selected by the method. -/
def wireRequestBody (request : Request) (orders : List (List ParameterEntry)) : Bytes :=
  match request.method with
  | .sessionCreate => wireDocument request.document orders
  | .sessionClose => wireId request.sessionId.instance' request.sessionId.value
  | .jobSubmit => wireSubmit request.sessionId request.submitOptions
  | .jobStatus | .jobCancel | .jobResult | .jobRelease =>
    wireId request.jobId.instance' request.jobId.value
  | .daemonInfo | .daemonShutdown => []

def wireRequest (request : Request) (orders : List (List ParameterEntry)) : Bytes :=
  littleEndian 2 protocolVersion.toNat ++ (littleEndian 8 request.requestId.toNat ++
    ([request.method.code] ++ wireRequestBody request orders))

/-! ## Orders of parameters -/

/-- Each node's parameters, in some order. -/
def ParameterOrders (nodes : List WorkflowNode) (orders : List (List ParameterEntry)) : Prop :=
  List.Forall₂ (fun node entries => entries.Perm node.parameters.entries) nodes orders

/-- The keys ascend, byte by byte. -/
def Ascending (entries : List ParameterEntry) : Prop := entries.Pairwise fun a b => a.1 < b.1

/-- The same entries for each node, rearranged into ascending order of their keys. -/
def Rearranged (orders orders' : List (List ParameterEntry)) : Prop :=
  List.Forall₂ (fun entries entries' => entries'.Perm entries ∧ Ascending entries') orders orders'

/-- The orders that the encoder writes. -/
def ascendingOrders (nodes : List WorkflowNode) : List (List ParameterEntry) :=
  nodes.map fun node => node.parameters.entries

theorem ParameterOrders.rearranged {nodes : List WorkflowNode} {orders : List (List ParameterEntry)}
    (h : ParameterOrders nodes orders) : Rearranged orders (ascendingOrders nodes) := by
  induction h with
  | nil => exact .nil
  | @cons node entries nodes orders hentries _ ih =>
    exact .cons ⟨hentries.symm, node.parameters.sorted⟩ ih

/-- Entries with ascending keys have no other ascending order. -/
theorem Ascending.eq_of_perm {entries entries' : List ParameterEntry} (h : Ascending entries)
    (h' : Ascending entries') (hperm : entries.Perm entries') : entries = entries' := by
  refine List.Perm.eq_of_pairwise ?_ h h' hperm
  intro a b _ _ hab hba
  exact absurd hab (lt_asymm hba)

theorem Rearranged.eq_of_ascending {orders orders' : List (List ParameterEntry)}
    (h : Rearranged orders orders') (hascending : ∀ entries ∈ orders, Ascending entries) :
    orders' = orders := by
  induction h with
  | nil => rfl
  | @cons entries entries' orders orders' hentries _ ih =>
    have hhead : entries' = entries :=
      hentries.2.eq_of_perm (hascending entries List.mem_cons_self) hentries.1
    rw [hhead, ih fun entries he => hascending entries (List.mem_cons_of_mem _ he)]

theorem length_wireNode (node : WorkflowNode) {entries entries' : List ParameterEntry}
    (h : entries.Perm entries') :
    (wireNode node entries).length = (wireNode node entries').length := by
  have hbytes := (h.flatMap_right wireParameterEntry).length_eq
  simp only [wireNode, List.length_append, length_littleEndian, hbytes]

/-- Rearranging length-framed entries moves no byte across a node. -/
theorem length_wireNodes {nodes : List WorkflowNode} {orders orders' : List (List ParameterEntry)}
    (h : Rearranged orders orders') :
    (List.zipWith wireNode nodes orders').flatten.length =
      (List.zipWith wireNode nodes orders).flatten.length := by
  induction h generalizing nodes with
  | nil => rfl
  | @cons entries entries' orders orders' hentries _ ih =>
    cases nodes with
    | nil => rfl
    | cons node nodes =>
      simp only [List.zipWith_cons_cons, List.flatten_cons, List.length_append,
        length_wireNode node hentries.1, ih]

theorem length_wireRequest {orders orders' : List (List ParameterEntry)}
    (h : Rearranged orders orders') (request : Request) :
    (wireRequest request orders').length = (wireRequest request orders).length := by
  have hbody : (wireRequestBody request orders').length =
      (wireRequestBody request orders).length := by
    obtain ⟨requestId, method, document, sessionId, jobId, submitOptions⟩ := request
    cases method with
    | sessionCreate =>
      show (wireDocument document orders').length = (wireDocument document orders).length
      simp only [wireDocument, List.length_append, length_wireNodes h]
    | _ => rfl
  simp only [wireRequest, List.length_append, hbody]

variable [Kernel]

/-! ## Parts without freedom -/

/-- With room for it, the encoder writes exactly this form. -/
abbrev WirePuts (encoder : Encoder) (form : Bytes) : Prop :=
  Puts maximumFramePayloadBytes encoder form

/-- The decoder accepts only forms, and the encoder writes the form of what was accepted. -/
abbrev Canonical {α : Type} (decoder : Decoder α) (encoder : α → Encoder) (form : α → Bytes) :
    Prop :=
  Accepts decoder fun bs value => bs = form value ∧ WirePuts (encoder value) (form value)

theorem accepts_fenced (kind : DecoderCountKind) (count : UInt64) :
    Accepts (fenced kind count) fun bs _ => bs = [] := by
  refine (Accepts.check _ _).bind ?_
  rintro _ _ rfl
  exact Accepts.observe _

theorem canonical_u8 : Canonical Decoder.u8 Encoder.u8 fun value => [value] :=
  (Accepts.byte _).mono fun _ value hbs => ⟨hbs, Puts.append _ [value]⟩

theorem canonical_u16 :
    Canonical Decoder.u16 Encoder.u16 fun value => littleEndian 2 value.toNat := by
  refine (Accepts.little Decoder.truncated 2).bind ?_
  rintro _ number ⟨hlt, rfl⟩
  refine Accepts.pure ⟨?_, Puts.little _ 2 _⟩
  simp only [List.append_nil, UInt16.toNat_ofNat_of_lt' hlt]

theorem canonical_u32 :
    Canonical Decoder.u32 Encoder.u32 fun value => littleEndian 4 value.toNat := by
  refine (Accepts.little Decoder.truncated 4).bind ?_
  rintro _ number ⟨hlt, rfl⟩
  refine Accepts.pure ⟨?_, Puts.little _ 4 _⟩
  simp only [List.append_nil, UInt32.toNat_ofNat_of_lt' hlt]

theorem canonical_u64 :
    Canonical Decoder.u64 Encoder.u64 fun value => littleEndian 8 value.toNat := by
  refine (Accepts.little Decoder.truncated 8).bind ?_
  rintro _ number ⟨hlt, rfl⟩
  refine Accepts.pure ⟨?_, Puts.little _ 8 _⟩
  simp only [List.append_nil, UInt64.toNat_ofNat_of_lt' hlt]

theorem canonical_i64 :
    Canonical Decoder.i64 Encoder.i64 fun value => littleEndian 8 value.toUInt64.toNat := by
  refine canonical_u64.bind ?_
  rintro _ value ⟨rfl, -⟩
  refine Accepts.pure ⟨?_, Puts.little _ 8 _⟩
  simp only [List.append_nil, UInt64.toUInt64_toInt64]

theorem canonical_f64 :
    Canonical Decoder.f64 Encoder.f64 fun value => littleEndian 8 value.bits.toNat := by
  refine canonical_u64.bind ?_
  rintro _ value ⟨rfl, hputs⟩
  exact Accepts.pure ⟨List.append_nil _, hputs⟩

theorem canonical_boolean :
    Canonical Decoder.boolean Encoder.boolean fun value => [if value then 1 else 0] := by
  refine canonical_u8.bind ?_
  rintro _ value ⟨rfl, -⟩
  refine Accepts.throwIf_bind fun hvalue => Accepts.pure ⟨?_, Puts.append _ _⟩
  -- The two bytes that pass the guard are the two that the encoder writes.
  have hcases : value = 0 ∨ value = 1 := by
    have hle : value.toNat ≤ 1 := by
      simpa [UInt8.lt_iff_toNat_lt] using hvalue
    rcases Nat.le_one_iff_eq_zero_or_eq_one.mp hle with hzero | hone
    · exact Or.inl (UInt8.toNat_inj.mp hzero)
    · exact Or.inr (UInt8.toNat_inj.mp hone)
  rcases hcases with rfl | rfl <;> rfl

/-- A count that was read, and the list it counts. -/
theorem puts_count {count : Nat} (h : count < 2 ^ 32) :
    WirePuts (Encoder.u32 (UInt32.ofNat count)) (littleEndian 4 count) := by
  have hputs : WirePuts (Encoder.u32 (UInt32.ofNat count))
      (littleEndian 4 (UInt32.ofNat count).toNat) := Puts.little _ 4 _
  rwa [UInt32.toNat_ofNat_of_lt' h] at hputs

theorem canonical_text (maximum : Nat) :
    Canonical (Decoder.text maximum) (fun value => Encoder.text value maximum) wireText := by
  refine canonical_u32.bind ?_
  rintro _ size ⟨rfl, -⟩
  refine Accepts.throwIf_bind fun hmaximum => (Accepts.take _ _).bind ?_
  rintro value _ ⟨rfl, hsize⟩
  refine Accepts.throwIf_bind fun hutf8 => Accepts.pure ⟨?_, ?_⟩
  · rw [wireText, List.append_nil, hsize]
  · have hlt : value.length < 2 ^ 32 := hsize ▸ size.toNat_lt
    simp only [decide_eq_false_iff_not, Nat.not_lt] at hmaximum
    refine Puts.throwIf_bind ?_ ((puts_count hlt).bind (Puts.append _ value))
    simp only [Bool.or_eq_false_iff, decide_eq_false_iff_not, hutf8, and_true]
    omega

theorem canonical_parameter : Canonical decodeParameter encodeParameter wireParameter := by
  refine canonical_u8.bind ?_
  rintro _ tag ⟨rfl, htag⟩
  split
  · subst tag
    refine canonical_i64.bind ?_
    rintro _ value ⟨rfl, hputs⟩
    exact Accepts.pure ⟨by rw [List.append_nil]; rfl, htag.bind hputs⟩
  split
  · subst tag
    refine canonical_f64.bind ?_
    rintro _ value ⟨rfl, hputs⟩
    exact Accepts.pure ⟨by rw [List.append_nil]; rfl, htag.bind hputs⟩
  split
  · subst tag
    refine canonical_boolean.bind ?_
    rintro _ value ⟨rfl, hputs⟩
    exact Accepts.pure ⟨by rw [List.append_nil]; rfl, htag.bind hputs⟩
  split
  · subst tag
    refine (canonical_text 8192).bind ?_
    rintro _ value ⟨rfl, hputs⟩
    exact Accepts.pure ⟨by rw [List.append_nil]; rfl, htag.bind hputs⟩
  · exact Accepts.throw

theorem canonical_input : Canonical decodeInput encodeInput wireInput := by
  refine canonical_u64.bind ?_
  rintro _ sourceNode ⟨rfl, hnode⟩
  refine (canonical_text 64).bind ?_
  rintro _ sourcePort ⟨rfl, hport⟩
  exact Accepts.pure ⟨by rw [List.append_nil]; rfl, hnode.bind hport⟩

theorem canonical_output : Canonical decodeOutput encodeOutput wireOutput := by
  refine (canonical_text 1024).bind ?_
  rintro _ name ⟨rfl, hname⟩
  refine canonical_u64.bind ?_
  rintro _ nodeId ⟨rfl, hnodeId⟩
  refine (canonical_text 64).bind ?_
  rintro _ port ⟨rfl, hport⟩
  exact Accepts.pure ⟨by rw [List.append_nil]; rfl, hname.bind (hnodeId.bind hport)⟩

omit [Kernel] in
/-- The chunks of a list of forms. -/
theorem flatten_eq_flatMap {α : Type} {encoder : α → Encoder} {form : α → Bytes}
    {chunks : List Bytes} {values : List α}
    (h : List.Forall₂ (fun bs value => bs = form value ∧ WirePuts (encoder value) (form value))
      chunks values) :
    chunks.flatten = values.flatMap form ∧
      ∀ value ∈ values, WirePuts (encoder value) (form value) := by
  induction h with
  | nil => exact ⟨rfl, by simp⟩
  | cons hhead _ ih =>
    refine ⟨?_, List.forall_mem_cons.mpr ⟨hhead.2, ih.2⟩⟩
    rw [List.flatten_cons, List.flatMap_cons, hhead.1, ih.1]

omit [Kernel] in
theorem Canonical.many {α : Type} {decoder : Decoder α} {encoder : α → Encoder}
    {form : α → Bytes} (h : Canonical decoder encoder form) (count : Nat) :
    Accepts (Reader.many decoder count) fun bs values =>
      values.length = count ∧ bs = values.flatMap form ∧
        WirePuts (forM values encoder) (values.flatMap form) := by
  refine (Accepts.many h count).mono ?_
  rintro _ values ⟨hlength, chunks, rfl, hchunks⟩
  obtain ⟨hflatten, hputs⟩ := flatten_eq_flatMap hchunks
  exact ⟨hlength, hflatten, Puts.forM hputs⟩

/-! ## Parameters in any order -/

/-- One turn of the parameter loop reads the form of the entry that it inserts. -/
theorem accepts_decodeParameterEntry (parameters : OrderedMap Bytes ParameterValue) :
    Accepts (decodeParameterEntry parameters) fun bs parameters' =>
      ∃ entry : ParameterEntry,
        (bs = wireParameterEntry entry ∧
          WirePuts (do Encoder.text entry.1 1024; encodeParameter entry.2)
            (wireParameterEntry entry)) ∧
        parameters.emplace entry.1 entry.2 = (parameters', true) := by
  refine (canonical_text 1024).bind ?_
  rintro _ key ⟨rfl, hkey⟩
  refine canonical_parameter.bind ?_
  rintro _ value ⟨rfl, hvalue⟩
  refine Accepts.throwIf_bind fun hnew => Accepts.pure ⟨(key, value), ⟨?_, hkey.bind hvalue⟩, ?_⟩
  · rw [List.append_nil, wireParameterEntry]
  · exact Prod.ext rfl (by simpa using hnew)

theorem accepts_parameters (count : Nat) :
    Accepts (Reader.iterate decodeParameterEntry count OrderedMap.empty) fun bs parameters =>
      ∃ entries : List ParameterEntry, entries.Perm parameters.entries ∧ entries.length = count ∧
        bs = entries.flatMap wireParameterEntry ∧
        WirePuts (forM parameters.entries fun parameter => do
            Encoder.text parameter.1 1024
            encodeParameter parameter.2)
          (parameters.entries.flatMap wireParameterEntry) := by
  refine (Accepts.iterate_emplace accepts_decodeParameterEntry count).mono ?_
  rintro _ parameters ⟨chunks, entries, rfl, hchunks, hlength, hperm⟩
  obtain ⟨hflatten, hputs⟩ := flatten_eq_flatMap hchunks
  refine ⟨entries, hperm, hlength, hflatten, Puts.forM fun entry hentry => ?_⟩
  exact hputs entry (hperm.mem_iff.mpr hentry)

theorem accepts_decodeNode :
    Accepts (decodeNode fenced) fun bs node =>
      ∃ entries : List ParameterEntry, entries.Perm node.parameters.entries ∧
        bs = wireNode node entries ∧
        WirePuts (encodeNode node) (wireNode node node.parameters.entries) := by
  refine canonical_u64.bind ?_
  rintro _ id ⟨rfl, hid⟩
  refine (canonical_text 1024).bind ?_
  rintro _ operation ⟨rfl, hoperation⟩
  refine canonical_u32.bind ?_
  rintro _ inputCount ⟨rfl, -⟩
  refine Accepts.throwIf_bind fun hinputCount => (accepts_fenced _ _).bind ?_
  rintro _ _ rfl
  refine (canonical_input.many _).bind ?_
  rintro _ inputs ⟨hinputs, rfl, hputInputs⟩
  refine canonical_u32.bind ?_
  rintro _ parameterCount ⟨rfl, -⟩
  refine Accepts.throwIf_bind fun hparameterCount => (accepts_fenced _ _).bind ?_
  rintro _ _ rfl
  refine (accepts_parameters _).bind ?_
  rintro _ parameters ⟨entries, hperm, hentries, rfl, hputParameters⟩
  refine Accepts.pure ⟨entries, hperm, ?_, ?_⟩
  · simp only [wireNode, List.nil_append, List.append_nil, hinputs, hentries]
  · have hinputBound : inputs.length ≤ 1024 := by
      rw [hinputs]
      simpa [UInt32.lt_iff_toNat_lt] using hinputCount
    have hsize : parameters.size = parameterCount.toNat := hperm.length_eq.symm.trans hentries
    have hparameterBound : parameters.size ≤ 1024 := by
      rw [hsize]
      simpa [UInt32.lt_iff_toNat_lt] using hparameterCount
    refine Puts.throwIf_bind ?_ (hid.bind (hoperation.bind ((puts_count ?_).bind
      (hputInputs.bind ((puts_count ?_).bind hputParameters)))))
    · simp only [Bool.or_eq_false_iff, decide_eq_false_iff_not]
      omega
    · show inputs.length < 2 ^ 32
      omega
    · show parameters.size < 2 ^ 32
      omega

/-- The nodes of a document, each with the order of its parameters. -/
theorem flatten_eq_wireNodes {chunks : List Bytes} {nodes : List WorkflowNode}
    (h : List.Forall₂ (fun bs node => ∃ entries : List ParameterEntry,
        entries.Perm node.parameters.entries ∧ bs = wireNode node entries ∧
        WirePuts (encodeNode node) (wireNode node node.parameters.entries)) chunks nodes) :
    ∃ orders, ParameterOrders nodes orders ∧
      chunks.flatten = (List.zipWith wireNode nodes orders).flatten ∧
      WirePuts (forM nodes encodeNode)
        (List.zipWith wireNode nodes (ascendingOrders nodes)).flatten := by
  induction h with
  | nil => exact ⟨[], .nil, rfl, Puts.pure⟩
  | @cons bs node chunks nodes hhead _ ih =>
    obtain ⟨entries, hperm, rfl, hputs⟩ := hhead
    obtain ⟨orders, horders, hflatten, hputRest⟩ := ih
    refine ⟨entries :: orders, .cons hperm horders, ?_, ?_⟩
    · rw [List.flatten_cons, hflatten, List.zipWith_cons_cons, List.flatten_cons]
    · rw [List.forM_cons]
      exact hputs.bind hputRest

theorem accepts_decodeDocument :
    Accepts (decodeDocument fenced) fun bs document =>
      ∃ orders, ParameterOrders document.nodes orders ∧ bs = wireDocument document orders ∧
        WirePuts (encodeDocument document)
          (wireDocument document (ascendingOrders document.nodes)) := by
  refine canonical_u32.bind ?_
  rintro _ schemaVersion ⟨rfl, hschemaVersion⟩
  refine canonical_u32.bind ?_
  rintro _ nodeCount ⟨rfl, -⟩
  refine Accepts.throwIf_bind fun hnodeCount => (accepts_fenced _ _).bind ?_
  rintro _ _ rfl
  refine (accepts_decodeNode.many _).bind ?_
  rintro _ nodes ⟨hnodes, chunks, rfl, hchunks⟩
  obtain ⟨orders, horders, hflatten, hputNodes⟩ := flatten_eq_wireNodes hchunks
  refine canonical_u32.bind ?_
  rintro _ outputCount ⟨rfl, -⟩
  refine Accepts.throwIf_bind fun houtputCount => (accepts_fenced _ _).bind ?_
  rintro _ _ rfl
  refine (canonical_output.many _).bind ?_
  rintro _ outputs ⟨houtputs, rfl, hputOutputs⟩
  refine Accepts.pure ⟨orders, horders, ?_, ?_⟩
  · simp only [wireDocument, List.nil_append, List.append_nil, hnodes, houtputs, hflatten]
  · have hnodeBound : nodes.length ≤ 65536 := by
      rw [hnodes]
      simpa [UInt32.lt_iff_toNat_lt] using hnodeCount
    have houtputBound : outputs.length ≤ 4096 := by
      rw [houtputs]
      simpa [UInt32.lt_iff_toNat_lt] using houtputCount
    refine Puts.throwIf_bind ?_ (Puts.throwIf_bind rfl (hschemaVersion.bind
      ((puts_count ?_).bind (hputNodes.bind ((puts_count ?_).bind hputOutputs)))))
    · simp only [Bool.or_eq_false_iff, decide_eq_false_iff_not]
      omega
    · show nodes.length < 2 ^ 32
      omega
    · show outputs.length < 2 ^ 32
      omega

/-! ## Requests -/

theorem canonical_sessionId :
    Canonical decodeSessionId encodeSessionId fun id => wireId id.instance' id.value := by
  refine canonical_u64.bind ?_
  rintro _ instance' ⟨rfl, hinstance⟩
  refine canonical_u64.bind ?_
  rintro _ value ⟨rfl, hvalue⟩
  refine Accepts.throwIf_bind fun hid => Accepts.pure ⟨?_, ?_⟩
  · rw [List.append_nil]
    rfl
  · exact Puts.throwIf_bind hid (hinstance.bind hvalue)

theorem canonical_jobId :
    Canonical decodeJobId encodeJobId fun id => wireId id.instance' id.value := by
  refine canonical_u64.bind ?_
  rintro _ instance' ⟨rfl, hinstance⟩
  refine canonical_u64.bind ?_
  rintro _ value ⟨rfl, hvalue⟩
  refine Accepts.throwIf_bind fun hid => Accepts.pure ⟨?_, ?_⟩
  · rw [List.append_nil]
    rfl
  · exact Puts.throwIf_bind hid (hinstance.bind hvalue)

theorem canonical_submit :
    Canonical decodeSubmit (fun submit => encodeSubmit submit.1 submit.2)
      fun submit => wireSubmit submit.1 submit.2 := by
  refine canonical_u64.bind ?_
  rintro _ instance' ⟨rfl, hinstance⟩
  refine canonical_u64.bind ?_
  rintro _ value ⟨rfl, hvalue⟩
  refine canonical_boolean.bind ?_
  rintro _ allowGpu ⟨rfl, hallowGpu⟩
  refine canonical_u32.bind ?_
  rintro _ maximumParallelism ⟨rfl, hparallelism⟩
  refine Accepts.throwIf_bind fun hid => Accepts.pure ⟨?_, ?_⟩
  · simp only [wireSubmit, wireId, List.append_assoc, List.append_nil]
  · simp only [wireSubmit, wireId, List.append_assoc]
    exact Puts.throwIf_bind hid
      (hinstance.bind (hvalue.bind (hallowGpu.bind hparallelism)))

/-- What the decoder of requests accepted: a wire form of a request whose other fields are as
constructed, and whose ascending form the encoder writes. -/
def WireForm (bs : Bytes) (request : Request) : Prop :=
  request.selected = request ∧ ∃ orders, ParameterOrders request.document.nodes orders ∧
    bs = wireRequest request orders ∧
    WirePuts (requestEncoder request)
      (wireRequest request (ascendingOrders request.document.nodes))

theorem accepts_decodeRequestBody (requestId : UInt64) (method : Method) :
    Accepts (decodeRequestBody fenced { (default : Request) with requestId, method })
      fun bs request => request.selected = request ∧ request.requestId = requestId ∧
        request.method = method ∧ ∃ orders, ParameterOrders request.document.nodes orders ∧
          bs = wireRequestBody request orders ∧
          WirePuts (encodeRequestBody request)
            (wireRequestBody request (ascendingOrders request.document.nodes)) := by
  cases method with
  | sessionCreate =>
    refine accepts_decodeDocument.bind ?_
    rintro _ document ⟨orders, horders, rfl, hputs⟩
    exact Accepts.pure ⟨rfl, rfl, rfl, orders, horders, List.append_nil _, hputs⟩
  | sessionClose =>
    refine canonical_sessionId.bind ?_
    rintro _ id ⟨rfl, hputs⟩
    exact Accepts.pure ⟨rfl, rfl, rfl, [], .nil, List.append_nil _, hputs⟩
  | jobSubmit =>
    refine canonical_submit.bind ?_
    rintro _ ⟨id, options⟩ ⟨rfl, hputs⟩
    exact Accepts.pure ⟨rfl, rfl, rfl, [], .nil, List.append_nil _, hputs⟩
  | jobStatus | jobCancel | jobResult | jobRelease =>
    refine canonical_jobId.bind ?_
    rintro _ id ⟨rfl, hputs⟩
    exact Accepts.pure ⟨rfl, rfl, rfl, [], .nil, List.append_nil _, hputs⟩
  | daemonInfo | daemonShutdown =>
    exact Accepts.pure ⟨rfl, rfl, rfl, [], .nil, rfl, Puts.pure⟩

theorem accepts_decodeMethod (raw : UInt8) :
    Accepts (decodeMethod raw) fun bs method => bs = [] ∧ method.code = raw := by
  unfold decodeMethod
  split
  · rename_i method hmethod
    exact Accepts.pure ⟨rfl, Method.code_of_ofCode? hmethod⟩
  · exact Accepts.throw

theorem accepts_requestFields : Accepts (requestFields fenced) WireForm := by
  refine canonical_u16.bind ?_
  rintro _ version ⟨rfl, hversion⟩
  refine Accepts.throwIf_bind fun hthree => canonical_u64.bind ?_
  obtain rfl : version = protocolVersion := by simpa using hthree
  rintro _ requestId ⟨rfl, hrequestId⟩
  refine Accepts.throwIf_bind fun hnonzero => canonical_u8.bind ?_
  rintro _ raw ⟨rfl, hraw⟩
  refine (accepts_decodeMethod raw).bind ?_
  rintro _ method ⟨rfl, rfl⟩
  refine (accepts_decodeRequestBody requestId method).mono ?_
  rintro _ request ⟨hselected, rfl, rfl, orders, horders, rfl, hbody⟩
  have hmethod : validMethod request.method.code = true := by
    cases request.method <;> decide
  refine ⟨hselected, orders, horders, rfl, Puts.throwIf_bind ?_ ?_⟩
  · rw [hnonzero, hmethod]
    rfl
  · exact hversion.bind (hrequestId.bind (hraw.bind hbody))

/-- Nothing is left behind the fields of an accepted payload. -/
theorem accepted_whole {α : Type} {fields : Decoder α} {R : Bytes → α → Prop}
    (h : Accepts fields R) {payload : Bytes} {value : α} {state : ReaderState CountObservation}
    (hrun : fields.whole ⟨payload, []⟩ = .ok value state) : R payload value := by
  obtain ⟨value', state', hfields, hrest⟩ := Reader.bind_eq_ok hrun
  obtain ⟨bs, hunread, hbs⟩ := h _ _ _ hfields
  obtain ⟨_, state'', hend, hpure⟩ := Reader.bind_eq_ok hrest
  cases hpure
  obtain ⟨remaining, _, hremaining, hthrow⟩ := Reader.bind_eq_ok hend
  cases hremaining
  obtain ⟨hempty, -⟩ := Reader.throwIf_eq_ok hthrow
  have hnil : state'.unread = [] := by simpa using hempty
  have hpayload : payload = bs := by rw [← List.append_nil bs, ← hnil, ← hunread]
  rw [hpayload]
  exact hbs

theorem wireForm_of_decodeRequest {payload : Bytes} {request : Request}
    (h : decodeRequest payload = .ok request) :
    payload.length ≤ maximumFramePayloadBytes ∧ WireForm payload request := by
  obtain ⟨hlength, state, hrun⟩ := start_eq_ok.mp h
  exact ⟨hlength, accepted_whole accepts_requestFields hrun⟩

/-- A form that fits into a frame is what the encoder returns. -/
theorem finish_of_puts {encoder : Encoder} {form : Bytes} (h : WirePuts encoder form)
    (hroom : form.length ≤ maximumFramePayloadBytes) : encoder.finish = .ok form := by
  rw [finish_eq_ok]
  exact h [] (by simpa using hroom)

omit [Kernel] in
/-- A request that selects no document has no order of parameters. -/
theorem orders_eq_nil {request : Request} (hselected : request.selected = request)
    (hmethod : request.method ≠ .sessionCreate) {orders : List (List ParameterEntry)}
    (h : ParameterOrders request.document.nodes orders) : orders = [] := by
  have hnodes : request.document.nodes = [] := by
    rw [← hselected]
    obtain ⟨requestId, method, document, sessionId, jobId, submitOptions⟩ := request
    cases method <;> first | rfl | exact absurd rfl hmethod
  rw [ParameterOrders, hnodes] at h
  exact List.forall₂_nil_left_iff.mp h

/-- The wire form of requests is canonical up to the order of parameters. An accepted payload is
a wire form of its request. Encoding the request gives the form in which the parameters of each
node are rearranged into ascending order of their keys; it has the same length and decodes to
the same request, and it is the payload itself unless a document was sent with other orders. Two
payloads of one request differ in the orders alone. Everything else is refused as
`InvalidArgument`. -/
theorem decodeRequest_canonical :
    (∀ payload request, decodeRequest payload = .ok request →
      ∃ payload' orders orders',
        encodeRequest request = .ok payload' ∧ payload'.length = payload.length ∧
        decodeRequest payload' = .ok request ∧
        ParameterOrders request.document.nodes orders ∧ Rearranged orders orders' ∧
        payload = wireRequest request orders ∧ payload' = wireRequest request orders' ∧
        (request.method ≠ .sessionCreate → payload' = payload) ∧
        ((∀ entries ∈ orders, Ascending entries) → payload' = payload)) ∧
    (∀ payload₁ payload₂ request, decodeRequest payload₁ = .ok request →
      decodeRequest payload₂ = .ok request →
      ∃ orders₁ orders₂, ParameterOrders request.document.nodes orders₁ ∧
        ParameterOrders request.document.nodes orders₂ ∧
        payload₁ = wireRequest request orders₁ ∧ payload₂ = wireRequest request orders₂) ∧
    (∀ payload, (∀ request, decodeRequest payload ≠ .ok request) →
      ∃ status, decodeRequest payload = .error status ∧ status.code = .invalidArgument) := by
  refine ⟨?_, ?_, ?_⟩
  · intro payload request hdecode
    obtain ⟨hlength, hselected, orders, horders, rfl, hputs⟩ := wireForm_of_decodeRequest hdecode
    have hrearranged := horders.rearranged
    have hsame := length_wireRequest hrearranged request
    have hencode : encodeRequest request = .ok _ := finish_of_puts hputs (hsame ▸ hlength)
    have hagain := (decodeRequest_of_encodeRequest hencode).1
    rw [hselected] at hagain
    refine ⟨_, orders, _, hencode, hsame, hagain, horders, hrearranged, rfl, rfl, ?_, ?_⟩
    · intro hmethod
      obtain rfl := orders_eq_nil hselected hmethod horders
      rw [List.forall₂_nil_left_iff.mp hrearranged]
    · intro hascending
      rw [hrearranged.eq_of_ascending hascending]
  · intro payload₁ payload₂ request hdecode₁ hdecode₂
    obtain ⟨-, -, orders₁, horders₁, hpayload₁, -⟩ := wireForm_of_decodeRequest hdecode₁
    obtain ⟨-, -, orders₂, horders₂, hpayload₂, -⟩ := wireForm_of_decodeRequest hdecode₂
    exact ⟨orders₁, orders₂, horders₁, horders₂, hpayload₁, hpayload₂⟩
  · intro payload hrefused
    cases hdecode : decodeRequest payload with
    | ok request => exact absurd hdecode (hrefused request)
    | error status => exact ⟨status, rfl, (decodeRequest_failure hdecode).1⟩

/-- A document of one node, whose parameters `a` and `b` were written in descending order. -/
def descendingPayload : Bytes :=
  [3, 0] ++ [1, 0, 0, 0, 0, 0, 0, 0] ++ [1] ++ [1, 0, 0, 0] ++ [1, 0, 0, 0] ++
    [7, 0, 0, 0, 0, 0, 0, 0] ++ [0, 0, 0, 0] ++ [0, 0, 0, 0] ++ [2, 0, 0, 0] ++
    [1, 0, 0, 0, 98, 3, 1] ++ [1, 0, 0, 0, 97, 3, 0] ++ [0, 0, 0, 0]

def descendingRequest : Request := { (default : Request) with
  requestId := 1, method := .sessionCreate,
  document := ⟨1, [], [⟨7, [], [],
    ⟨[([97], .boolean false), ([98], .boolean true)], by decide⟩⟩], []⟩ }

omit [Kernel] in
theorem decodeRequest_canonical_descending :
    letI := sampleKernel
    decodeRequest descendingPayload = .ok descendingRequest ∧
      ∃ payload', encodeRequest descendingRequest = .ok payload' ∧
        payload'.length = descendingPayload.length ∧
        decodeRequest payload' = .ok descendingRequest := by
  let _ : Kernel := sampleKernel
  have hdecode : decodeRequest descendingPayload = .ok descendingRequest := rfl
  obtain ⟨payload', _, _, hencode, hlength, hagain, -⟩ := decodeRequest_canonical.1 _ _ hdecode
  exact ⟨hdecode, payload', hencode, hlength, hagain⟩

end PhotospiderDaemon.Ipc
