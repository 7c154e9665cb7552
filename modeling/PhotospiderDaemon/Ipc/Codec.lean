import PhotospiderDaemon.Ipc.Wire

/-!
# Messages on the wire

The message functions of `src/lib/ipc/codec.cpp`, encoder and decoder side by side with
their own bounds and diagnostics. The body of a loop of the source is a definition of its
own here. Everything a decoder does up to `require_end` is one reader, so that a payload is
read by that reader followed by `requireEnd`.
-/

namespace PhotospiderDaemon.Ipc

open Foundation

variable [Kernel]

/-! ## Shared validation -/

/-- `valid_method`, on the raw code. -/
def validMethod (raw : UInt8) : Bool :=
  raw ≥ Method.sessionCreate.code && raw ≤ Method.daemonShutdown.code

def invalidSessionId (id : SessionId) : Bool := id.instance' = 0 || id.value = 0

def invalidJobId (id : JobId) : Bool := id.instance' = 0 || id.value = 0

/-- The failure of `validate_job_status`, if it throws. -/
def jobStatusFailure (status : JobStatus) : Option String :=
  if invalidJobId status.jobId then some "wire JobId contains zero"
  else if invalidSessionId status.sessionId then some "wire SessionId contains zero"
  else if status.jobId.instance' ≠ status.sessionId.instance' then
    some "wire JobStatus identity domains differ"
  else
    match status.state with
    | .queued | .running | .succeeded =>
      if !status.outcome.ok then some "wire non-failed Job state carries failure" else none
    | .failed =>
      if status.outcome.ok || status.outcome.code = .cancelled then
        some "wire failed Job carries invalid outcome"
      else none
    | .cancelled =>
      if status.outcome.code ≠ .cancelled then
        some "wire cancelled Job lacks cancellation outcome"
      else none

/-- The condition of `validate_daemon_info`. -/
def inconsistentDaemonInfo (info : DaemonInfo) : Bool :=
  info.protocolVersion ≠ protocolVersion || info.instanceId = 0 || info.serviceVersion.isEmpty ||
    info.transport ≠ ascii "unix-domain" || info.maximumConcurrency = 0 ||
    info.maximumSessions = 0 || info.methods ≠ methodInventory

/-! ## Encoding -/

namespace Encoder

def requireSessionId (id : SessionId) : Encoder :=
  throwIf (invalidSessionId id) .invalidArgument "wire SessionId contains zero"

def requireJobId (id : JobId) : Encoder :=
  throwIf (invalidJobId id) .invalidArgument "wire JobId contains zero"

def validateJobStatus (status : JobStatus) : Encoder :=
  throwIf (jobStatusFailure status).isSome .invalidArgument ((jobStatusFailure status).getD "")

def validateDaemonInfo (info : DaemonInfo) : Encoder :=
  throwIf (inconsistentDaemonInfo info) .invalidArgument "wire daemon.info payload is inconsistent"

end Encoder

open Encoder in
def encodeStatus (status : Status) : Encoder := do
  throwIf (status.code.raw > ErrorCode.internal.raw || (status.ok && !status.message.isEmpty))
    .invalidArgument "wire status is not canonical"
  u8 status.code.raw
  text status.message 4096

open Encoder in
def encodeParameter : ParameterValue → Encoder
  | .integer value => do u8 1; i64 value
  | .floating value => do u8 2; f64 value
  | .boolean value => do u8 3; boolean value
  | .text value => do u8 4; text value 8192

open Encoder in
def encodeInput : WorkflowInput → Encoder
  | .nodeOutput source => do u64 source.sourceNode; text source.sourcePort 64
  | .inputReference _ => fail .invalidArgument "IPC v3 accepts only node-output edges"

open Encoder in
def encodeNode (node : WorkflowNode) : Encoder := do
  throwIf (node.inputs.length > 1024 || node.parameters.size > 1024)
    .invalidArgument "workflow node count exceeds wire bounds"
  u64 node.id
  text node.operation 1024
  u32 (UInt32.ofNat node.inputs.length)
  forM node.inputs encodeInput
  u32 (UInt32.ofNat node.parameters.size)
  forM node.parameters.entries fun parameter => do
    text parameter.1 1024
    encodeParameter parameter.2

open Encoder in
def encodeOutput (output : WorkflowOutput) : Encoder := do
  text output.name 1024
  u64 output.nodeId
  text output.port 64

open Encoder in
def encodeDocument (document : WorkflowDocument) : Encoder := do
  throwIf (document.nodes.length > 65536 || document.outputs.length > 4096)
    .invalidArgument "workflow document count exceeds wire bounds"
  throwIf (!document.inputs.isEmpty)
    .invalidArgument "IPC v3 does not carry workflow input declarations"
  u32 document.schemaVersion
  u32 (UInt32.ofNat document.nodes.length)
  forM document.nodes encodeNode
  u32 (UInt32.ofNat document.outputs.length)
  forM document.outputs encodeOutput

open Encoder in
def encodeFacet (facet : ValueFacet) : Encoder := do
  text facet.key 256
  u32 facet.version
  bytes facet.payload

open Encoder in
def encodeValue (value : Value) : Encoder := do
  throwIf (!Kernel.valid value || value.descriptor.shape.length > 8)
    .invalidArgument "result contains an invalid Value"
  throwIf (value.descriptor.elementType = Kernel.float32 || value.layout.origin.any (· ≠ 0))
    .invalidArgument "Value type or storage origin is not supported by IPC v3"
  u32 value.descriptor.elementType.raw
  u8 (UInt8.ofNat value.descriptor.shape.length)
  forM value.descriptor.shape u64
  forM value.region fun dimension => do
    u64 dimension.offset
    u64 dimension.extent
  u64 value.layout.byteOffset
  forM value.layout.byteStrides i64
  throwIf (value.facets.length > 64) .resourceExhausted "result Value has too many facets"
  u8 (UInt8.ofNat value.facets.length)
  forM value.facets encodeFacet
  bytes value.bytes

/-- Neither backend of the wire format. -/
def unknownBackend (backend : Backend) : Bool := backend ≠ Kernel.cpu && backend ≠ Kernel.gpu

open Encoder in
def encodeBackend (entry : UInt64 × Backend) : Encoder := do
  throwIf (entry.1 = 0 || unknownBackend entry.2)
    .invalidArgument "execution backend diagnostic is invalid"
  u64 entry.1
  u8 entry.2.raw

open Encoder in
def encodeTiming (timing : OperationTiming) : Encoder := do
  throwIf (timing.nodeId = 0 || unknownBackend timing.backend ||
      timing.outcome.raw > ErrorCode.internal.raw)
    .invalidArgument "execution timing diagnostic is invalid"
  u64 timing.nodeId
  u8 timing.backend.raw
  u64 timing.durationUs
  u8 timing.outcome.raw

open Encoder in
def encodeDiagnostics (diagnostics : ExecutionDiagnostics) : Encoder := do
  throwIf (diagnostics.selectedBackends.size > 65536 ||
      diagnostics.operationTimings.length > 131072 ||
      diagnostics.fallbackReasons.length > 65536)
    .resourceExhausted "execution diagnostics exceed wire bounds"
  u64 diagnostics.executeUs
  u32 (UInt32.ofNat diagnostics.selectedBackends.size)
  forM diagnostics.selectedBackends.entries encodeBackend
  u64 diagnostics.transferCount
  u64 diagnostics.transferBytes
  u64 diagnostics.peakLiveBytes
  u32 (UInt32.ofNat diagnostics.fallbackReasons.length)
  forM diagnostics.fallbackReasons fun reason => text reason 4096
  u32 (UInt32.ofNat diagnostics.operationTimings.length)
  forM diagnostics.operationTimings encodeTiming
  text diagnostics.planDigest 128
  text diagnostics.resultDigest 128

open Encoder in
def encodeExecutionResult (result : ExecutionResult) : Encoder := do
  throwIf (result.values.size > 4096) .resourceExhausted
    "execution result has too many named Values"
  u32 (UInt32.ofNat result.values.size)
  forM result.values.entries fun value => do
    text value.1 1024
    encodeValue value.2
  encodeDiagnostics result.diagnostics

open Encoder in
def encodeDaemonInfo (info : DaemonInfo) : Encoder := do
  validateDaemonInfo info
  u16 info.protocolVersion
  u64 info.instanceId
  text info.serviceVersion 128
  text info.transport 64
  throwIf (info.methods.length > 16) .invalidArgument "daemon method inventory is too large"
  u8 (UInt8.ofNat info.methods.length)
  forM info.methods fun method => text method 64
  u64 info.activeSessions
  u64 info.activeJobs
  u32 info.maximumConcurrency
  u32 info.maximumSessions

open Encoder in
def encodeSessionId (id : SessionId) : Encoder := do
  requireSessionId id
  u64 id.instance'
  u64 id.value

open Encoder in
def encodeJobId (id : JobId) : Encoder := do
  requireJobId id
  u64 id.instance'
  u64 id.value

open Encoder in
def encodeSubmit (id : SessionId) (options : JobSubmitOptions) : Encoder := do
  requireSessionId id
  u64 id.instance'
  u64 id.value
  boolean options.allowGpu
  u32 options.maximumParallelism

/-- The method-selected fields of a request. -/
def encodeRequestBody (request : Request) : Encoder :=
  match request.method with
  | .sessionCreate => encodeDocument request.document
  | .sessionClose => encodeSessionId request.sessionId
  | .jobSubmit => encodeSubmit request.sessionId request.submitOptions
  | .jobStatus | .jobCancel | .jobResult | .jobRelease => encodeJobId request.jobId
  | .daemonInfo | .daemonShutdown => pure ()

open Encoder in
def encodeJobStatus (status : JobStatus) : Encoder := do
  validateJobStatus status
  u64 status.jobId.instance'
  u64 status.jobId.value
  u64 status.sessionId.instance'
  u64 status.sessionId.value
  u8 status.state.code
  encodeStatus status.outcome

/-- The method-selected fields of a successful response. -/
def encodeResponseBody (response : Response) : Encoder :=
  match response.method with
  | .sessionCreate => encodeSessionId response.sessionId
  | .jobSubmit => encodeJobId response.jobId
  | .jobStatus => encodeJobStatus response.jobStatus
  | .jobResult => encodeExecutionResult response.executionResult
  | .daemonInfo => encodeDaemonInfo response.daemonInfo
  | .sessionClose | .jobCancel | .jobRelease | .daemonShutdown => pure ()

/-- `what()`, which ends at the first null byte. -/
def what (message : Bytes) : Bytes := message.takeWhile (· ≠ 0)

/-- The status that an exported codec function makes of an exception. -/
def thrownStatus : Thrown → Status
  | .codecFailure code message => Status.failure code (what message)
  | .invalidArgument message => Status.failure .invalidArgument (what message)

/-- Run an encoder from an empty payload. -/
def Encoder.finish (encoder : Encoder) : Except Status Bytes :=
  match encoder.run [] with
  | .ok (_, payload) => .ok payload
  | .error thrown => .error (thrownStatus thrown)

open Encoder in
/-- Everything `encode_request` writes. -/
def requestEncoder (request : Request) : Encoder := do
  throwIf (request.requestId = 0 || !validMethod request.method.code) .invalidArgument
    "wire request id or method is invalid"
  u16 protocolVersion
  u64 request.requestId
  u8 request.method.code
  encodeRequestBody request

open Encoder in
/-- Everything `encode_response` writes. -/
def responseEncoder (response : Response) : Encoder := do
  throwIf (response.requestId = 0 || !validMethod response.method.code) .invalidArgument
    "wire response id or method is invalid"
  u16 protocolVersion
  u64 response.requestId
  u8 response.method.code
  encodeStatus response.status
  if response.status.ok then encodeResponseBody response else pure ()

/-- `encode_request`. -/
def encodeRequest (request : Request) : Except Status Bytes := (requestEncoder request).finish

/-- `encode_response`. -/
def encodeResponse (response : Response) : Except Status Bytes := (responseEncoder response).finish

/-! ## Decoding -/

namespace Decoder

def requireSessionId (id : SessionId) : Decoder Unit :=
  throwIf (invalidSessionId id) "wire SessionId contains zero"

def requireJobId (id : JobId) : Decoder Unit :=
  throwIf (invalidJobId id) "wire JobId contains zero"

def validateJobStatus (status : JobStatus) : Decoder Unit :=
  throwIf (jobStatusFailure status).isSome ((jobStatusFailure status).getD "")

def validateDaemonInfo (info : DaemonInfo) : Decoder Unit :=
  throwIf (inconsistentDaemonInfo info) "wire daemon.info payload is inconsistent"

end Decoder

open Decoder in
def decodeStatus : Decoder Status := do
  let raw ← u8
  throwIf (raw > ErrorCode.internal.raw) "wire status error code is unknown"
  let code : ErrorCode := ⟨raw⟩
  let message ← text 4096
  throwIf (code = ErrorCode.ok && !message.isEmpty) "wire success status contains a diagnostic"
  return if code = ErrorCode.ok then Status.success else Status.failure code message

open Decoder in
def decodeParameter : Decoder ParameterValue := do
  let tag ← u8
  if tag = 1 then return .integer (← i64)
  else if tag = 2 then return .floating (← f64)
  else if tag = 3 then return .boolean (← boolean)
  else if tag = 4 then return .text (← text 8192)
  else fail "wire parameter tag is unknown"

open Decoder in
def decodeInput : Decoder WorkflowInput := do
  let sourceNode ← u64
  let sourcePort ← text 64
  return .nodeOutput ⟨sourceNode, sourcePort⟩

open Decoder in
/-- One turn of the parameter loop. -/
def decodeParameterEntry (parameters : OrderedMap Bytes ParameterValue) :
    Decoder (OrderedMap Bytes ParameterValue) := do
  let key ← text 1024
  let value ← decodeParameter
  throwIf (!(parameters.emplace key value).2) "wire workflow duplicates a parameter key"
  return (parameters.emplace key value).1

open Decoder in
def decodeNode (fence : Fence) : Decoder WorkflowNode := do
  let id ← u64
  let operation ← text 1024
  let inputCount ← u32
  throwIf (inputCount > 1024) "wire workflow has too many inputs"
  fence .workflowInputs inputCount.toUInt64
  let inputs ← Reader.many decodeInput inputCount.toNat
  let parameterCount ← u32
  throwIf (parameterCount > 1024) "wire workflow has too many parameters"
  fence .workflowParameters parameterCount.toUInt64
  let parameters ← Reader.iterate decodeParameterEntry parameterCount.toNat OrderedMap.empty
  return ⟨id, operation, inputs, parameters⟩

open Decoder in
def decodeOutput : Decoder WorkflowOutput := do
  let name ← text 1024
  let nodeId ← u64
  let port ← text 64
  return ⟨name, nodeId, port⟩

open Decoder in
def decodeDocument (fence : Fence) : Decoder WorkflowDocument := do
  let schemaVersion ← u32
  let nodeCount ← u32
  throwIf (nodeCount > 65536) "wire workflow has too many nodes"
  fence .workflowNodes nodeCount.toUInt64
  let nodes ← Reader.many (decodeNode fence) nodeCount.toNat
  let outputCount ← u32
  throwIf (outputCount > 4096) "wire workflow has too many outputs"
  fence .workflowOutputs outputCount.toUInt64
  let outputs ← Reader.many decodeOutput outputCount.toNat
  return ⟨schemaVersion, [], nodes, outputs⟩

open Decoder in
def decodeFacet : Decoder ValueFacet := do
  let key ← text 256
  let version ← u32
  let payload ← bytes (64 * 1024)
  return ⟨key, version, payload⟩

open Decoder in
def decodeDimension : Decoder RegionDimension := do
  let offset ← u64
  let extent ← u64
  return ⟨offset, extent⟩

/-- Publication of the decoded components through the kernel. The byte vector is an argument
of the same call as the `Region`, and C++ leaves their order open; here it was read first. -/
def publishValue (descriptor : ValueDescriptor) (dimensions : List RegionDimension)
    (layout : StridedLayout) (payload : Bytes) (facets : List ValueFacet) : Decoder Value :=
  match Kernel.regionFailure dimensions with
  | some message => throw (Thrown.invalidArgument message)
  | none =>
    match Kernel.create descriptor dimensions layout payload facets with
    | .ok value => pure value
    | .error status => throw (Thrown.codecFailure status.code status.message)

open Decoder in
def decodeValue (fence : Fence) : Decoder Value := do
  let rawType ← u32
  throwIf (rawType < Kernel.uint8.raw || rawType > Kernel.float64.raw)
    "wire Value element type is unknown"
  let rank ← u8
  throwIf (rank = 0 || rank > 8) "wire Value rank is outside 1..8"
  fence .valueAxes (rank.toUInt64)
  let shape ← Reader.many u64 rank.toNat
  let dimensions ← Reader.many decodeDimension rank.toNat
  let offset ← u64
  let strides ← Reader.many i64 rank.toNat
  let facetCount ← u8
  throwIf (facetCount > 64) "wire Value has too many facets"
  fence .valueFacets (facetCount.toUInt64)
  let facets ← Reader.many decodeFacet facetCount.toNat
  let payload ← bytes maximumFramePayloadBytes
  publishValue ⟨⟨rawType⟩, shape⟩ dimensions ⟨offset, strides, []⟩ payload facets

/-- Neither backend code of the wire format. -/
def unknownBackendCode (raw : UInt8) : Bool :=
  raw ≠ (Kernel.cpu).raw && raw ≠ (Kernel.gpu).raw

open Decoder in
/-- One turn of the backend loop. -/
def decodeBackendEntry (backends : OrderedMap UInt64 Backend) :
    Decoder (OrderedMap UInt64 Backend) := do
  let nodeId ← u64
  let rawBackend ← u8
  throwIf (nodeId = 0 || unknownBackendCode rawBackend || !(backends.emplace nodeId ⟨rawBackend⟩).2)
    "wire diagnostics backend map is malformed"
  return (backends.emplace nodeId ⟨rawBackend⟩).1

open Decoder in
def decodeTiming : Decoder OperationTiming := do
  let nodeId ← u64
  let rawBackend ← u8
  throwIf (nodeId = 0 || unknownBackendCode rawBackend) "wire timing backend is unknown"
  let durationUs ← u64
  let rawOutcome ← u8
  throwIf (rawOutcome > ErrorCode.internal.raw) "wire timing outcome is unknown"
  return ⟨nodeId, ⟨rawBackend⟩, durationUs, ⟨rawOutcome⟩⟩

open Decoder in
def decodeDiagnostics (fence : Fence) : Decoder ExecutionDiagnostics := do
  let executeUs ← u64
  let backendCount ← u32
  throwIf (backendCount > 65536) "wire diagnostics have too many backends"
  fence .diagnosticBackends backendCount.toUInt64
  let selectedBackends ← Reader.iterate decodeBackendEntry backendCount.toNat OrderedMap.empty
  let transferCount ← u64
  let transferBytes ← u64
  let peakLiveBytes ← u64
  let reasonCount ← u32
  throwIf (reasonCount > 65536) "wire diagnostics have too many fallback reasons"
  fence .diagnosticFallbackReasons reasonCount.toUInt64
  let fallbackReasons ← Reader.many (text 4096) reasonCount.toNat
  let timingCount ← u32
  throwIf (timingCount > 131072) "wire diagnostics have too many operation timings"
  fence .diagnosticOperationTimings timingCount.toUInt64
  let operationTimings ← Reader.many decodeTiming timingCount.toNat
  let planDigest ← text 128
  let resultDigest ← text 128
  return ⟨executeUs, selectedBackends, transferCount, transferBytes, peakLiveBytes,
    fallbackReasons, operationTimings, planDigest, resultDigest⟩

open Decoder in
/-- One turn of the named-Value loop. -/
def decodeNamedValue (fence : Fence) (values : OrderedMap Bytes Value) :
    Decoder (OrderedMap Bytes Value) := do
  let name ← text 1024
  let value ← decodeValue fence
  throwIf (!(values.emplace name value).2) "wire result duplicates a Value name"
  return (values.emplace name value).1

open Decoder in
def decodeExecutionResult (fence : Fence) : Decoder ExecutionResult := do
  let valueCount ← u32
  throwIf (valueCount > 4096) "wire result has too many named Values"
  fence .resultNamedValues valueCount.toUInt64
  let values ← Reader.iterate (decodeNamedValue fence) valueCount.toNat OrderedMap.empty
  let diagnostics ← decodeDiagnostics fence
  return ⟨values, diagnostics⟩

/-- `decode_method`. The range check leaves exactly the nine codes. -/
def decodeMethod (raw : UInt8) : Decoder Method :=
  match Method.ofCode? raw with
  | some method => pure method
  | none => Decoder.fail "wire method code is unknown"

/-- `decode_job_state`. The range check leaves exactly the five codes. -/
def decodeJobState (raw : UInt8) : Decoder JobState :=
  match JobState.ofCode? raw with
  | some state => pure state
  | none => Decoder.fail "wire job state is unknown"

open Decoder in
def decodeDaemonInfo (fence : Fence) : Decoder DaemonInfo := do
  let version ← u16
  let instanceId ← u64
  let serviceVersion ← text 128
  let transport ← text 64
  let methodCount ← u8
  throwIf (methodCount > 16) "response has too many methods"
  fence .daemonMethods (methodCount.toUInt64)
  let methods ← Reader.many (text 64) methodCount.toNat
  let activeSessions ← u64
  let activeJobs ← u64
  let maximumConcurrency ← u32
  let maximumSessions ← u32
  let info : DaemonInfo := ⟨version, instanceId, serviceVersion, transport, methods,
    activeSessions, activeJobs, maximumConcurrency, maximumSessions⟩
  validateDaemonInfo info
  return info

open Decoder in
def decodeSessionId : Decoder SessionId := do
  let instance' ← u64
  let value ← u64
  requireSessionId ⟨instance', value⟩
  return ⟨instance', value⟩

open Decoder in
def decodeJobId : Decoder JobId := do
  let instance' ← u64
  let value ← u64
  requireJobId ⟨instance', value⟩
  return ⟨instance', value⟩

open Decoder in
def decodeJobStatus : Decoder JobStatus := do
  let jobInstance ← u64
  let jobValue ← u64
  let sessionInstance ← u64
  let sessionValue ← u64
  let rawState ← u8
  let state ← decodeJobState rawState
  let outcome ← decodeStatus
  let status : JobStatus :=
    ⟨⟨jobInstance, jobValue⟩, ⟨sessionInstance, sessionValue⟩, state, outcome⟩
  validateJobStatus status
  return status

open Decoder in
/-- Session id and submit controls. The identity is checked after the controls are read. -/
def decodeSubmit : Decoder (SessionId × JobSubmitOptions) := do
  let instance' ← u64
  let value ← u64
  let allowGpu ← boolean
  let maximumParallelism ← u32
  requireSessionId ⟨instance', value⟩
  return (⟨instance', value⟩, ⟨allowGpu, maximumParallelism⟩)

/-- The method-selected fields of a request. -/
def decodeRequestBody (fence : Fence) (request : Request) : Decoder Request :=
  match request.method with
  | .sessionCreate => return { request with document := ← decodeDocument fence }
  | .sessionClose => return { request with sessionId := ← decodeSessionId }
  | .jobSubmit => do
    let (sessionId, submitOptions) ← decodeSubmit
    return { request with sessionId, submitOptions }
  | .jobStatus | .jobCancel | .jobResult | .jobRelease =>
    return { request with jobId := ← decodeJobId }
  | .daemonInfo | .daemonShutdown => return request

/-- The method-selected fields of a successful response. -/
def decodeResponseBody (fence : Fence) (response : Response) : Decoder Response :=
  match response.method with
  | .sessionCreate => return { response with sessionId := ← decodeSessionId }
  | .jobSubmit => return { response with jobId := ← decodeJobId }
  | .jobStatus => return { response with jobStatus := ← decodeJobStatus }
  | .jobResult => return { response with executionResult := ← decodeExecutionResult fence }
  | .daemonInfo => return { response with daemonInfo := ← decodeDaemonInfo fence }
  | .sessionClose | .jobCancel | .jobRelease | .daemonShutdown => return response

open Decoder in
/-- Everything `decode_request` reads. -/
def requestFields (fence : Fence) : Decoder Request := do
  let version ← u16
  throwIf (version ≠ protocolVersion) "wire protocol version is not three"
  let requestId ← u64
  throwIf (requestId = 0) "wire request id must be nonzero"
  let method ← decodeMethod (← u8)
  decodeRequestBody fence { (default : Request) with requestId, method }

open Decoder in
/-- Everything `decode_response` reads, after the check of the expected correlation. -/
def responseFields (fence : Fence) (expectedMethod : Method) (expectedRequestId : UInt64) :
    Decoder Response := do
  let version ← u16
  throwIf (version ≠ protocolVersion) "response protocol version is not three"
  let requestId ← u64
  let method ← decodeMethod (← u8)
  throwIf (requestId ≠ expectedRequestId || method ≠ expectedMethod)
    "response correlation does not match request"
  let status ← decodeStatus
  let response : Response := { (default : Response) with requestId, method, status }
  if status.ok then decodeResponseBody fence response else return response

/-- Read the fields, then nothing may be left. -/
def Decoder.whole {α : Type} (fields : Decoder α) : Decoder α := do
  let value ← fields
  Decoder.requireEnd
  return value

/-- The constructor of `Decoder`, then one decoding. The second component is what the
observation seam saw. -/
def Decoder.start {α : Type} (decoder : Decoder α) (payload : Bytes) :
    Except Status α × List CountObservation :=
  if payload.length > maximumFramePayloadBytes then
    (.error (Status.failure .invalidArgument (ascii "wire payload exceeds maximum frame size")), [])
  else
    match decoder ⟨payload, []⟩ with
    | .ok value state => (.ok value, state.observed)
    | .error thrown state => (.error (thrownStatus thrown), state.observed)

/-- `decode_request` over a fence, with the observations. -/
def decodeRequestWith (fence : Fence) (payload : Bytes) :
    Except Status Request × List CountObservation :=
  (requestFields fence).whole.start payload

/-- `decode_response` over a fence, with the observations. -/
def decodeResponseWith (fence : Fence) (payload : Bytes) (expectedMethod : Method)
    (expectedRequestId : UInt64) : Except Status Response × List CountObservation :=
  if expectedRequestId = 0 || !validMethod expectedMethod.code then
    (.error (Status.failure .invalidArgument (ascii "expected response correlation is invalid")),
      [])
  else
    (responseFields fence expectedMethod expectedRequestId).whole.start payload

/-- `decode_request`. -/
def decodeRequest (payload : Bytes) : Except Status Request := (decodeRequestWith fenced payload).1

/-- `decode_response`. -/
def decodeResponse (payload : Bytes) (expectedMethod : Method) (expectedRequestId : UInt64) :
    Except Status Response :=
  (decodeResponseWith fenced payload expectedMethod expectedRequestId).1

end PhotospiderDaemon.Ipc
