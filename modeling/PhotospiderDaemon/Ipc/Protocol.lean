import PhotospiderDaemon.Foundation.OrderedMap

/-!
# Public data of the local protocol

The data types of `include/photospider/ipc/protocol.hpp` and `src/lib/ipc/codec.hpp`,
together with the kernel types they carry (`photospider/core/status.hpp`, the workflow
document and the execution result), as far as the daemon reads them. Texts are byte lists,
because a `std::string` may hold any bytes and the codec checks UTF-8 itself. A binary64
value is its bit pattern.

The kernel is a separate product. Its enumerations are known here only by name, so the
underlying values are fields of the class `Kernel`, together with `Value::valid`,
`Value::create` and the `Region` constructor. The only facts recorded about the numbers
are that named codes differ and that `Internal` is the last `ErrorCode`.
-/

namespace PhotospiderDaemon.Ipc

open Foundation

abbrev Bytes := List UInt8

/-- The bytes of an ASCII literal. -/
def ascii (literal : String) : Bytes := literal.toList.map fun c => UInt8.ofNat c.toNat

/-! ## Kernel types -/

/-- A kernel `ErrorCode`, by its underlying value. -/
structure ErrorCode where
  raw : UInt8
deriving DecidableEq, Repr

/-- A kernel `ElementType`, by its underlying value. -/
structure ElementType where
  raw : UInt32
deriving DecidableEq, Repr

/-- A kernel `Backend`, by its underlying value. -/
@[ext] structure Backend where
  raw : UInt8
deriving DecidableEq, Repr

structure Status where
  code : ErrorCode
  message : Bytes
deriving DecidableEq, Repr

/-- A binary64 number, by its bits. -/
structure Binary64 where
  bits : UInt64
deriving DecidableEq, Repr

inductive ParameterValue where
  | integer (value : Int64)
  | floating (value : Binary64)
  | boolean (value : Bool)
  | text (value : Bytes)
deriving DecidableEq

structure WorkflowNodeOutput where
  sourceNode : UInt64
  sourcePort : Bytes
deriving DecidableEq

/-- One edge of a node. The second alternative refers to a workflow input declaration. -/
inductive WorkflowInput where
  | nodeOutput (source : WorkflowNodeOutput)
  | inputReference (id : UInt64)
deriving DecidableEq

structure WorkflowNode where
  id : UInt64
  operation : Bytes
  inputs : List WorkflowInput
  parameters : OrderedMap Bytes ParameterValue
deriving DecidableEq

structure WorkflowOutput where
  name : Bytes
  nodeId : UInt64
  port : Bytes
deriving DecidableEq

/-- A declared workflow input. The daemon only asks whether there are any. -/
structure WorkflowInputDeclaration where
  id : UInt64
  name : Bytes
deriving DecidableEq

structure WorkflowDocument where
  schemaVersion : UInt32
  inputs : List WorkflowInputDeclaration
  nodes : List WorkflowNode
  outputs : List WorkflowOutput
deriving DecidableEq

structure ValueDescriptor where
  elementType : ElementType
  shape : List UInt64
deriving DecidableEq

structure RegionDimension where
  offset : UInt64
  extent : UInt64
deriving DecidableEq

structure StridedLayout where
  byteOffset : UInt64
  byteStrides : List Int64
  origin : List UInt64
deriving DecidableEq

structure ValueFacet where
  key : Bytes
  version : UInt32
  payload : Bytes
deriving DecidableEq

structure Value where
  descriptor : ValueDescriptor
  region : List RegionDimension
  layout : StridedLayout
  bytes : Bytes
  facets : List ValueFacet
deriving DecidableEq

structure OperationTiming where
  nodeId : UInt64
  backend : Backend
  durationUs : UInt64
  outcome : ErrorCode
deriving DecidableEq

structure ExecutionDiagnostics where
  executeUs : UInt64
  selectedBackends : OrderedMap UInt64 Backend
  transferCount : UInt64
  transferBytes : UInt64
  peakLiveBytes : UInt64
  fallbackReasons : List Bytes
  operationTimings : List OperationTiming
  planDigest : Bytes
  resultDigest : Bytes
deriving DecidableEq

structure ExecutionResult where
  values : OrderedMap Bytes Value
  diagnostics : ExecutionDiagnostics
deriving DecidableEq

/-- The parts of the kernel that the daemon relies on and that are not in this
repository. -/
class Kernel where
  ok : ErrorCode
  invalidArgument : ErrorCode
  notFound : ErrorCode
  resourceExhausted : ErrorCode
  cancelled : ErrorCode
  internal : ErrorCode
  codes_nodup : [ok, invalidArgument, notFound, resourceExhausted, cancelled, internal].Nodup
  codes_le : ∀ code ∈ [ok, invalidArgument, notFound, resourceExhausted, cancelled, internal],
    code.raw ≤ internal.raw
  uint8 : ElementType
  float64 : ElementType
  float32 : ElementType
  cpu : Backend
  gpu : Backend
  /-- `Value::valid`. -/
  valid : Value → Bool
  /-- The diagnostic of the exception that `Region(dimensions)` throws, if it throws. -/
  regionFailure : List RegionDimension → Option Bytes
  /-- `Value::create`. -/
  create : ValueDescriptor → List RegionDimension → StridedLayout → Bytes → List ValueFacet →
    Except Status Value

/-- The element type is one of the first nine and all parts have one rank. -/
def Value.consistent (value : Value) : Bool :=
  value.descriptor.elementType.raw ≤ 8 &&
    value.region.length = value.descriptor.shape.length &&
    value.layout.byteStrides.length = value.descriptor.shape.length

/-- A kernel in which every consistent Value is valid. It shows that what is asked of a
kernel can be met. -/
@[reducible] def sampleKernel : Kernel where
  ok := ⟨0⟩
  invalidArgument := ⟨1⟩
  notFound := ⟨2⟩
  resourceExhausted := ⟨3⟩
  cancelled := ⟨4⟩
  internal := ⟨5⟩
  codes_nodup := by decide
  codes_le := by decide
  uint8 := ⟨0⟩
  float64 := ⟨8⟩
  float32 := ⟨9⟩
  cpu := ⟨0⟩
  gpu := ⟨1⟩
  valid := Value.consistent
  regionFailure _ := none
  create descriptor region layout bytes facets := .ok ⟨descriptor, region, layout, bytes, facets⟩

section Status

variable [Kernel]

def ErrorCode.ok : ErrorCode := Kernel.ok
def ErrorCode.invalidArgument : ErrorCode := Kernel.invalidArgument
def ErrorCode.notFound : ErrorCode := Kernel.notFound
def ErrorCode.resourceExhausted : ErrorCode := Kernel.resourceExhausted
def ErrorCode.cancelled : ErrorCode := Kernel.cancelled
def ErrorCode.internal : ErrorCode := Kernel.internal

namespace ErrorCode

/-- The named codes differ. -/
theorem distinct :
    (ok ≠ invalidArgument ∧ ok ≠ notFound ∧ ok ≠ resourceExhausted ∧ ok ≠ cancelled ∧
      ok ≠ internal) ∧
    (invalidArgument ≠ notFound ∧ invalidArgument ≠ resourceExhausted ∧
      invalidArgument ≠ cancelled ∧ invalidArgument ≠ internal) ∧
    (notFound ≠ resourceExhausted ∧ notFound ≠ cancelled ∧ notFound ≠ internal) ∧
    (resourceExhausted ≠ cancelled ∧ resourceExhausted ≠ internal) ∧ cancelled ≠ internal := by
  have hnodup := Kernel.codes_nodup
  simp only [List.nodup_cons, List.mem_cons, List.not_mem_nil, not_or, or_false, not_false_eq_true,
    List.nodup_nil, and_true] at hnodup
  exact hnodup

@[simp] theorem invalidArgument_ne_ok : invalidArgument ≠ ok := distinct.1.1.symm
@[simp] theorem notFound_ne_ok : notFound ≠ ok := distinct.1.2.1.symm
@[simp] theorem resourceExhausted_ne_ok : resourceExhausted ≠ ok := distinct.1.2.2.1.symm
@[simp] theorem cancelled_ne_ok : cancelled ≠ ok := distinct.1.2.2.2.1.symm
@[simp] theorem internal_ne_ok : internal ≠ ok := distinct.1.2.2.2.2.symm
@[simp] theorem invalidArgument_ne_notFound : invalidArgument ≠ notFound := distinct.2.1.1
@[simp] theorem internal_ne_notFound : internal ≠ notFound := distinct.2.2.1.2.2.symm
@[simp] theorem resourceExhausted_ne_cancelled : resourceExhausted ≠ cancelled := distinct.2.2.2.1.1
@[simp] theorem internal_ne_cancelled : internal ≠ cancelled := distinct.2.2.2.2.symm

end ErrorCode

namespace Status

def ok (status : Status) : Bool := status.code = ErrorCode.ok

def success : Status := ⟨ErrorCode.ok, []⟩

def failure (code : ErrorCode) (message : Bytes) : Status := ⟨code, message⟩

@[simp] theorem ok_success : success.ok = true := by
  simp [ok, success]

@[simp] theorem ok_failure (code : ErrorCode) (message : Bytes) :
    (failure code message).ok = decide (code = ErrorCode.ok) := rfl

end Status

end Status

/-! ## Protocol types -/

/-- `kProtocolVersion`. -/
def protocolVersion : UInt16 := 3

/-- `kMaximumFramePayloadBytes`. -/
def maximumFramePayloadBytes : Nat := 4 * 1024 * 1024

@[ext] structure SessionId where
  instance' : UInt64
  value : UInt64
deriving DecidableEq, Repr

@[ext] structure JobId where
  instance' : UInt64
  value : UInt64
deriving DecidableEq, Repr

inductive JobState where
  | queued
  | running
  | succeeded
  | failed
  | cancelled
deriving DecidableEq, Repr

structure JobSubmitOptions where
  allowGpu : Bool
  maximumParallelism : UInt32
deriving DecidableEq

structure JobStatus where
  jobId : JobId
  sessionId : SessionId
  state : JobState
  outcome : Status
deriving DecidableEq

structure DaemonInfo where
  protocolVersion : UInt16
  instanceId : UInt64
  serviceVersion : Bytes
  transport : Bytes
  methods : List Bytes
  activeSessions : UInt64
  activeJobs : UInt64
  maximumConcurrency : UInt32
  maximumSessions : UInt32
deriving DecidableEq

inductive Method where
  | sessionCreate
  | sessionClose
  | jobSubmit
  | jobStatus
  | jobCancel
  | jobResult
  | jobRelease
  | daemonInfo
  | daemonShutdown
deriving DecidableEq, Repr

namespace Method

/-- The wire code of a method. -/
def code : Method → UInt8
  | sessionCreate => 1
  | sessionClose => 2
  | jobSubmit => 3
  | jobStatus => 4
  | jobCancel => 5
  | jobResult => 6
  | jobRelease => 7
  | daemonInfo => 8
  | daemonShutdown => 9

/-- `static_cast<Method>`, defined on the nine codes. -/
def ofCode? (raw : UInt8) : Option Method :=
  [sessionCreate, sessionClose, jobSubmit, jobStatus, jobCancel, jobResult, jobRelease, daemonInfo,
    daemonShutdown].find? (fun method => method.code = raw)

theorem ofCode?_code (method : Method) : ofCode? method.code = some method := by
  cases method <;> decide

theorem code_of_ofCode? {raw : UInt8} {method : Method} (h : ofCode? raw = some method) :
    method.code = raw := by
  simpa using List.find?_some h

end Method

namespace JobState

/-- The wire code of a job state. -/
def code : JobState → UInt8
  | queued => 1
  | running => 2
  | succeeded => 3
  | failed => 4
  | cancelled => 5

/-- `static_cast<JobState>`, defined on the five codes. -/
def ofCode? (raw : UInt8) : Option JobState :=
  [queued, running, succeeded, failed, cancelled].find? (fun state => state.code = raw)

theorem ofCode?_code (state : JobState) : ofCode? state.code = some state := by
  cases state <;> decide

end JobState

/-- `method_name`. -/
def methodName : Method → Bytes
  | .sessionCreate => ascii "session.create"
  | .sessionClose => ascii "session.close"
  | .jobSubmit => ascii "job.submit"
  | .jobStatus => ascii "job.status"
  | .jobCancel => ascii "job.cancel"
  | .jobResult => ascii "job.result"
  | .jobRelease => ascii "job.release"
  | .daemonInfo => ascii "daemon.info"
  | .daemonShutdown => ascii "daemon.shutdown"

/-- `method_inventory`: the nine names in ascending byte order. -/
def methodInventory : List Bytes :=
  ([Method.daemonInfo, .daemonShutdown, .jobCancel, .jobRelease, .jobResult, .jobStatus,
    .jobSubmit, .sessionClose, .sessionCreate].map methodName).mergeSort (fun a b => a ≤ b)

theorem length_methodInventory : methodInventory.length = 9 := by
  simp [methodInventory]

/-! ## Requests and responses -/

section Messages

variable [Kernel]

instance : Inhabited WorkflowDocument := ⟨⟨0, [], [], []⟩⟩
instance : Inhabited SessionId := ⟨⟨0, 0⟩⟩
instance : Inhabited JobId := ⟨⟨0, 0⟩⟩
instance : Inhabited JobSubmitOptions := ⟨⟨false, 0⟩⟩
instance : Inhabited JobStatus := ⟨⟨default, default, .queued, Status.success⟩⟩
instance : Inhabited ExecutionDiagnostics := ⟨⟨0, default, 0, 0, 0, [], [], [], []⟩⟩
instance : Inhabited ExecutionResult := ⟨⟨default, default⟩⟩
instance : Inhabited DaemonInfo := ⟨⟨protocolVersion, 0, [], [], [], 0, 0, 0, 0⟩⟩

end Messages

/-- A decoded request. Only the fields selected by `method` are authoritative. -/
structure Request where
  requestId : UInt64
  method : Method
  document : WorkflowDocument
  sessionId : SessionId
  jobId : JobId
  submitOptions : JobSubmitOptions
deriving DecidableEq

/-- A response before framing. -/
structure Response where
  requestId : UInt64
  method : Method
  status : Status
  sessionId : SessionId
  jobId : JobId
  jobStatus : JobStatus
  executionResult : ExecutionResult
  daemonInfo : DaemonInfo
  shutdownAfterWrite : Bool
deriving DecidableEq

/-- A default-constructed request. -/
instance : Inhabited Request := ⟨⟨0, .daemonInfo, default, default, default, default⟩⟩

/-- A default-constructed response. -/
instance [Kernel] : Inhabited Response :=
  ⟨⟨0, .daemonInfo, Status.success, default, default, default, default, default, false⟩⟩

end PhotospiderDaemon.Ipc
