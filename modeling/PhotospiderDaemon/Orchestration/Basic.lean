import PhotospiderDaemon.Ipc.Protocol

/-!
# What orchestration works with

`src/lib/orchestration/service.cpp` from the outside: the bounds of a service, what its calls
into the kernel and its allocations can do, and how a call can end.

Every construction of a string, a record or a container node may fail. Which ones do is not
decided by the program, so a step takes the set of its failing points as an argument.
-/

namespace PhotospiderDaemon.Orchestration

open Foundation Ipc

/-- `ServiceConfig`. -/
structure ServiceConfig where
  maximumConcurrency : UInt32
  maximumJobs : UInt32
  maximumSessions : UInt32
  gpuEnabled : Bool
deriving DecidableEq

/-- What a constructed service keeps for its whole life. The constructors reject zero bounds,
and `make_instance_id` draws until the token is not zero. -/
structure Settings where
  config : ServiceConfig
  instanceId : UInt64
  serviceVersion : Bytes
  maximumConcurrency_ne : config.maximumConcurrency ≠ 0
  maximumJobs_ne : config.maximumJobs ≠ 0
  maximumSessions_ne : config.maximumSessions ≠ 0
  instanceId_ne : instanceId ≠ 0

/-- A service with two workers and room for four jobs and two sessions. -/
def sampleSettings : Settings where
  config := ⟨2, 4, 2, false⟩
  instanceId := 7
  serviceVersion := ascii "0.2.0"
  maximumConcurrency_ne := by decide
  maximumJobs_ne := by decide
  maximumSessions_ne := by decide
  instanceId_ne := by decide

/-- An exception, as far as the exception fences tell exceptions apart. -/
inductive Raised where
  | badAlloc
  | standard (what : Option Bytes)
  | nonstandard
deriving DecidableEq

/-- How a call into the kernel comes back. -/
inductive KernelOutcome (α : Type) where
  | value (value : α)
  | failure (status : Status)
  | raised (exception : Raised)

/-- A point of a step that allocates. -/
inductive Fault where
  /-- a status with a literal message -/
  | diagnostic
  /-- a string, status or result handed on by value -/
  | copy
  /-- `make_shared` of a record -/
  | record
  /-- a map node -/
  | insertion
  /-- `queue_.push_back` -/
  | queue
  /-- the two `reserve` calls of `JobRegistry::close_session` -/
  | snapshot
deriving DecidableEq

/-- A non-success status or an exception. -/
inductive Failure where
  | status (status : Status)
  | raised (exception : Raised)
deriving DecidableEq

/-- The failure with which a kernel call comes back, if it does. -/
def KernelOutcome.failure? {α : Type} : KernelOutcome α → Option Failure
  | value _ => none
  | failure status => some (.status status)
  | raised exception => some (.raised exception)

/-- How a routed method ends. The first nine are the successes of the nine methods. -/
inductive Ending where
  | created (id : SessionId)
  | closed
  | submitted (id : JobId)
  | observed (status : JobStatus)
  | cancelAccepted
  | produced (result : ExecutionResult)
  | released
  | described (info : DaemonInfo)
  | shutdownAccepted
  | failed (failure : Failure)
deriving DecidableEq

/-- The end of a method that returns a `Result`. -/
def Ending.ofResult {α : Type} (success : α → Ending) : Except Failure α → Ending
  | .ok value => success value
  | .error failure => .failed failure

theorem Ending.ofResult_cases {α : Type} (success : α → Ending) (result : Except Failure α) :
    (∃ value, result = .ok value ∧ ofResult success result = success value) ∨
      ∃ failure, result = .error failure ∧ ofResult success result = .failed failure := by
  cases result with
  | ok value => exact Or.inl ⟨value, rfl, rfl⟩
  | error failure => exact Or.inr ⟨failure, rfl, rfl⟩

theorem Ending.ofResult_ne {α : Type} {success : α → Ending} {result : Except Failure α}
    {ending : Ending} (hsuccess : ∀ value, success value ≠ ending)
    (hfailed : ∀ failure, .failed failure ≠ ending) : ofResult success result ≠ ending := by
  cases result with
  | ok value => exact hsuccess value
  | error failure => exact hfailed failure

/-- A failure with a literal message, unless the message cannot be allocated. -/
def rejection (fails : Fault → Bool) (code : ErrorCode) (message : String) : Failure :=
  if fails .diagnostic then .raised .badAlloc
  else .status (Status.failure code (ascii message))

end PhotospiderDaemon.Orchestration
