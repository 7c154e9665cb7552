import PhotospiderDaemon.Apps.Options
import PhotospiderDaemon.Foundation.Interleaving
import PhotospiderDaemon.Ipc.SocketNode

/-!
# The signals of the daemon

`main`, `SignalMaskGuard` and `SignalStopWaiter` of `apps/photospiderd/main.cpp`, with everybody
who sends a signal to the process. The main thread and the waiter make one step for each system
call and each access to an atomic, and signals come at any time.

What the operating system does is modelled from POSIX. A signal that some thread does not block is
delivered, and then its default action ends the process. A signal that all threads block stays
pending, at most once. `sigwait` takes any pending signal, and one that `pthread_kill` has directed
to a thread can only be taken by this thread and goes away with it. A new thread inherits the mask
of the one that starts it.

Of the server what `main` waits for is left: whether it is stopping, how many of its handlers and
workers have not ended, and the connections that `run()` has not yet accepted. A handler ends when
it likes, or never, a worker not before the registry stops; `run()` joins the handlers, the
destructors of the server join both.

* `mainStep`, `waiterStep`, `eventStep`: the programs.
* `MainMove`, `WaiterMove`, `EventMove`: what their steps can be.
-/

namespace PhotospiderDaemon.Apps

open Foundation Ipc

/-! ## The process -/

/-- The signals of `signals_`. -/
inductive Signal where
  /-- `SIGINT` -/
  | interrupt
  /-- `SIGTERM` -/
  | terminate
  /-- `SIGUSR1` -/
  | wake
deriving DecidableEq

def Signal.stops : Signal → Bool
  | interrupt | terminate => true
  | wake => false

/-- A `sigset_t`, as far as the signals of `signals_` are concerned. -/
abbrev SignalSet := Signal → Bool

namespace SignalSet

def all : SignalSet := fun _ => true

def none : SignalSet := fun _ => false

def add (set : SignalSet) (signal : Signal) : SignalSet :=
  fun other => other = signal || set other

def remove (set : SignalSet) (signal : Signal) : SignalSet :=
  fun other => other ≠ signal && set other

def size (set : SignalSet) : Nat :=
  (set .interrupt).toNat + (set .terminate).toNat + (set .wake).toNat

/-- The first signal of the set. -/
def first (set : SignalSet) : Option Signal :=
  if set .interrupt then some .interrupt
  else if set .terminate then some .terminate
  else if set .wake then some .wake
  else .none

@[simp] theorem add_apply (set : SignalSet) (signal other : Signal) :
    set.add signal other = (decide (other = signal) || set other) := rfl

@[simp] theorem remove_apply (set : SignalSet) (signal other : Signal) :
    set.remove signal other = (decide (other ≠ signal) && set other) := rfl

theorem isSome_first_iff (set : SignalSet) :
    set.first.isSome = true ↔ ∃ signal, set signal = true := by
  constructor
  · intro h
    by_contra hnone
    rw [not_exists] at hnone
    rw [first, if_neg (hnone _), if_neg (hnone _), if_neg (hnone _)] at h
    cases h
  · rintro ⟨signal, hsignal⟩
    unfold first
    cases signal <;> simp only [hsignal, if_true] <;> (repeat' split) <;> rfl

theorem size_add_le (set : SignalSet) (signal : Signal) : (set.add signal).size ≤ set.size + 1 := by
  have hle := fun other => Bool.toNat_le (set other)
  cases signal <;> simp [size] <;> grind

theorem size_remove {set : SignalSet} {signal : Signal} (h : set signal = true) :
    (set.remove signal).size + 1 = set.size := by
  cases signal <;> simp [size, h] <;> omega

end SignalSet

/-- How the process has ended. -/
inductive Outcome where
  | exit (code : Nat)
  | killed (signal : Signal)
deriving DecidableEq

/-- What the constructor of the server throws. -/
inductive Thrown where
  /-- `std::invalid_argument` -/
  | invalidArgument
  /-- another exception of the standard library -/
  | other
deriving DecidableEq

/-- What has thrown an exception after the options were parsed. -/
inductive Cause where
  /-- the constructor of `SignalMaskGuard`: `pthread_sigmask` has failed -/
  | guard
  | construction (thrown : Thrown)
  /-- the constructor of `SignalStopWaiter`: its thread was not started -/
  | thread
  | run
  /-- `finish()`: the waiter, or `pthread_kill`, has met an error -/
  | waiter
  | restore
deriving DecidableEq

/-- What the handlers of `main` make of it. -/
def Cause.code : Cause → Nat
  | construction .invalidArgument => 2
  | _ => 1

/-- The process. `mask` is that of the main thread and `waiterMask` that of the waiter, as long as
it exists; `serverMask` holds what all threads of the server block. `directed` tells whether the
waiter has a `SIGUSR1` of its own, `backlog` counts the connections that `run()` has not yet
accepted, `retiring` is the `stopping_` of the job registry. The last fields are only recorded:
whether a stop signal has come, which signals have come since `restore()` looked for the last
time, whether `pthread_kill` has failed, what `run()` has returned, and what has thrown an
exception. -/
structure Process where
  mask : SignalSet
  previousMask : SignalSet
  serverMask : SignalSet
  waiterMask : Option SignalSet
  pending : SignalSet
  directed : Bool
  backlog : Nat
  handlers : Nat
  workers : Nat
  retiring : Bool
  stopping : Bool
  complete : Bool
  error : Nat
  exited : Bool
  outcome : Option Outcome
  asked : Bool
  fresh : SignalSet
  unwoken : Bool
  status : Option Status
  cause : Option Cause

namespace Process

/-- The process as it is started: with any mask, and any of the blocked signals may be pending. -/
def initial (mask pending : SignalSet) : Process where
  mask := mask
  previousMask := SignalSet.none
  serverMask := SignalSet.none
  waiterMask := none
  pending := fun signal => mask signal && pending signal
  directed := false
  backlog := 0
  handlers := 0
  workers := 0
  retiring := false
  stopping := false
  complete := false
  error := 0
  exited := false
  outcome := none
  asked := (mask .interrupt && pending .interrupt) || (mask .terminate && pending .terminate)
  fresh := SignalSet.none
  unwoken := false
  status := none
  cause := none

/-- Some thread does not block the signal. -/
def accepts (p : Process) (signal : Signal) : Bool :=
  !p.mask signal || (p.handlers + p.workers ≠ 0 && !p.serverMask signal) ||
    p.waiterMask.any (fun mask => !mask signal)

/-- A signal comes. -/
def send (p : Process) (signal : Signal) : Process :=
  if p.accepts signal then { p with outcome := some (.killed signal) }
  else
    { p with
      pending := p.pending.add signal
      asked := p.asked || signal.stops
      fresh := p.fresh.add signal }

def exit (p : Process) (code : Nat) : Process := { p with outcome := some (.exit code) }

/-- `pthread_sigmask` back to the previous mask, which delivers what was pending. -/
def unblock (p : Process) : Process :=
  { p with
    mask := p.previousMask
    outcome :=
      (SignalSet.first fun signal => p.pending signal && !p.previousMask signal).map .killed }

end Process

/-! ## The main thread -/

variable [Kernel]

/-- How the block with the server and the waiter is left. -/
inductive Leaving where
  | returned (status : Status)
  | raised (cause : Cause)

/-- What the handlers of `main` make of an exception of `parse_options`. -/
def Exception.code : Exception → Nat
  | invalidArgument _ => 2
  | noConversion => 2
  | outOfRange => 1

/-- What the constructor of `Server` accepts of a `ServerConfig`. -/
def validConfiguration (options : Options) : Bool :=
  !options.socketPath.isEmpty && options.maximumConcurrency ≠ 0 && options.maximumJobs ≠ 0 &&
    options.maximumSessions ≠ 0 && options.maximumConnections ≠ 0 &&
    options.maximumConnections ≤ 4096 && validUnixSocketPath options.socketPath

/-- Where `main` stands. -/
inductive MainStage where
  | entered (argv : List Bytes)
  /-- in the constructor of `SignalMaskGuard` -/
  | blocking (options : Options)
  | constructing (options : Options)
  /-- in the constructor of `SignalStopWaiter` -/
  | starting
  /-- in the loop of `run()` -/
  | running
  /-- `run()` joins the handlers -/
  | closing (leaving : Leaving)
  /-- in `finish()`, or in the destructor of the waiter when an exception has left `run()` -/
  | completing (leaving : Leaving)
  | waking (leaving : Leaving)
  | joining (leaving : Leaving)
  /-- `finish()` looks at the error of the waiter -/
  | reporting (status : Status)
  /-- in the destructor of the server -/
  | destroying (leaving : Leaving)
  /-- it joins the handlers -/
  | emptying (leaving : Leaving)
  /-- the destructor of the job registry joins the workers -/
  | retiring (leaving : Leaving)
  /-- in `restore()` -/
  | inspecting (status : Status)
  | draining (status : Status)
  | unblocking (status : Status)
  /-- in the destructor of `SignalMaskGuard`, when an exception leaves `main` -/
  | unmasking (code : Nat)
  /-- without the guard -/
  | leaving (code : Nat)
  | exited (code : Nat)

/-- What `pthread_kill` returns. -/
inductive WakeResult where
  | sent
  /-- `ESRCH` -/
  | gone
  | failed (errno : Nat)

inductive Choice where
  | go
  /-- a system call fails, or an exception is thrown -/
  | fail (errno : Nat)
  /-- the constructor of the server throws when some of its workers are started -/
  | throw (thrown : Thrown) (started : Nat)
  /-- `run()` accepts a connection and starts its handler -/
  | accept
  /-- `run()` accepts a connection and closes it -/
  | reject
  /-- a fatal failure of the accept loop -/
  | refuse (status : Status)
  /-- a handler cannot be started -/
  | abort
  | wake (result : WakeResult)
  /-- what `sigwait` takes, and whether it was directed to the thread -/
  | take (signal : Signal) (directed : Bool)

/-- `ESRCH` -/
def noSuchProcess : Nat := 3

/-- `pthread_kill`. The error is stored by `finish()` only. -/
def wakeWaiter (p : Process) (leaving : Leaving) : WakeResult → Option Process
  | .sent => some { p with directed := p.directed || !p.exited }
  | .gone => if p.exited then some p else none
  | .failed errno =>
    if errno = 0 ∨ errno = noSuchProcess then none
    else
      match leaving with
      | .returned _ => some { p with unwoken := true, error := errno }
      | .raised _ => some { p with unwoken := true }

/-- One step of `main`. -/
def mainStep (p : Process) (stage : MainStage) (choice : Choice) : Option (Process × MainStage) :=
  match stage, choice with
  | .entered argv, .go =>
    match parseOptions argv with
    | .error exception => some (p.exit exception.code, .exited exception.code)
    | .ok options =>
      if options.help then some (p.exit 0, .exited 0) else some (p, .blocking options)
  | .blocking _, .fail _ => some ({ p with cause := some .guard }.exit 1, .exited 1)
  | .blocking options, .go =>
    some ({ p with previousMask := p.mask, mask := SignalSet.all }, .constructing options)
  | .constructing options, .throw thrown started =>
    -- The registry joins the workers that it has started.
    if started ≤ (if validConfiguration options then options.maximumConcurrency.toNat else 0) then
      some
        ({ p with
            serverMask := p.mask, workers := started, retiring := true
            cause := some (.construction thrown) },
          .retiring (.raised (.construction thrown)))
    else none
  | .constructing options, .go =>
    if validConfiguration options then
      some ({ p with serverMask := p.mask, workers := options.maximumConcurrency.toNat }, .starting)
    else some (p, .unmasking 2)
  | .starting, .fail _ => some ({ p with cause := some .thread }, .destroying (.raised .thread))
  | .starting, .go => some ({ p with waiterMask := some p.mask }, .running)
  | .running, .go => if p.stopping then some (p, .closing (.returned Status.success)) else none
  | .running, .accept =>
    if p.backlog = 0 then none
    else
      some
        ({ p with
            backlog := p.backlog - 1, handlers := p.handlers + 1
            serverMask := fun signal => p.serverMask signal && p.mask signal },
          .running)
  | .running, .reject =>
    if p.backlog = 0 then none else some ({ p with backlog := p.backlog - 1 }, .running)
  | .running, .refuse status =>
    if p.stopping || status.ok then none
    else some ({ p with stopping := true }, .closing (.returned status))
  | .running, .abort =>
    some ({ p with stopping := true, cause := some .run }, .closing (.raised .run))
  -- Outside of its `try` an exception leaves `run()` as it is.
  | .running, .fail _ => some ({ p with cause := some .run }, .completing (.raised .run))
  | .closing leaving, .go =>
    if p.handlers ≠ 0 then none
    else
      match leaving with
      | .returned status => some ({ p with status := some status }, .completing (.returned status))
      | .raised cause => some (p, .completing (.raised cause))
  | .completing leaving, .go => some ({ p with complete := true }, .waking leaving)
  | .waking leaving, .wake result =>
    (wakeWaiter p leaving result).map fun p => (p, .joining leaving)
  | .joining leaving, .go =>
    if p.exited then
      match leaving with
      | .returned status => some (p, .reporting status)
      | .raised cause => some (p, .destroying (.raised cause))
    else none
  | .reporting status, .go =>
    if p.error = 0 then some (p, .destroying (.returned status))
    else some ({ p with cause := some .waiter }, .destroying (.raised .waiter))
  | .destroying leaving, .go => some ({ p with stopping := true }, .emptying leaving)
  | .emptying leaving, .go =>
    if p.handlers ≠ 0 then none else some ({ p with retiring := true }, .retiring leaving)
  | .retiring leaving, .go =>
    if p.workers ≠ 0 then none
    else
      match leaving with
      | .returned status => some (p, .inspecting status)
      | .raised cause => some (p, .unmasking cause.code)
  | .inspecting _, .fail _ => some ({ p with cause := some .restore }, .unmasking 1)
  | .inspecting status, .go =>
    some ({ p with fresh := SignalSet.none },
      if p.pending.first.isSome then .draining status else .unblocking status)
  | .draining _, .fail _ => some ({ p with cause := some .restore }, .unmasking 1)
  | .draining status, .take signal _ =>
    if p.pending signal then
      some ({ p with pending := p.pending.remove signal }, .inspecting status)
    else none
  | .unblocking _, .fail _ => some ({ p with cause := some .restore }, .unmasking 1)
  | .unblocking status, .go => some (p.unblock, .leaving (if status.ok then 0 else 1))
  | .unmasking code, .fail _ => some (p, .leaving code)
  | .unmasking code, .go => some (p.unblock, .leaving code)
  | .leaving code, .go => some (p.exit code, .exited code)
  | _, _ => none

/-- A step of `main` that changes nothing of the process. -/
inductive MainAdvance (p : Process) : MainStage → MainStage → Prop where
  | parsed {argv : List Bytes} {options : Options} (hoptions : parseOptions argv = .ok options)
    (hhelp : options.help = false) : MainAdvance p (.entered argv) (.blocking options)
  | misconfigured {options : Options} (hinvalid : validConfiguration options = false) :
    MainAdvance p (.constructing options) (.unmasking 2)
  | stopped (hstopping : p.stopping = true) :
    MainAdvance p .running (.closing (.returned Status.success))
  | closedRaised {cause : Cause} (hhandlers : p.handlers = 0) :
    MainAdvance p (.closing (.raised cause)) (.completing (.raised cause))
  | joined {status : Status} (hexited : p.exited = true) :
    MainAdvance p (.joining (.returned status)) (.reporting status)
  | joinedRaised {cause : Cause} (hexited : p.exited = true) :
    MainAdvance p (.joining (.raised cause)) (.destroying (.raised cause))
  | reported {status : Status} (herror : p.error = 0) :
    MainAdvance p (.reporting status) (.destroying (.returned status))
  | retired {status : Status} (hworkers : p.workers = 0) :
    MainAdvance p (.retiring (.returned status)) (.inspecting status)
  | retiredRaised {cause : Cause} (hworkers : p.workers = 0) :
    MainAdvance p (.retiring (.raised cause)) (.unmasking cause.code)
  | unmasked {code : Nat} : MainAdvance p (.unmasking code) (.leaving code)

/-- What a step of `main` can be. -/
inductive MainMove (p : Process) : MainStage → Process → MainStage → Prop where
  | advance {stage stage' : MainStage} (hadvance : MainAdvance p stage stage') :
    MainMove p stage p stage'
  | misused {argv : List Bytes} {exception : Exception}
    (hoptions : parseOptions argv = .error exception) :
    MainMove p (.entered argv) (p.exit exception.code) (.exited exception.code)
  | helped {argv : List Bytes} {options : Options} (hoptions : parseOptions argv = .ok options)
    (hhelp : options.help = true) : MainMove p (.entered argv) (p.exit 0) (.exited 0)
  | unblocked {options : Options} :
    MainMove p (.blocking options) ({ p with cause := some .guard }.exit 1) (.exited 1)
  | block {options : Options} :
    MainMove p (.blocking options) { p with previousMask := p.mask, mask := SignalSet.all }
      (.constructing options)
  | unconstructed {options : Options} {thrown : Thrown} {started : Nat} :
    MainMove p (.constructing options)
      { p with
        serverMask := p.mask, workers := started, retiring := true
        cause := some (.construction thrown) }
      (.retiring (.raised (.construction thrown)))
  | construct {options : Options} (hvalid : validConfiguration options = true) :
    MainMove p (.constructing options)
      { p with serverMask := p.mask, workers := options.maximumConcurrency.toNat } .starting
  | unstarted :
    MainMove p .starting { p with cause := some .thread } (.destroying (.raised .thread))
  | start : MainMove p .starting { p with waiterMask := some p.mask } .running
  | accept (hbacklog : p.backlog ≠ 0) :
    MainMove p .running
      { p with
        backlog := p.backlog - 1, handlers := p.handlers + 1
        serverMask := fun signal => p.serverMask signal && p.mask signal }
      .running
  | reject (hbacklog : p.backlog ≠ 0) :
    MainMove p .running { p with backlog := p.backlog - 1 } .running
  | refuse {status : Status} (hstatus : status.ok = false) :
    MainMove p .running { p with stopping := true } (.closing (.returned status))
  | abort :
    MainMove p .running { p with stopping := true, cause := some .run } (.closing (.raised .run))
  | raise : MainMove p .running { p with cause := some .run } (.completing (.raised .run))
  | close {status : Status} (hhandlers : p.handlers = 0) :
    MainMove p (.closing (.returned status)) { p with status := some status }
      (.completing (.returned status))
  | complete {leaving : Leaving} :
    MainMove p (.completing leaving) { p with complete := true } (.waking leaving)
  | wake {leaving : Leaving} :
    MainMove p (.waking leaving) { p with directed := p.directed || !p.exited } (.joining leaving)
  | gone {leaving : Leaving} (hexited : p.exited = true) :
    MainMove p (.waking leaving) p (.joining leaving)
  | unwoken {leaving : Leaving} {error : Nat} :
    MainMove p (.waking leaving) { p with unwoken := true, error := error } (.joining leaving)
  | failed {status : Status} (herror : p.error ≠ 0) :
    MainMove p (.reporting status) { p with cause := some .waiter } (.destroying (.raised .waiter))
  | destroy {leaving : Leaving} :
    MainMove p (.destroying leaving) { p with stopping := true } (.emptying leaving)
  | empty {leaving : Leaving} (hhandlers : p.handlers = 0) :
    MainMove p (.emptying leaving) { p with retiring := true } (.retiring leaving)
  | uninspected {status : Status} :
    MainMove p (.inspecting status) { p with cause := some .restore } (.unmasking 1)
  | inspect {status : Status} (hpending : p.pending.first.isSome = true) :
    MainMove p (.inspecting status) { p with fresh := SignalSet.none } (.draining status)
  | clear {status : Status} (hpending : p.pending.first.isSome = false) :
    MainMove p (.inspecting status) { p with fresh := SignalSet.none } (.unblocking status)
  | undrained {status : Status} :
    MainMove p (.draining status) { p with cause := some .restore } (.unmasking 1)
  | drain {status : Status} {signal : Signal} (hpending : p.pending signal = true) :
    MainMove p (.draining status) { p with pending := p.pending.remove signal } (.inspecting status)
  | unrestored {status : Status} :
    MainMove p (.unblocking status) { p with cause := some .restore } (.unmasking 1)
  | restore {status : Status} :
    MainMove p (.unblocking status) p.unblock (.leaving (if status.ok then 0 else 1))
  | unmask {code : Nat} : MainMove p (.unmasking code) p.unblock (.leaving code)
  | leave {code : Nat} : MainMove p (.leaving code) (p.exit code) (.exited code)

theorem mainMove {p p' : Process} {stage stage' : MainStage} {choice : Choice}
    (h : mainStep p stage choice = some (p', stage')) : MainMove p stage p' stage' := by
  unfold mainStep at h
  split at h
  · split at h
    · cases h
      exact .misused ‹_›
    · split at h <;> cases h
      · exact .helped ‹_› ‹_›
      · exact .advance (.parsed ‹_› (Bool.eq_false_iff.mpr ‹_›))
  · cases h
    exact .unblocked
  · cases h
    exact .block
  · rw [Option.ite_none_right_eq_some] at h
    cases h.2
    exact .unconstructed
  · split at h <;> cases h
    · exact .construct ‹_›
    · exact .advance (.misconfigured (Bool.eq_false_iff.mpr ‹_›))
  · cases h
    exact .unstarted
  · cases h
    exact .start
  · split at h <;> cases h
    exact .advance (.stopped ‹_›)
  · split at h <;> cases h
    exact .accept ‹_›
  · split at h <;> cases h
    exact .reject ‹_›
  · split at h
    · cases h
    · rename_i hrefuse
      cases h
      rw [Bool.or_eq_true, not_or] at hrefuse
      exact .refuse (Bool.eq_false_iff.mpr hrefuse.2)
  · cases h
    exact .abort
  · cases h
    exact .raise
  · split at h
    · cases h
    · have hhandlers : p.handlers = 0 := not_not.mp ‹_›
      split at h <;> cases h
      · exact .close hhandlers
      · exact .advance (.closedRaised hhandlers)
  · cases h
    exact .complete
  · obtain ⟨p₁, hwake, heq⟩ := Option.map_eq_some_iff.mp h
    cases heq
    unfold wakeWaiter at hwake
    split at hwake
    · cases hwake
      exact .wake
    · split at hwake <;> cases hwake
      exact .gone ‹_›
    · split at hwake
      · cases hwake
      · split at hwake <;> cases hwake
        · exact .unwoken
        · exact .unwoken
  · split at h
    · split at h <;> cases h
      · exact .advance (.joined ‹_›)
      · exact .advance (.joinedRaised ‹_›)
    · cases h
  · split at h <;> cases h
    · exact .advance (.reported ‹_›)
    · exact .failed ‹_›
  · cases h
    exact .destroy
  · split at h <;> cases h
    exact .empty (not_not.mp ‹_›)
  · split at h
    · cases h
    · have hworkers : p.workers = 0 := not_not.mp ‹_›
      split at h <;> cases h
      · exact .advance (.retired hworkers)
      · exact .advance (.retiredRaised hworkers)
  · cases h
    exact .uninspected
  · cases h
    split
    · exact .inspect ‹_›
    · exact .clear (Bool.eq_false_iff.mpr ‹_›)
  · cases h
    exact .undrained
  · split at h <;> cases h
    exact .drain ‹_›
  · cases h
    exact .unrestored
  · cases h
    exact .restore
  · cases h
    exact .advance .unmasked
  · cases h
    exact .unmask
  · cases h
    exact .leave
  · cases h

/-! ## The waiter -/

/-- Where `wait_loop` stands. -/
inductive WaiterStage where
  | unstarted
  /-- in `sigwait` -/
  | waiting
  /-- `sigwait` has returned `SIGUSR1` -/
  | woken
  /-- in front of `request_stop()` -/
  | requesting
  | exiting
  | ended
deriving DecidableEq

omit [Kernel] in
/-- One step of `wait_loop`. -/
def waiterStep (p : Process) (stage : WaiterStage) (choice : Choice) :
    Option (Process × WaiterStage) :=
  match stage, choice with
  | .unstarted, .go => if p.waiterMask.isSome then some (p, .waiting) else none
  | .waiting, .fail errno =>
    if errno = 0 then none else some ({ p with error := errno }, .requesting)
  | .waiting, .take signal true =>
    if signal = .wake ∧ p.directed then some ({ p with directed := false }, .woken) else none
  | .waiting, .take signal false =>
    if p.pending signal then
      some ({ p with pending := p.pending.remove signal },
        if signal.stops then .requesting else .woken)
    else none
  | .woken, .go => some (p, if p.complete then .exiting else .waiting)
  | .requesting, .go => some ({ p with stopping := true }, .exiting)
  | .exiting, .go =>
    some ({ p with waiterMask := none, directed := false, exited := true }, .ended)
  | _, _ => none

/-- What a step of `wait_loop` can be. -/
inductive WaiterMove (p : Process) : WaiterStage → Process → WaiterStage → Prop where
  | begin (hstarted : p.waiterMask.isSome = true) : WaiterMove p .unstarted p .waiting
  | fail {errno : Nat} (herrno : errno ≠ 0) :
    WaiterMove p .waiting { p with error := errno } .requesting
  | takeDirected (hdirected : p.directed = true) :
    WaiterMove p .waiting { p with directed := false } .woken
  | takeStop {signal : Signal} (hpending : p.pending signal = true) :
    WaiterMove p .waiting { p with pending := p.pending.remove signal } .requesting
  | takeWake (hpending : p.pending .wake = true) :
    WaiterMove p .waiting { p with pending := p.pending.remove .wake } .woken
  | done (hcomplete : p.complete = true) : WaiterMove p .woken p .exiting
  | again (hcomplete : p.complete = false) : WaiterMove p .woken p .waiting
  | request : WaiterMove p .requesting { p with stopping := true } .exiting
  | exit :
    WaiterMove p .exiting { p with waiterMask := none, directed := false, exited := true } .ended

omit [Kernel] in
theorem waiterMove {p p' : Process} {stage stage' : WaiterStage} {choice : Choice}
    (h : waiterStep p stage choice = some (p', stage')) : WaiterMove p stage p' stage' := by
  unfold waiterStep at h
  split at h
  · split at h <;> cases h
    exact .begin ‹_›
  · split at h <;> cases h
    exact .fail ‹_›
  · split at h <;> cases h
    exact .takeDirected (‹_ ∧ _›).2
  · rename_i signal
    split at h
    · cases h
      cases signal with
      | interrupt => exact .takeStop ‹_›
      | terminate => exact .takeStop ‹_›
      | wake => exact .takeWake ‹_›
    · cases h
  · cases h
    split
    · exact .done ‹_›
    · exact .again (Bool.eq_false_iff.mpr ‹_›)
  · cases h
    exact .request
  · cases h
    exact .exit
  · cases h

/-! ## Everybody else -/

/-- What comes from outside, and what the threads of the server do to the process. -/
inductive Event where
  | signal (signal : Signal)
  /-- a handler accepts `daemon.shutdown` -/
  | shutdown
  | connect
  | handlerEnds
  | workerEnds

omit [Kernel] in
def eventStep (p : Process) : Event → Option Process
  | .signal signal => some (p.send signal)
  | .shutdown => if p.handlers = 0 then none else some { p with stopping := true }
  | .connect => some { p with backlog := p.backlog + 1 }
  | .handlerEnds =>
    if p.handlers = 0 then none else some { p with handlers := p.handlers - 1 }
  -- `worker_loop` is left when the registry stops.
  | .workerEnds =>
    if p.workers = 0 ∨ p.retiring = false then none else some { p with workers := p.workers - 1 }

/-- What an event can be. -/
inductive EventMove (p : Process) : Process → Prop where
  | signal {signal : Signal} : EventMove p (p.send signal)
  | shutdown (hhandlers : p.handlers ≠ 0) : EventMove p { p with stopping := true }
  | connect : EventMove p { p with backlog := p.backlog + 1 }
  | handlerEnds (hhandlers : p.handlers ≠ 0) : EventMove p { p with handlers := p.handlers - 1 }
  | workerEnds (hworkers : p.workers ≠ 0) : EventMove p { p with workers := p.workers - 1 }

omit [Kernel] in
theorem eventMove {p p' : Process} {event : Event} (h : eventStep p event = some p') :
    EventMove p p' := by
  cases event with
  | signal signal =>
    cases h
    exact .signal
  | shutdown =>
    simp only [eventStep] at h
    split at h <;> cases h
    exact .shutdown ‹_›
  | connect =>
    cases h
    exact .connect
  | handlerEnds =>
    simp only [eventStep] at h
    split at h <;> cases h
    exact .handlerEnds ‹_›
  | workerEnds =>
    simp only [eventStep] at h
    split at h <;> cases h
    exact .workerEnds (fun hnone => ‹¬ _› (Or.inl hnone))

inductive Thread where
  | main (stage : MainStage)
  | waiter (stage : WaiterStage)
  | event (event : Event)
  | past

/-- One step of a thread. A process that has ended makes none. -/
def threadStep (p : Process) (thread : Thread) (choice : Choice) : Option (Process × Thread) :=
  if p.outcome.isSome then none
  else
    match thread, choice with
    | .main stage, choice =>
      (mainStep p stage choice).map fun result => (result.1, .main result.2)
    | .waiter stage, choice =>
      (waiterStep p stage choice).map fun result => (result.1, .waiter result.2)
    | .event event, .go => (eventStep p event).map fun p => (p, .past)
    | _, _ => none

/-- The daemon and what comes from outside. -/
def daemon : Program Process Thread Choice Event where
  start := .event
  step _ := threadStep

omit [Kernel] in
def start (argv : List Bytes) (mask pending : SignalSet) : Config Process Thread :=
  ⟨Process.initial mask pending, [.main (.entered argv), .waiter .unstarted]⟩

/-- What any interleaving of the two threads and of everything from outside can reach. -/
def Reachable (argv : List Bytes) (mask pending : SignalSet) (c : Config Process Thread) : Prop :=
  daemon.Leads (fun _ => True) (start argv mask pending) c

end PhotospiderDaemon.Apps
