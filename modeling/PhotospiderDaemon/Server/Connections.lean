import PhotospiderDaemon.Foundation.Interleaving
import PhotospiderDaemon.Server.Connection

/-!
# The connections of a server

`Server::Impl` of `src/lib/server/server.cpp` with every thread that works on it: the accept loop
of `Server::run`, the handler of each connection, and any thread that calls `stop()`. A thread
makes one step for each access to an atomic, each system call and each critical section, with three
exceptions. The walk of `stop()` over `active_connections` holds `connections_mutex` while other
threads close and open descriptors, so every `shutdown` in it is a step of its own. The `shutdown`
and the `close` of the listener are one step, and so is a whole turn of a handler. A call that still
waits is a step that is not enabled.

The operating system is the table `descriptors` of what each number of the process refers to.
`accept` returns any number that is not open, and other parts of the process open and close
descriptors of their own, so a number that was closed can come back as anything.

A handler is the `serve_connection` of `Server.Connection`, cut into its steps: its loop is run
turn by turn, and the flag that a turn tests is the shared one.

* `stopStep`, `handlerStep`, `runStep`: the three programs.
* `StopMove`, `HandlerMove`, `RunMove`, `ThreadMove`: what their steps can be. `threadMove` is the
  one place where the programs are opened.
-/

namespace PhotospiderDaemon.Server.Connections

open Foundation Ipc Orchestration

/-! ## The state -/

/-- What a descriptor of the process refers to. -/
inductive File where
  | listener
  | connection (id : Nat)
  /-- a file of another part of the process -/
  | other
deriving DecidableEq

/-- Who has the descriptor of an accepted connection. -/
inductive Owner where
  /-- the accept loop -/
  | acceptor
  /-- the closure of a handler thread that has not begun -/
  | closure
  /-- the handler, while it is not registered -/
  | handler
  /-- the handler, from its registration to its `erase` -/
  | registered
  | nobody
deriving DecidableEq

/-- A connection that `accept` returned. Apart from the descriptor and what its peer will do, this
is only recorded: who has the descriptor, whether `accept_same_user` has returned it, whether it
has a slot, and how often a handler was started for it, a sentinel was attempted and its thread
was joined. -/
structure Accepted where
  descriptor : Nat
  peer : Handler
  owner : Owner
  verified : Bool
  slot : Bool
  launches : Nat
  sentinels : Nat
  joins : Nat

/-- What the owner of the server does with it: `run()` is called once, from one thread, and the
destructor is not called while it runs. -/
inductive Lifetime where
  | idle
  | running
  | destroyed
deriving DecidableEq

/-- `Server::Impl`. A handler record, its completion flag and its thread are known by the
connection. The fields from `descriptors` on belong to the operating system or are only recorded:
what was shut down, the connections in the order of their acceptance, whether the walk of the
first `stop()` is over, and whether `run()` has failed. -/
structure Impl where
  maximumActiveConnections : UInt32
  stopping : Bool
  listenerFd : Option Nat
  connectionsMutex : Option Nat
  activeConnections : OrderedMap Nat Nat
  activeHandlers : UInt32
  handlers : List Nat
  finished : List Nat
  exited : List Nat
  descriptors : OrderedMap Nat File
  interrupted : List File
  connections : List Accepted
  walked : Bool
  failed : Bool
  lifetime : Lifetime

/-- A descriptor with its one closing owner, and the connection that it belongs to. -/
structure UniqueDescriptor where
  id : Nat
  descriptor : Nat
deriving DecidableEq

namespace Impl

/-- A server with a bound listener. -/
def bound (listener : Nat) (maximumActiveConnections : UInt32) : Impl where
  maximumActiveConnections := maximumActiveConnections
  stopping := false
  listenerFd := some listener
  connectionsMutex := none
  activeConnections := OrderedMap.empty
  activeHandlers := 0
  handlers := []
  finished := []
  exited := []
  descriptors := (OrderedMap.empty.emplace listener .listener).1
  interrupted := []
  connections := []
  walked := false
  failed := false
  lifetime := .idle

def openDescriptor (s : Impl) (descriptor : Nat) (file : File) : Impl :=
  { s with descriptors := (s.descriptors.emplace descriptor file).1 }

def closeDescriptor (s : Impl) (descriptor : Nat) : Impl :=
  { s with descriptors := s.descriptors.erase descriptor }

/-- `shutdown_descriptor`. A number that is not open refers to nothing. -/
def shutdownDescriptor (s : Impl) (descriptor : Nat) : Impl :=
  { s with interrupted := (s.descriptors.find? descriptor).toList ++ s.interrupted }

/-- Change what is recorded of one connection. -/
def note (s : Impl) (id : Nat) (change : Accepted → Accepted) : Impl :=
  { s with connections := s.connections.modify id change }

def setOwner (s : Impl) (id : Nat) (owner : Owner) : Impl :=
  s.note id fun accepted => { accepted with owner := owner }

/-- `accept` returns a descriptor. -/
def accept (s : Impl) (descriptor : Nat) (peer : Handler) : Impl :=
  { s.openDescriptor descriptor (.connection s.connections.length) with
    connections := s.connections ++ [⟨descriptor, peer, .acceptor, false, false, 0, 0, 0⟩] }

/-- The destructor of a `UniqueDescriptor`. -/
def close (s : Impl) (connection : UniqueDescriptor) : Impl :=
  (s.closeDescriptor connection.descriptor).setOwner connection.id .nobody

/-- The critical section of the registration. -/
def register (s : Impl) (connection : UniqueDescriptor) : Impl :=
  { s.setOwner connection.id .registered with
    activeConnections :=
      (s.activeConnections.emplace connection.descriptor connection.descriptor).1 }

/-- The critical section at the end of `serve_connection`. -/
def unregister (s : Impl) (connection : UniqueDescriptor) : Impl :=
  { s.setOwner connection.id .handler with
    activeConnections := s.activeConnections.erase connection.descriptor }

/-- `fetch_add` on `active_handlers`. -/
def reserveSlot (s : Impl) (id : Nat) : Impl :=
  { s.note id (fun accepted => { accepted with slot := true }) with
    activeHandlers := s.activeHandlers + 1 }

/-- `fetch_sub` on `active_handlers`. -/
def releaseSlot (s : Impl) (id : Nat) : Impl :=
  { s.note id (fun accepted => { accepted with slot := false }) with
    activeHandlers := s.activeHandlers - 1 }

/-- `run` has a record whose thread has started. The record is visible to no other thread in
between. -/
def launch (s : Impl) (id : Nat) : Impl :=
  { s.note id (fun accepted =>
      { accepted with owner := .closure, launches := accepted.launches + 1 }) with
    handlers := s.handlers ++ [id] }

/-- `join` of a thread that has exited. -/
def join (s : Impl) (id : Nat) : Impl :=
  s.note id fun accepted => { accepted with joins := accepted.joins + 1 }

end Impl

/-! ## Stopping -/

/-- Where a call of `stop()` stands. -/
inductive StopStage where
  | entered
  /-- this call has set the flag -/
  | claimed
  | closing (listener : Nat)
  | locking
  /-- holding `connections_mutex`, with the keys that are still to be visited -/
  | walking (rest : List Nat)
  | returned

/-- `Server::Impl::stop`, called by thread `i`. -/
def stopStep (i : Nat) (s : Impl) : StopStage → Option (Impl × StopStage)
  | .entered =>
    if s.stopping then some (s, .returned) else some ({ s with stopping := true }, .claimed)
  | .claimed =>
    match s.listenerFd with
    | some listener => some ({ s with listenerFd := none }, .closing listener)
    | none => some (s, .locking)
  | .closing listener => some ((s.shutdownDescriptor listener).closeDescriptor listener, .locking)
  | .locking =>
    locking s.connectionsMutex <|
      some ({ s with connectionsMutex := some i },
        .walking (s.activeConnections.entries.map Prod.fst))
  | .walking (descriptor :: rest) => some (s.shutdownDescriptor descriptor, .walking rest)
  | .walking [] => some ({ s with connectionsMutex := none, walked := true }, .returned)
  | .returned => none

/-- What a step of `stop()` can be. -/
inductive StopMove (i : Nat) (s : Impl) : StopStage → Impl → StopStage → Prop where
  | late (hstopping : s.stopping = true) : StopMove i s .entered s .returned
  | claim (hstopping : s.stopping = false) :
    StopMove i s .entered { s with stopping := true } .claimed
  | take {listener : Nat} (hlistener : s.listenerFd = some listener) :
    StopMove i s .claimed { s with listenerFd := none } (.closing listener)
  | bare (hlistener : s.listenerFd = none) : StopMove i s .claimed s .locking
  | close (listener : Nat) :
    StopMove i s (.closing listener) ((s.shutdownDescriptor listener).closeDescriptor listener)
      .locking
  | lock (hmutex : s.connectionsMutex = none) :
    StopMove i s .locking { s with connectionsMutex := some i }
      (.walking (s.activeConnections.entries.map Prod.fst))
  | visit (descriptor : Nat) (rest : List Nat) :
    StopMove i s (.walking (descriptor :: rest)) (s.shutdownDescriptor descriptor) (.walking rest)
  | unlock :
    StopMove i s (.walking []) { s with connectionsMutex := none, walked := true } .returned

theorem stopMove {i : Nat} {s s' : Impl} {stage stage' : StopStage}
    (h : stopStep i s stage = some (s', stage')) : StopMove i s stage s' stage' := by
  unfold stopStep at h
  split at h
  · split at h <;> cases h
    · exact .late ‹_›
    · exact .claim (Bool.eq_false_iff.mpr ‹_›)
  · split at h <;> cases h
    · exact .take ‹_›
    · exact .bare ‹_›
  · cases h
    exact .close _
  · obtain ⟨hmutex, h⟩ := locking_eq_some h
    cases h
    exact .lock hmutex
  · cases h
    exact .visit _ _
  · cases h
    exact .unlock
  · cases h

variable [Kernel]

/-! ## Handlers -/

/-- Where the thread of a handler stands. -/
inductive HandlerStage where
  | registering
  /-- the registration has thrown -/
  | refusing (report : ReportFaults)
  | entered (entry : Entry)
  /-- in front of the test of `stopping` -/
  | testing
  /-- inside of the loop, where frames are read -/
  | serving
  | recovering (exception : Raised) (report : ReportFaults)
  /-- in front of the common tail -/
  | leaving
  | stopping (stage : StopStage)
  | unregistering
  /-- `serve_connection` returns and destroys its argument -/
  | returning
  /-- the destructor of `HandlerCompletion` -/
  | completing
  | settling
  | exiting
  | ended

/-- The thread of a handler: its argument and the locals of `serve_connection`. -/
structure HandlerThread where
  connection : UniqueDescriptor
  handler : Handler
  stage : HandlerStage

/-- How an admission is settled that throws: whether the descriptor had been moved into the
closure, which is then destroyed at once. -/
inductive Choice where
  | go
  | accept (descriptor : Nat) (peer : Handler)
  | reject
  | fail
  | throw (moved : Bool)
  | report (faults : ReportFaults)
  | enter (entry : Entry)
  | turn (turn : Turn)
  | openFile (descriptor : Nat)
  | closeFile (descriptor : Nat)

/-- One step of `Server::Impl::serve_connection` and of the closure around it. -/
def handlerStep (i : Nat) (s : Impl) (l : HandlerThread) (choice : Choice) :
    Option (Impl × HandlerThread) :=
  match l.stage, choice with
  | .registering, .enter entry =>
    locking s.connectionsMutex <|
      if entry.registration then some (s, { l with stage := .refusing entry.report })
      else some (s.register l.connection, { l with stage := .entered entry })
  | .refusing report, .go =>
    match writeProtocolFailureCode report l.connection.descriptor .resourceExhausted
      l.handler.outgoing with
    | .blocked _ => none
    | .returned _ outgoing =>
      some (s, { l with handler := l.handler.sent outgoing, stage := .returning })
  | .entered entry, .go =>
    match entry.primary with
    | some exception => some (s, { l with stage := .recovering exception entry.report })
    | none => some (s, { l with stage := .testing })
  | .testing, .go => some (s, { l with stage := if s.stopping then .leaving else .serving })
  | .serving, .turn turn =>
    if turn.stopping then none
    else
      match serveTurn l.connection.descriptor turn l.handler with
      | .again handler => some (s, { l with handler := handler, stage := .testing })
      | .waiting _ => none
      | .left handler => some (s, { l with handler := handler, stage := .leaving })
      | .raised exception handler =>
        some (s, { l with handler := handler, stage := .recovering exception turn.report })
  | .recovering exception report, .go =>
    match recover l.connection.descriptor report exception l.handler with
    | .serving _ => none
    | .left handler => some (s, { l with handler := handler, stage := .leaving })
  | .leaving, .go =>
    some (s, { l with
      stage := if l.handler.acceptedShutdown then .stopping .entered else .unregistering })
  | .stopping .returned, .go => some (s, { l with stage := .unregistering })
  | .stopping stage, .go =>
    (stopStep i s stage).map fun result => (result.1, { l with stage := .stopping result.2 })
  | .unregistering, .go =>
    locking s.connectionsMutex <|
      some (s.unregister l.connection, { l with stage := .returning })
  | .returning, .go => some (s.close l.connection, { l with stage := .completing })
  | .completing, .go =>
    some ({ s with finished := l.connection.id :: s.finished }, { l with stage := .settling })
  | .settling, .go => some (s.releaseSlot l.connection.id, { l with stage := .exiting })
  | .exiting, .go =>
    some ({ s with exited := l.connection.id :: s.exited }, { l with stage := .ended })
  | _, _ => none

/-- A step of a handler that changes nothing but its own locals. -/
inductive Advance (s : Impl) (descriptor : Nat) :
    Handler → HandlerStage → Handler → HandlerStage → Prop where
  | refused {handler : Handler} {report : ReportFaults} {outgoing : Outgoing}
    (hreport : writeProtocolFailureCode report descriptor .resourceExhausted handler.outgoing =
      .returned () outgoing) :
    Advance s descriptor handler (.refusing report) (handler.sent outgoing) .returning
  | hooked {handler : Handler} {entry : Entry} {exception : Raised}
    (hprimary : entry.primary = some exception) :
    Advance s descriptor handler (.entered entry) handler (.recovering exception entry.report)
  | entered {handler : Handler} {entry : Entry} (hprimary : entry.primary = none) :
    Advance s descriptor handler (.entered entry) handler .testing
  | warned {handler : Handler} (hstopping : s.stopping = true) :
    Advance s descriptor handler .testing handler .leaving
  | serves {handler : Handler} (hstopping : s.stopping = false) :
    Advance s descriptor handler .testing handler .serving
  | again {handler handler' : Handler} {turn : Turn} (hflag : turn.stopping = false)
    (hturn : serveTurn descriptor turn handler = .again handler') :
    Advance s descriptor handler .serving handler' .testing
  | left {handler handler' : Handler} {turn : Turn} (hflag : turn.stopping = false)
    (hturn : serveTurn descriptor turn handler = .left handler') :
    Advance s descriptor handler .serving handler' .leaving
  | raised {handler handler' : Handler} {turn : Turn} {exception : Raised}
    (hflag : turn.stopping = false)
    (hturn : serveTurn descriptor turn handler = .raised exception handler') :
    Advance s descriptor handler .serving handler' (.recovering exception turn.report)
  | recovered {handler handler' : Handler} {report : ReportFaults} {exception : Raised}
    (hrecover : recover descriptor report exception handler = .left handler') :
    Advance s descriptor handler (.recovering exception report) handler' .leaving
  | shutdown {handler : Handler} (haccepted : handler.acceptedShutdown = true) :
    Advance s descriptor handler .leaving handler (.stopping .entered)
  | departs {handler : Handler} (haccepted : handler.acceptedShutdown = false) :
    Advance s descriptor handler .leaving handler .unregistering
  | stopped {handler : Handler} :
    Advance s descriptor handler (.stopping .returned) handler .unregistering

/-- What a step of a handler can be. -/
inductive HandlerMove (i : Nat) (s : Impl) (connection : UniqueDescriptor) :
    Handler → HandlerStage → Impl → Handler → HandlerStage → Prop where
  | refuse {handler : Handler} (entry : Entry) (hmutex : s.connectionsMutex = none)
    (hregistration : entry.registration = true) :
    HandlerMove i s connection handler .registering s handler (.refusing entry.report)
  | register {handler : Handler} (entry : Entry) (hmutex : s.connectionsMutex = none)
    (hregistration : entry.registration = false) :
    HandlerMove i s connection handler .registering (s.register connection) handler
      (.entered entry)
  | advance {handler handler' : Handler} {stage stage' : HandlerStage}
    (hadvance : Advance s connection.descriptor handler stage handler' stage') :
    HandlerMove i s connection handler stage s handler' stage'
  | stop {handler : Handler} {stage stage' : StopStage} {s' : Impl}
    (hmove : StopMove i s stage s' stage') :
    HandlerMove i s connection handler (.stopping stage) s' handler (.stopping stage')
  | unregister {handler : Handler} (hmutex : s.connectionsMutex = none) :
    HandlerMove i s connection handler .unregistering (s.unregister connection) handler .returning
  | close {handler : Handler} :
    HandlerMove i s connection handler .returning (s.close connection) handler .completing
  | finish {handler : Handler} :
    HandlerMove i s connection handler .completing
      { s with finished := connection.id :: s.finished } handler .settling
  | settle {handler : Handler} :
    HandlerMove i s connection handler .settling (s.releaseSlot connection.id) handler .exiting
  | exit {handler : Handler} :
    HandlerMove i s connection handler .exiting
      { s with exited := connection.id :: s.exited } handler .ended

theorem handlerMove {i : Nat} {s s' : Impl} {l l' : HandlerThread} {choice : Choice}
    (h : handlerStep i s l choice = some (s', l')) :
    l'.connection = l.connection ∧
      HandlerMove i s l.connection l.handler l.stage s' l'.handler l'.stage := by
  obtain ⟨connection, handler, stage⟩ := l
  unfold handlerStep at h
  dsimp only at h ⊢
  split at h
  · obtain ⟨hmutex, h⟩ := locking_eq_some h
    split at h <;> cases h
    · exact ⟨rfl, .refuse _ hmutex ‹_›⟩
    · exact ⟨rfl, .register _ hmutex (Bool.eq_false_iff.mpr ‹_›)⟩
  · split at h <;> cases h
    exact ⟨rfl, .advance (.refused ‹_›)⟩
  · split at h <;> cases h
    · exact ⟨rfl, .advance (.hooked ‹_›)⟩
    · exact ⟨rfl, .advance (.entered ‹_›)⟩
  · cases h
    by_cases hstopping : s.stopping = true
    · rw [if_pos hstopping]
      exact ⟨rfl, .advance (.warned hstopping)⟩
    · rw [if_neg hstopping]
      exact ⟨rfl, .advance (.serves (Bool.eq_false_iff.mpr hstopping))⟩
  · split at h
    · cases h
    · have hflag := Bool.eq_false_iff.mpr ‹_›
      split at h <;> cases h
      · exact ⟨rfl, .advance (.again hflag ‹_›)⟩
      · exact ⟨rfl, .advance (.left hflag ‹_›)⟩
      · exact ⟨rfl, .advance (.raised hflag ‹_›)⟩
  · split at h <;> cases h
    exact ⟨rfl, .advance (.recovered ‹_›)⟩
  · cases h
    by_cases haccepted : handler.acceptedShutdown = true
    · rw [if_pos haccepted]
      exact ⟨rfl, .advance (.shutdown haccepted)⟩
    · rw [if_neg haccepted]
      exact ⟨rfl, .advance (.departs (Bool.eq_false_iff.mpr haccepted))⟩
  · cases h
    exact ⟨rfl, .advance .stopped⟩
  · obtain ⟨result, hstop, heq⟩ := Option.map_eq_some_iff.mp h
    cases heq
    exact ⟨rfl, .stop (stopMove hstop)⟩
  · obtain ⟨hmutex, h⟩ := locking_eq_some h
    cases h
    exact ⟨rfl, .unregister hmutex⟩
  · cases h
    exact ⟨rfl, .close⟩
  · cases h
    exact ⟨rfl, .finish⟩
  · cases h
    exact ⟨rfl, .settle⟩
  · cases h
    exact ⟨rfl, .exit⟩
  · cases h

/-! ## The accept loop -/

/-- `SameUserAcceptResult`. -/
inductive AcceptResult where
  | accepted (connection : UniqueDescriptor)
  | peerRejected
  | fatalFailure

/-- Where a call of `run()` stands. The last stages, which the destructor of the server shares,
carry the descriptor that is only closed when an exception leaves the loop body. -/
inductive RunStage where
  | entering
  | testing
  | loading
  | accepting
  /-- `prepare_stream` and `verify_same_user` -/
  | preparing (connection : UniqueDescriptor)
  | accepted (result : AcceptResult)
  /-- the `stop()` for a fatal failure -/
  | failing (stage : StopStage)
  | reaping (connection : UniqueDescriptor) (index : Nat)
  | counting (connection : UniqueDescriptor)
  | rejecting (connection : UniqueDescriptor)
  | admitting (connection : UniqueDescriptor)
  | launching (connection : UniqueDescriptor)
  /-- the `catch` clause: whether the descriptor was moved into the closure, and `slot_reserved` -/
  | unwinding (connection : UniqueDescriptor) (moved slotReserved : Bool)
  | stopping (stage : StopStage) (held : Option UniqueDescriptor)
  | joining (owned : List Nat) (held : Option UniqueDescriptor)
  /-- an exception has left `run()` without a join -/
  | thrown
  | ended

/-- The sentinel of a connection for which there is no handler. -/
def capacityFailure : Status :=
  Status.failure .resourceExhausted (ascii "active connection capacity is exhausted")

/-- What is left of a descriptor that may have been moved. -/
def UniqueDescriptor.kept (connection : UniqueDescriptor) : Bool → Option UniqueDescriptor
  | true => none
  | false => some connection

/-- A connection that goes out of scope. -/
def closeHeld (s : Impl) : Option UniqueDescriptor → Impl
  | some connection => s.close connection
  | none => s

/-- An exception leaves `run()` at once. -/
def Impl.throw (s : Impl) : Impl := { s with failed := true, lifetime := .idle }

/-- `run()` or the destructor returns. -/
def Impl.leave (s : Impl) : Impl :=
  { s with lifetime := if s.lifetime = .running then .idle else s.lifetime }

/-- One step of `Server::run`, and of the destructor, which shares its last stages. -/
def runStep (i : Nat) (s : Impl) (stage : RunStage) (choice : Choice) : Option (Impl × RunStage) :=
  match stage, choice with
  | .entering, .go =>
    if s.lifetime ≠ .idle then none
    else if s.stopping then some (s, .ended)
    else some ({ s with lifetime := .running }, .testing)
  | .testing, .go => some (s, if s.stopping then .stopping .entered none else .loading)
  | .loading, .go =>
    some (s, if s.listenerFd.isNone then .stopping .entered none else .accepting)
  | .accepting, .accept descriptor peer =>
    if (s.descriptors.find? descriptor).isSome then none
    else some (s.accept descriptor peer, .preparing ⟨s.connections.length, descriptor⟩)
  | .accepting, .fail => some (s, .accepted .fatalFailure)
  | .accepting, .throw _ => some (s.throw, .thrown)
  | .preparing connection, .go =>
    some (s.note connection.id fun accepted => { accepted with verified := true },
      .accepted (.accepted connection))
  | .preparing connection, .reject => some (s.close connection, .accepted .peerRejected)
  | .preparing connection, .fail => some (s.close connection, .accepted .fatalFailure)
  | .preparing connection, .throw _ => some ((s.close connection).throw, .thrown)
  | .accepted (.accepted connection), .go =>
    if s.stopping then some (s.close connection, .stopping .entered none)
    else some (s, .reaping connection 0)
  | .accepted .peerRejected, .go =>
    some (s, if s.stopping then .stopping .entered none else .testing)
  | .accepted .fatalFailure, .go =>
    some (s, if s.stopping then .stopping .entered none else .failing .entered)
  | .failing .returned, .go => some (s, .stopping .entered none)
  | .failing stage, .go =>
    (stopStep i s stage).map fun result => (result.1, .failing result.2)
  | .reaping connection index, .go =>
    match s.handlers[index]? with
    | none => some (s, .counting connection)
    | some record =>
      if record ∉ s.finished then some (s, .reaping connection (index + 1))
      else if record ∈ s.exited then
        some ({ s.join record with handlers := s.handlers.eraseIdx index },
          .reaping connection index)
      else none
  | .counting connection, .go =>
    some (s, if s.activeHandlers ≥ s.maximumActiveConnections then .rejecting connection
      else .admitting connection)
  | .rejecting connection, .report faults =>
    match s.connections[connection.id]? with
    | none => none
    | some accepted =>
      match writeProtocolFailure faults connection.descriptor capacityFailure none none
        accepted.peer.outgoing with
      | .blocked _ => none
      | .returned _ _ =>
        let s := s.note connection.id fun accepted =>
          { accepted with sentinels := accepted.sentinels + 1 }
        some (s.close connection, .testing)
  | .rejecting connection, .throw _ => some ((s.close connection).throw, .thrown)
  | .admitting connection, .go => some (s.reserveSlot connection.id, .launching connection)
  | .admitting connection, .throw _ =>
    some ({ s with failed := true }, .unwinding connection false false)
  | .launching connection, .go => some (s.launch connection.id, .testing)
  | .launching connection, .throw moved =>
    let s := { s with failed := true }
    some (if moved then s.close connection else s, .unwinding connection moved true)
  | .unwinding connection moved slotReserved, .go =>
    some (if slotReserved then s.releaseSlot connection.id else s,
      .stopping .entered (connection.kept moved))
  | .stopping .returned held, .go => some ({ s with handlers := [] }, .joining s.handlers held)
  | .stopping stage held, .go =>
    (stopStep i s stage).map fun result => (result.1, .stopping result.2 held)
  | .joining (record :: owned) held, .go =>
    if record ∈ s.exited then some (s.join record, .joining owned held) else none
  | .joining [] held, .go => some ((closeHeld s held).leave, .ended)
  | _, _ => none

/-- A step of the accept loop that changes nothing shared. -/
inductive RunAdvance (s : Impl) : RunStage → RunStage → Prop where
  | idle (hstopping : s.stopping = true) : RunAdvance s .entering .ended
  | stops (hstopping : s.stopping = true) : RunAdvance s .testing (.stopping .entered none)
  | loads (hstopping : s.stopping = false) : RunAdvance s .testing .loading
  | bare (hlistener : s.listenerFd.isNone = true) :
    RunAdvance s .loading (.stopping .entered none)
  | accepts (hlistener : s.listenerFd.isNone = false) : RunAdvance s .loading .accepting
  | fails : RunAdvance s .accepting (.accepted .fatalFailure)
  | reaps {connection : UniqueDescriptor} (hstopping : s.stopping = false) :
    RunAdvance s (.accepted (.accepted connection)) (.reaping connection 0)
  | rejectedLate (hstopping : s.stopping = true) :
    RunAdvance s (.accepted .peerRejected) (.stopping .entered none)
  | rejected (hstopping : s.stopping = false) : RunAdvance s (.accepted .peerRejected) .testing
  | fatalLate (hstopping : s.stopping = true) :
    RunAdvance s (.accepted .fatalFailure) (.stopping .entered none)
  | fatal (hstopping : s.stopping = false) :
    RunAdvance s (.accepted .fatalFailure) (.failing .entered)
  | failed : RunAdvance s (.failing .returned) (.stopping .entered none)
  | reaped {connection : UniqueDescriptor} {index : Nat} (hrecord : s.handlers[index]? = none) :
    RunAdvance s (.reaping connection index) (.counting connection)
  | passes {connection : UniqueDescriptor} {index record : Nat}
    (hrecord : s.handlers[index]? = some record) (hfinished : record ∉ s.finished) :
    RunAdvance s (.reaping connection index) (.reaping connection (index + 1))
  | full {connection : UniqueDescriptor}
    (hfull : s.activeHandlers ≥ s.maximumActiveConnections) :
    RunAdvance s (.counting connection) (.rejecting connection)
  | free {connection : UniqueDescriptor}
    (hfree : ¬ s.activeHandlers ≥ s.maximumActiveConnections) :
    RunAdvance s (.counting connection) (.admitting connection)
  | unwinds {connection : UniqueDescriptor} {moved : Bool} :
    RunAdvance s (.unwinding connection moved false) (.stopping .entered (connection.kept moved))

/-- What a step of the accept loop can be. -/
inductive RunMove (i : Nat) (s : Impl) : RunStage → Impl → RunStage → Prop where
  | advance {stage stage' : RunStage} (hadvance : RunAdvance s stage stage') :
    RunMove i s stage s stage'
  | begin (hlifetime : s.lifetime = .idle) (hstopping : s.stopping = false) :
    RunMove i s .entering { s with lifetime := .running } .testing
  | accept {descriptor : Nat} {peer : Handler} (hnew : s.descriptors.find? descriptor = none) :
    RunMove i s .accepting (s.accept descriptor peer)
      (.preparing ⟨s.connections.length, descriptor⟩)
  | throws : RunMove i s .accepting s.throw .thrown
  | verify {connection : UniqueDescriptor} :
    RunMove i s (.preparing connection)
      (s.note connection.id fun accepted => { accepted with verified := true })
      (.accepted (.accepted connection))
  | rejectPeer {connection : UniqueDescriptor} :
    RunMove i s (.preparing connection) (s.close connection) (.accepted .peerRejected)
  | failPeer {connection : UniqueDescriptor} :
    RunMove i s (.preparing connection) (s.close connection) (.accepted .fatalFailure)
  | throwPeer {connection : UniqueDescriptor} :
    RunMove i s (.preparing connection) (s.close connection).throw .thrown
  | drop {connection : UniqueDescriptor} (hstopping : s.stopping = true) :
    RunMove i s (.accepted (.accepted connection)) (s.close connection) (.stopping .entered none)
  | failing {stage stage' : StopStage} {s' : Impl} (hmove : StopMove i s stage s' stage') :
    RunMove i s (.failing stage) s' (.failing stage')
  | reap {connection : UniqueDescriptor} {index record : Nat}
    (hrecord : s.handlers[index]? = some record) (hfinished : record ∈ s.finished)
    (hexited : record ∈ s.exited) :
    RunMove i s (.reaping connection index)
      { s.join record with handlers := s.handlers.eraseIdx index } (.reaping connection index)
  | sentinel {connection : UniqueDescriptor} :
    RunMove i s (.rejecting connection)
      ((s.note connection.id fun accepted =>
        { accepted with sentinels := accepted.sentinels + 1 }).close connection) .testing
  | throwFull {connection : UniqueDescriptor} :
    RunMove i s (.rejecting connection) (s.close connection).throw .thrown
  | reserve {connection : UniqueDescriptor} :
    RunMove i s (.admitting connection) (s.reserveSlot connection.id) (.launching connection)
  | throwReserve {connection : UniqueDescriptor} :
    RunMove i s (.admitting connection) { s with failed := true }
      (.unwinding connection false false)
  | launch {connection : UniqueDescriptor} :
    RunMove i s (.launching connection) (s.launch connection.id) .testing
  | throwMoved {connection : UniqueDescriptor} :
    RunMove i s (.launching connection) (({ s with failed := true } : Impl).close connection)
      (.unwinding connection true true)
  | throwLaunch {connection : UniqueDescriptor} :
    RunMove i s (.launching connection) { s with failed := true }
      (.unwinding connection false true)
  | release {connection : UniqueDescriptor} {moved : Bool} :
    RunMove i s (.unwinding connection moved true) (s.releaseSlot connection.id)
      (.stopping .entered (connection.kept moved))
  | stop {stage stage' : StopStage} {s' : Impl} {held : Option UniqueDescriptor}
    (hmove : StopMove i s stage s' stage') :
    RunMove i s (.stopping stage held) s' (.stopping stage' held)
  | swap {held : Option UniqueDescriptor} :
    RunMove i s (.stopping .returned held) { s with handlers := [] } (.joining s.handlers held)
  | join {record : Nat} {owned : List Nat} {held : Option UniqueDescriptor}
    (hexited : record ∈ s.exited) :
    RunMove i s (.joining (record :: owned) held) (s.join record) (.joining owned held)
  | leave {held : Option UniqueDescriptor} :
    RunMove i s (.joining [] held) (closeHeld s held).leave .ended

theorem runMove {i : Nat} {s s' : Impl} {stage stage' : RunStage} {choice : Choice}
    (h : runStep i s stage choice = some (s', stage')) : RunMove i s stage s' stage' := by
  unfold runStep at h
  split at h
  · split at h
    · cases h
    · have hlifetime : s.lifetime = .idle := not_not.mp ‹_›
      split at h <;> cases h
      · exact .advance (.idle ‹_›)
      · exact .begin hlifetime (Bool.eq_false_iff.mpr ‹_›)
  · cases h
    split
    · exact .advance (.stops ‹_›)
    · exact .advance (.loads (Bool.eq_false_iff.mpr ‹_›))
  · cases h
    split
    · exact .advance (.bare ‹_›)
    · exact .advance (.accepts (Bool.eq_false_iff.mpr ‹_›))
  · split at h <;> cases h
    exact .accept (Option.not_isSome_iff_eq_none.mp ‹_›)
  · cases h
    exact .advance .fails
  · cases h
    exact .throws
  · cases h
    exact .verify
  · cases h
    exact .rejectPeer
  · cases h
    exact .failPeer
  · cases h
    exact .throwPeer
  · split at h <;> cases h
    · exact .drop ‹_›
    · exact .advance (.reaps (Bool.eq_false_iff.mpr ‹_›))
  · cases h
    split
    · exact .advance (.rejectedLate ‹_›)
    · exact .advance (.rejected (Bool.eq_false_iff.mpr ‹_›))
  · cases h
    split
    · exact .advance (.fatalLate ‹_›)
    · exact .advance (.fatal (Bool.eq_false_iff.mpr ‹_›))
  · cases h
    exact .advance .failed
  · obtain ⟨result, hstop, heq⟩ := Option.map_eq_some_iff.mp h
    cases heq
    exact .failing (stopMove hstop)
  · split at h
    · cases h
      exact .advance (.reaped ‹_›)
    · split at h
      · cases h
        exact .advance (.passes ‹_› ‹_›)
      · have hfinished := not_not.mp ‹_›
        split at h <;> cases h
        exact .reap ‹_› hfinished ‹_›
  · cases h
    split
    · exact .advance (.full ‹_›)
    · exact .advance (.free ‹_›)
  · split at h
    · cases h
    · split at h <;> cases h
      exact .sentinel
  · cases h
    exact .throwFull
  · cases h
    exact .reserve
  · cases h
    exact .throwReserve
  · cases h
    exact .launch
  · cases h
    split
    · rename_i hmoved
      subst hmoved
      exact .throwMoved
    · rename_i hmoved
      cases Bool.eq_false_iff.mpr hmoved
      exact .throwLaunch
  · cases h
    split
    · rename_i hreserved
      subst hreserved
      exact .release
    · rename_i hreserved
      cases Bool.eq_false_iff.mpr hreserved
      exact .advance .unwinds
  · cases h
    exact .swap
  · obtain ⟨result, hstop, heq⟩ := Option.map_eq_some_iff.mp h
    cases heq
    exact .stop (stopMove hstop)
  · split at h <;> cases h
    exact .join ‹_›
  · cases h
    exact .leave
  · cases h

/-! ## The threads -/

inductive Thread where
  | run (stage : RunStage)
  /-- the destructor of the server -/
  | destroy (stage : RunStage)
  /-- the thread of a handler before it has begun -/
  | launched (id : Nat)
  | handler (thread : HandlerThread)
  | stop (stage : StopStage)
  /-- some other part of the process -/
  | elsewhere

/-- The threads that may come up at any time. That of a handler only begins when `run` has started
it. -/
inductive Call where
  | stop
  | destroy
  | handler (id : Nat)
  | elsewhere

/-- One step of a thread. -/
def threadStep (i : Nat) (s : Impl) (thread : Thread) (choice : Choice) : Option (Impl × Thread) :=
  match thread, choice with
  | .run stage, choice => (runStep i s stage choice).map fun result => (result.1, .run result.2)
  | .destroy .entering, .go =>
    if s.lifetime ≠ .idle then none
    else some ({ s with lifetime := .destroyed }, .destroy (.stopping .entered none))
  | .destroy .entering, _ => none
  | .destroy stage, choice =>
    (runStep i s stage choice).map fun result => (result.1, .destroy result.2)
  | .launched id, .go =>
    match s.connections[id]? with
    | none => none
    | some accepted =>
      if accepted.owner = .closure then
        some (s.setOwner id .handler,
          .handler ⟨⟨id, accepted.descriptor⟩, accepted.peer, .registering⟩)
      else none
  | .handler l, choice =>
    (handlerStep i s l choice).map fun result => (result.1, .handler result.2)
  | .stop stage, .go => (stopStep i s stage).map fun result => (result.1, .stop result.2)
  | .elsewhere, .openFile descriptor =>
    if (s.descriptors.find? descriptor).isSome then none
    else some (s.openDescriptor descriptor .other, .elsewhere)
  | .elsewhere, .closeFile descriptor =>
    if s.descriptors.find? descriptor = some .other then
      some (s.closeDescriptor descriptor, .elsewhere)
    else none
  | _, _ => none

/-- The server: one thread calls `run()`, and any thread may call `stop()`. -/
def server : Program Impl Thread Choice Call where
  start
    | .stop => .stop .entered
    | .destroy => .destroy .entering
    | .handler id => .launched id
    | .elsewhere => .elsewhere
  step := threadStep

omit [Kernel] in
def initial (listener : Nat) (maximumActiveConnections : UInt32) : Config Impl Thread :=
  ⟨Impl.bound listener maximumActiveConnections, [.run .entering]⟩

/-- The configurations that an interleaving of accepts, handlers, stops and everything else in
the process can reach. -/
def Reachable (listener : Nat) (maximumActiveConnections : UInt32)
    (c : Config Impl Thread) : Prop :=
  server.Leads (fun _ => True) (initial listener maximumActiveConnections) c

/-- What a step of a thread can be. -/
inductive ThreadMove (i : Nat) (s : Impl) : Thread → Impl → Thread → Prop where
  | run {stage stage' : RunStage} {s' : Impl} (hmove : RunMove i s stage s' stage') :
    ThreadMove i s (.run stage) s' (.run stage')
  | destroy (hlifetime : s.lifetime = .idle) :
    ThreadMove i s (.destroy .entering) { s with lifetime := .destroyed }
      (.destroy (.stopping .entered none))
  | destroying {stage stage' : RunStage} {s' : Impl} (hstage : stage ≠ .entering)
    (hmove : RunMove i s stage s' stage') : ThreadMove i s (.destroy stage) s' (.destroy stage')
  | begin {id : Nat} {accepted : Accepted} (haccepted : s.connections[id]? = some accepted)
    (howner : accepted.owner = .closure) :
    ThreadMove i s (.launched id) (s.setOwner id .handler)
      (.handler ⟨⟨id, accepted.descriptor⟩, accepted.peer, .registering⟩)
  | handler {connection : UniqueDescriptor} {handler handler' : Handler}
    {stage stage' : HandlerStage} {s' : Impl}
    (hmove : HandlerMove i s connection handler stage s' handler' stage') :
    ThreadMove i s (.handler ⟨connection, handler, stage⟩) s'
      (.handler ⟨connection, handler', stage'⟩)
  | stop {stage stage' : StopStage} {s' : Impl} (hmove : StopMove i s stage s' stage') :
    ThreadMove i s (.stop stage) s' (.stop stage')
  | openFile {descriptor : Nat} (hnew : s.descriptors.find? descriptor = none) :
    ThreadMove i s .elsewhere (s.openDescriptor descriptor .other) .elsewhere
  | closeFile {descriptor : Nat} (hopen : s.descriptors.find? descriptor = some .other) :
    ThreadMove i s .elsewhere (s.closeDescriptor descriptor) .elsewhere

theorem threadMove {c : Config Impl Thread} {i : Nat} {l l' : Thread} {choice : Choice} {s' : Impl}
    (h : server.Moves c i l choice s' l') : ThreadMove i c.shared l s' l' := by
  have hstep : threadStep i c.shared l choice = some (s', l') := h.step
  unfold threadStep at hstep
  split at hstep
  · obtain ⟨result, hrun, heq⟩ := Option.map_eq_some_iff.mp hstep
    cases heq
    exact .run (runMove hrun)
  · split at hstep <;> cases hstep
    exact .destroy (not_not.mp ‹_›)
  · cases hstep
  · rename_i stage _ hother _
    obtain ⟨result, hrun, heq⟩ := Option.map_eq_some_iff.mp hstep
    cases heq
    refine .destroying ?_ (runMove hrun)
    rintro rfl
    exact hother rfl
  · split at hstep
    · cases hstep
    · split at hstep <;> cases hstep
      exact .begin ‹_› ‹_›
  · obtain ⟨⟨s₁, l₁⟩, hhandler, heq⟩ := Option.map_eq_some_iff.mp hstep
    cases heq
    obtain ⟨hconnection, hmove⟩ := handlerMove hhandler
    obtain ⟨connection', handler', stage'⟩ := l₁
    cases hconnection
    exact .handler hmove
  · obtain ⟨result, hstop, heq⟩ := Option.map_eq_some_iff.mp hstep
    cases heq
    exact .stop (stopMove hstop)
  · split at hstep <;> cases hstep
    exact .openFile (Option.not_isSome_iff_eq_none.mp ‹_›)
  · split at hstep <;> cases hstep
    exact .closeFile ‹_›
  · cases hstep

end PhotospiderDaemon.Server.Connections
