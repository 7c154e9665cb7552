import Mathlib.Logic.Relation
import PhotospiderDaemon.Foundation.FileSystem
import PhotospiderDaemon.Ipc.Protocol

/-!
# The socket node of a listener

`SocketNodeGuard` and `create_unix_listener_impl` of `src/lib/ipc/unix_socket.cpp`, one system
call at a time, in a file system that other processes change between the calls. A descriptor
of a directory is the identity of the directory it was opened on.
-/

namespace PhotospiderDaemon.Ipc

open Foundation FileSystem

/-! ## Paths -/

/-- `sizeof(sockaddr_un::sun_path)`. -/
def sunPathSize : Nat := 108

/-- What `validate_unix_socket_path` accepts. -/
def validUnixSocketPath (path : Bytes) : Bool :=
  !path.isEmpty && path.length < sunPathSize && !path.contains 0

/-- `find_last_of('/')`. -/
def lastSeparator (path : Bytes) : Option Nat :=
  (path.reverse.findIdx? (· = 0x2f)).map fun behind => path.length - 1 - behind

/-- `SocketPathParts`: the path of the parent and the name of the entry. -/
def socketPathParts (path : Bytes) : Bytes × Bytes :=
  match lastSeparator path with
  | none => (ascii ".", path)
  | some separator =>
      (if separator = 0 then ascii "/" else path.take separator, path.drop (separator + 1))

def splitSocketPath (path : Bytes) : Option (Bytes × Bytes) :=
  let parts := socketPathParts path
  if parts.2 = [] ∨ parts.2 = ascii "." ∨ parts.2 = ascii ".." then none else some parts

/-! ## The guard -/

inductive GuardState where
  | empty
  | prepared
  | armed
  | consumed
deriving DecidableEq, Repr

structure SocketNodeGuard where
  parentDirectory : Option Identity := none
  parentPath : Bytes := []
  leafName : Bytes := []
  parentIdentity : Identity := ⟨0, 0⟩
  nodeIdentity : Identity := ⟨0, 0⟩
  state : GuardState := .empty
deriving DecidableEq, Repr

namespace SocketNodeGuard

/-- The constructor with arguments. -/
def prepare (parentDirectory : Option Identity) (parentPath leafName : Bytes)
    (parentIdentity : Identity) : SocketNodeGuard where
  parentDirectory := parentDirectory
  parentPath := parentPath
  leafName := leafName
  parentIdentity := parentIdentity
  state := if parentDirectory.isSome && !parentPath.isEmpty && !leafName.isEmpty then .prepared
    else .empty

def arm (guard : SocketNodeGuard) (nodeIdentity : Identity) : SocketNodeGuard :=
  if guard.state = .prepared then { guard with nodeIdentity := nodeIdentity, state := .armed }
  else guard

def abandonUnverifiedBind (guard : SocketNodeGuard) : SocketNodeGuard :=
  if guard.state = .prepared then { guard with state := .consumed } else guard

/-- What a move leaves of its source. Nothing reads the strings of such a guard. -/
def movedFrom (guard : SocketNodeGuard) : SocketNodeGuard :=
  { guard with parentDirectory := none, parentPath := [], leafName := [], state := .empty }

/-- The first lines of `remove`: the state is exchanged for `Consumed` whatever it was. -/
def consume (guard : SocketNodeGuard) : SocketNodeGuard :=
  { guard with state := .consumed }

def removable (guard : SocketNodeGuard) : Bool :=
  guard.state = .armed && guard.parentDirectory.isSome

end SocketNodeGuard

/-! ## The process -/

/-- One generation of a socket node: the entry `leaf` of a directory that `parent` led to. -/
structure SocketNode where
  parent : Bytes
  directory : Identity
  leaf : Bytes
  identity : Identity
deriving DecidableEq, Repr

inductive ListenerResult where
  /-- A listener whose guard is at this address. -/
  | listener (address : Nat)
  | failure (status : Status)
  /-- `std::bad_alloc`. -/
  | exception
deriving DecidableEq, Repr

def ListenerResult.Failed : ListenerResult → Prop
  | .listener _ => False
  | _ => True

/-- What the process has done and found so far. An `unlinked` event has the identity of the
entry that went, which need not be one the process had in mind. -/
inductive SocketEvent where
  | matched (parent : Bytes) (directory : Identity)
  | bound (node : SocketNode)
  | unlinked (node : SocketNode)
  | returned (result : ListenerResult)
deriving DecidableEq, Repr

/-- The addresses of `socket_node` and of the guard in the result. -/
structure ListenerFrame where
  socketNode : Nat
  result : Nat
deriving DecidableEq, Repr

/-- The next call of `create_unix_listener_impl` before it has `socket_node`. -/
inductive Preparation where
  | validate (path : Bytes) (backlog : Int)
  | openParent (parent leaf : Bytes)
  | statParent (parent leaf : Bytes) (directory : Identity)
  | matchParent (parent leaf : Bytes) (directory : Identity)
  | probe (parent leaf : Bytes) (directory : Identity)
deriving DecidableEq, Repr

/-- The next call of `create_unix_listener_impl` when it has `socket_node`. -/
inductive Listening where
  | createSocket
  | bind
  | statNode
  | confirmParent (node : Identity)
  | listen
deriving DecidableEq, Repr

/-- The next call of `remove`. -/
inductive Removal where
  | statParent
  | matchParent
  | statNode
  | unlink
deriving DecidableEq, Repr

/-- What follows a call of `remove`. -/
inductive AfterRemoval where
  | done
  | assign (source : Nat)
  | destroyed
  /-- The guard was `socket_node` of a creation with this result. -/
  | unwound (result : ListenerResult)
deriving DecidableEq, Repr

inductive SocketStage where
  | idle
  | preparing (frame : ListenerFrame) (next : Preparation)
  | listening (frame : ListenerFrame) (next : Listening)
  | removing (address : Nat) (next : Removal) (after : AfterRemoval)
deriving DecidableEq, Repr

/-- From `bind` to the end of the identity capture, and between the last check of `remove` and
`unlinkat`. -/
def SocketStage.window : SocketStage → Bool
  | .listening _ .statNode => true
  | .listening _ (.confirmParent _) => true
  | .removing _ .unlink _ => true
  | _ => false

inductive GuardOperation where
  | construct (address : Nat)
  | moveConstruct (address source : Nat)
  | moveAssign (address source : Nat)
  | arm (address : Nat) (identity : Identity)
  | abandonUnverifiedBind (address : Nat)
  | remove (address : Nat)
  | destroy (address : Nat)
  | createUnixListener (frame : ListenerFrame) (path : Bytes) (backlog : Int)
deriving DecidableEq, Repr

/-- How the next step of the process comes out. -/
inductive SocketChoice where
  | start (operation : GuardOperation)
  | succeeds
  /-- `bind` succeeds and the node gets this identity. -/
  | creates (identity : Identity)
  /-- `ENOENT`. -/
  | absent
  | fails (error : Bytes)
  /-- A callee returns this status. -/
  | reports (status : Status)
  /-- The step fails and there is no memory for its status. -/
  | throws
deriving DecidableEq, Repr

section

variable [Kernel]

def ListenerResult.invalidArgument (message : String) : ListenerResult :=
  .failure ⟨Kernel.invalidArgument, ascii message⟩

/-- `errno_status`, or the exception if there is no memory for it. -/
def SocketChoice.errnoStatus (choice : SocketChoice) (action : String) : Option ListenerResult :=
  match choice with
  | .fails error => some (.failure ⟨Kernel.internal, ascii (action ++ ": ") ++ error⟩)
  | .throws => some .exception
  | _ => none

end

structure SocketWorld where
  fs : FileSystem Bytes Bytes
  /-- The guard that lives at an address. -/
  guards : Nat → Option SocketNodeGuard
  stage : SocketStage
  log : List SocketEvent

namespace SocketWorld

def put (w : SocketWorld) (address : Nat) (guard : Option SocketNodeGuard) : SocketWorld :=
  { w with guards := Function.update w.guards address guard }

def enter (w : SocketWorld) (stage : SocketStage) : SocketWorld :=
  { w with stage := stage }

def record (w : SocketWorld) (event : SocketEvent) : SocketWorld :=
  { w with log := w.log ++ [event] }

/-! ### `remove` -/

def afterRemoval (w : SocketWorld) (address : Nat) : AfterRemoval → SocketWorld
  | .done => w.enter .idle
  | .assign source =>
      match w.guards source with
      | none => w.enter .idle
      | some other =>
          ((w.put address (some other)).put source (some other.movedFrom)).enter .idle
  | .destroyed => (w.put address none).enter .idle
  | .unwound result => ((w.put address none).record (.returned result)).enter .idle

def remove (w : SocketWorld) (address : Nat) (guard : SocketNodeGuard) (after : AfterRemoval) :
    SocketWorld :=
  let consumed := w.put address (some guard.consume)
  if guard.removable then consumed.enter (.removing address .statParent after)
  else consumed.afterRemoval address after

/-- `parent_path_matches` with a `stat` that comes out like this. -/
def parentPathMatches (w : SocketWorld) (choice : SocketChoice) (parent : Bytes)
    (identity : Identity) : Bool :=
  choice = .succeeds && w.fs.directoryAt parent = some identity

/-- What `fstatat` finds out about an entry if it is a socket. -/
def socketAt (w : SocketWorld) (choice : SocketChoice) (directory : Identity) (leaf : Bytes) :
    Option Identity :=
  if choice = .succeeds then
    (w.fs.entry directory leaf).filter fun identity => w.fs.kind identity = some .socket
  else none

def removalStep (w : SocketWorld) (choice : SocketChoice) (address : Nat)
    (guard : SocketNodeGuard) (directory : Identity) (after : AfterRemoval) :
    Removal → SocketWorld
  | .statParent =>
      if choice = .succeeds ∧ w.fs.kind directory = some .directory ∧
          directory = guard.parentIdentity then
        w.enter (.removing address .matchParent after)
      else w.afterRemoval address after
  | .matchParent =>
      if w.parentPathMatches choice guard.parentPath guard.parentIdentity then
        (w.record (.matched guard.parentPath guard.parentIdentity)).enter
          (.removing address .statNode after)
      else w.afterRemoval address after
  | .statNode =>
      if w.socketAt choice directory guard.leafName = some guard.nodeIdentity then
        w.enter (.removing address .unlink after)
      else w.afterRemoval address after
  | .unlink =>
      -- the result of `unlinkat` is ignored
      match choice, w.fs.entry directory guard.leafName with
      | .succeeds, some identity =>
          ({ w with fs := w.fs.unlink directory guard.leafName }.record
            (.unlinked ⟨guard.parentPath, directory, guard.leafName, identity⟩)).afterRemoval
            address after
      | _, _ => w.afterRemoval address after

/-! ### `create_unix_listener_impl` -/

def fail (w : SocketWorld) (result : ListenerResult) : SocketWorld :=
  (w.record (.returned result)).enter .idle

variable [Kernel]

def preparationStep (w : SocketWorld) (choice : SocketChoice) (frame : ListenerFrame) :
    Preparation → Option SocketWorld
  | .validate path backlog =>
      if choice = .succeeds then
        if !validUnixSocketPath path then
          some (w.fail (.invalidArgument "Unix-domain socket path is invalid"))
        else if backlog ≤ 0 then
          some (w.fail (.invalidArgument "Unix-domain listener backlog must be positive"))
        else match splitSocketPath path with
          | none => some (w.fail (.invalidArgument "Unix-domain socket leaf is invalid"))
          | some (parent, leaf) => some (w.enter (.preparing frame (.openParent parent leaf)))
      else if choice = .throws then some (w.fail .exception)
      else none
  | .openParent parent leaf =>
      match choice, w.fs.directoryAt parent with
      | .succeeds, some directory =>
          some (w.enter (.preparing frame (.statParent parent leaf directory)))
      | _, _ => (choice.errnoStatus "could not open socket parent directory").map w.fail
  | .statParent parent leaf directory =>
      if choice = .succeeds then
        if w.fs.kind directory = some .directory then
          some (w.enter (.preparing frame (.matchParent parent leaf directory)))
        else some (w.fail (.invalidArgument "socket parent is not a directory"))
      else (choice.errnoStatus "could not inspect socket parent directory").map w.fail
  | .matchParent parent leaf directory =>
      if w.parentPathMatches choice parent directory then
        some ((w.record (.matched parent directory)).enter
          (.preparing frame (.probe parent leaf directory)))
      else if choice = .throws then some (w.fail .exception)
      else some (w.fail (.invalidArgument "socket parent directory identity is not stable"))
  | .probe parent leaf directory =>
      if choice = .absent then
        some ((w.put frame.socketNode
          (some (.prepare (some directory) parent leaf directory))).enter
          (.listening frame .createSocket))
      else if choice = .succeeds then
        if (w.fs.entry directory leaf).isSome then
          some (w.fail (.invalidArgument "listener path already exists"))
        else none
      else (choice.errnoStatus "could not inspect socket path").map w.fail

/-- A return out of the scope of `socket_node`. -/
def unwind (w : SocketWorld) (frame : ListenerFrame) (guard : SocketNodeGuard)
    (result : ListenerResult) : SocketWorld :=
  w.remove frame.socketNode guard (.unwound result)

/-- The capture of the identity fails. -/
def abandon (w : SocketWorld) (choice : SocketChoice) (frame : ListenerFrame)
    (guard : SocketNodeGuard) : SocketWorld :=
  w.unwind frame guard.abandonUnverifiedBind <|
    if choice = .throws then .exception
    else .failure ⟨Kernel.internal, ascii "could not prove the bound socket pathname generation"⟩

omit [Kernel] in
/-- The world after `bind` has made a node for this guard. -/
def bindWorld (w : SocketWorld) (frame : ListenerFrame) (guard : SocketNodeGuard)
    (directory identity : Identity) (hFresh : w.fs.kind identity = none) : SocketWorld :=
  ({ w with fs := w.fs.link directory guard.leafName identity .socket hFresh }.record
    (.bound ⟨guard.parentPath, directory, guard.leafName, identity⟩)).enter
    (.listening frame .statNode)

omit [Kernel] in
/-- `bind` takes the whole path. Its last component is made in the directory that the path of
the parent leads to now, which need not be the one of the descriptor. -/
def bindNode (w : SocketWorld) (frame : ListenerFrame) (guard : SocketNodeGuard)
    (identity : Identity) : Option SocketWorld :=
  match w.fs.directoryAt guard.parentPath with
  | none => none
  | some directory =>
      if hFresh : w.fs.kind identity = none then
        if w.fs.entry directory guard.leafName = none then
          some (w.bindWorld frame guard directory identity hFresh)
        else none
      else none

def listeningStep (w : SocketWorld) (choice : SocketChoice) (frame : ListenerFrame)
    (guard : SocketNodeGuard) : Listening → Option SocketWorld
  | .createSocket =>
      match choice with
      | .succeeds => some (w.enter (.listening frame .bind))
      | .reports status => some (w.unwind frame guard (.failure status))
      | .throws => some (w.unwind frame guard .exception)
      | _ => none
  | .bind =>
      match choice with
      | .creates identity => w.bindNode frame guard identity
      | _ => (choice.errnoStatus "could not bind local socket").map (w.unwind frame guard)
  | .statNode =>
      match guard.parentDirectory.bind fun directory =>
          w.socketAt choice directory guard.leafName with
      | some identity => some (w.enter (.listening frame (.confirmParent identity)))
      | none => some (w.abandon choice frame guard)
  | .confirmParent identity =>
      if w.parentPathMatches choice guard.parentPath guard.parentIdentity then
        some (((w.record (.matched guard.parentPath guard.parentIdentity)).put frame.socketNode
          (some (guard.arm identity))).enter (.listening frame .listen))
      else some (w.abandon choice frame guard)
  | .listen =>
      if choice = .succeeds then
        -- `socket_node` is moved into the result and then destroyed
        some (((w.put frame.result (some guard)).put frame.socketNode
          (some guard.movedFrom)).unwind frame guard.movedFrom (.listener frame.result))
      else (choice.errnoStatus "could not listen locally").map (w.unwind frame guard)

/-! ### Runs -/

/-- An operation on guards that live. A guard is made at an address where none lives. -/
def perform (w : SocketWorld) : GuardOperation → Option SocketWorld
  | .construct address =>
      if w.guards address = none then some (w.put address (some {})) else none
  | .moveConstruct address source =>
      if w.guards address = none ∧ (w.guards source).isSome then
        some ((w.put address (some {})).remove address {} (.assign source))
      else none
  | .moveAssign address source =>
      (w.guards address).bind fun guard =>
        if address = source then some w
        else if (w.guards source).isSome then some (w.remove address guard (.assign source))
        else none
  | .arm address identity =>
      (w.guards address).map fun guard => w.put address (some (guard.arm identity))
  | .abandonUnverifiedBind address =>
      (w.guards address).map fun guard => w.put address (some guard.abandonUnverifiedBind)
  | .remove address => (w.guards address).map fun guard => w.remove address guard .done
  | .destroy address => (w.guards address).map fun guard => w.remove address guard .destroyed
  | .createUnixListener frame path backlog =>
      if w.guards frame.socketNode = none ∧ w.guards frame.result = none ∧
          frame.socketNode ≠ frame.result then
        some (w.enter (.preparing frame (.validate path backlog)))
      else none

/-- One step of the process. -/
def step (w : SocketWorld) (choice : SocketChoice) : Option SocketWorld :=
  match w.stage with
  | .idle =>
      match choice with
      | .start operation => w.perform operation
      | _ => none
  | .preparing frame next => w.preparationStep choice frame next
  | .listening frame next =>
      (w.guards frame.socketNode).bind fun guard => w.listeningStep choice frame guard next
  | .removing address next after =>
      (w.guards address).bind fun guard => guard.parentDirectory.map fun directory =>
        w.removalStep choice address guard directory after next

theorem step_listening {w : SocketWorld} {frame : ListenerFrame} {next : Listening}
    {guard : SocketNodeGuard} (hStage : w.stage = .listening frame next)
    (hGuard : w.guards frame.socketNode = some guard) (choice : SocketChoice) :
    w.step choice = w.listeningStep choice frame guard next := by
  simp only [step, hStage, hGuard, Option.bind_some]

theorem step_removing {w : SocketWorld} {address : Nat} {next : Removal} {after : AfterRemoval}
    {guard : SocketNodeGuard} {directory : Identity}
    (hStage : w.stage = .removing address next after) (hGuard : w.guards address = some guard)
    (hDirectory : guard.parentDirectory = some directory) (choice : SocketChoice) :
    w.step choice = some (w.removalStep choice address guard directory after next) := by
  simp only [step, hStage, hGuard, hDirectory, Option.bind_some, Option.map_some]

/-- A step of the process or, outside the two windows, of the others. -/
inductive Step : SocketWorld → SocketWorld → Prop where
  | process {w w' : SocketWorld} (choice : SocketChoice) (hStep : w.step choice = some w') :
      Step w w'
  | others {w : SocketWorld} {fs : FileSystem Bytes Bytes} (hWindow : w.stage.window = false)
      (hEvolves : w.fs.Evolves fs) : Step w { w with fs := fs }

omit [Kernel] in
/-- The process before it has made a guard. -/
def initial (fs : FileSystem Bytes Bytes) : SocketWorld where
  fs := fs
  guards := fun _ => none
  stage := .idle
  log := []

def Reachable (w : SocketWorld) : Prop :=
  ∃ fs, Relation.ReflTransGen Step (initial fs) w

/-! ### What a step can do -/

omit [Kernel] in
theorem parentPathMatches_iff {w : SocketWorld} {choice : SocketChoice} {parent : Bytes}
    {identity : Identity} :
    w.parentPathMatches choice parent identity = true ↔
      choice = .succeeds ∧ w.fs.directoryAt parent = some identity := by
  simp [parentPathMatches]

omit [Kernel] in
theorem socketAt_eq_some {w : SocketWorld} {choice : SocketChoice} {directory : Identity}
    {leaf : Bytes} {identity : Identity} :
    w.socketAt choice directory leaf = some identity ↔
      choice = .succeeds ∧ w.fs.entry directory leaf = some identity ∧
        w.fs.kind identity = some .socket := by
  simp [socketAt, Option.filter_eq_some_iff]

theorem errnoStatus_failed {choice : SocketChoice} {action : String} {result : ListenerResult}
    (h : choice.errnoStatus action = some result) : result.Failed := by
  cases choice <;> cases h <;> trivial

inductive Prepares (w : SocketWorld) (frame : ListenerFrame) :
    Preparation → SocketWorld → Prop where
  | failed {next result} (hFailed : ListenerResult.Failed result) :
      Prepares w frame next (w.fail result)
  | validated {path backlog parent leaf} (hSplit : splitSocketPath path = some (parent, leaf)) :
      Prepares w frame (.validate path backlog)
        (w.enter (.preparing frame (.openParent parent leaf)))
  | opened {parent leaf directory} :
      Prepares w frame (.openParent parent leaf)
        (w.enter (.preparing frame (.statParent parent leaf directory)))
  | inspected {parent leaf directory} :
      Prepares w frame (.statParent parent leaf directory)
        (w.enter (.preparing frame (.matchParent parent leaf directory)))
  | matched {parent leaf directory} (hLeads : w.fs.directoryAt parent = some directory) :
      Prepares w frame (.matchParent parent leaf directory)
        ((w.record (.matched parent directory)).enter
          (.preparing frame (.probe parent leaf directory)))
  | prepared {parent leaf directory} :
      Prepares w frame (.probe parent leaf directory)
        ((w.put frame.socketNode (some (.prepare (some directory) parent leaf directory))).enter
          (.listening frame .createSocket))

theorem prepares_of_step {w w' : SocketWorld} {choice : SocketChoice} {frame : ListenerFrame}
    {next : Preparation} (h : w.preparationStep choice frame next = some w') :
    Prepares w frame next w' := by
  have hErrno : ∀ {action}, (choice.errnoStatus action).map w.fail = some w' →
      Prepares w frame next w' := by
    intro action hMap
    obtain ⟨result, hResult, rfl⟩ := Option.map_eq_some_iff.mp hMap
    exact .failed (errnoStatus_failed hResult)
  cases next with
  | validate path backlog =>
      simp only [preparationStep] at h
      split at h
      · split at h
        · cases h
          exact .failed trivial
        · split at h
          · cases h
            exact .failed trivial
          · split at h
            · cases h
              exact .failed trivial
            · next hSplit =>
                cases h
                exact .validated hSplit
      · split at h
        · cases h
          exact .failed trivial
        · cases h
  | openParent parent leaf =>
      simp only [preparationStep] at h
      split at h
      · cases h
        exact .opened
      · exact hErrno h
  | statParent parent leaf directory =>
      simp only [preparationStep] at h
      split at h
      · split at h
        · cases h
          exact .inspected
        · cases h
          exact .failed trivial
      · exact hErrno h
  | matchParent parent leaf directory =>
      simp only [preparationStep] at h
      split at h
      · next hMatches =>
          cases h
          exact .matched (parentPathMatches_iff.mp hMatches).2
      · split at h <;> cases h <;> exact .failed trivial
  | probe parent leaf directory =>
      simp only [preparationStep] at h
      split at h
      · cases h
        exact .prepared
      · split at h
        · split at h
          · cases h
            exact .failed trivial
          · cases h
        · exact hErrno h

inductive Listens (w : SocketWorld) (frame : ListenerFrame) (guard : SocketNodeGuard) :
    Listening → SocketWorld → Prop where
  | notCreated {result} (hFailed : ListenerResult.Failed result) :
      Listens w frame guard .createSocket (w.unwind frame guard result)
  | created : Listens w frame guard .createSocket (w.enter (.listening frame .bind))
  | notBound {result} (hFailed : ListenerResult.Failed result) :
      Listens w frame guard .bind (w.unwind frame guard result)
  | bound {directory identity} (hLeads : w.fs.directoryAt guard.parentPath = some directory)
      (hFresh : w.fs.kind identity = none) :
      Listens w frame guard .bind (w.bindWorld frame guard directory identity hFresh)
  | notCaptured {result} (hFailed : ListenerResult.Failed result) :
      Listens w frame guard .statNode (w.unwind frame guard.abandonUnverifiedBind result)
  | captured {directory identity} (hDirectory : guard.parentDirectory = some directory)
      (hEntry : w.fs.entry directory guard.leafName = some identity) :
      Listens w frame guard .statNode (w.enter (.listening frame (.confirmParent identity)))
  | notConfirmed {identity result} (hFailed : ListenerResult.Failed result) :
      Listens w frame guard (.confirmParent identity)
        (w.unwind frame guard.abandonUnverifiedBind result)
  | confirmed {identity} (hLeads : w.fs.directoryAt guard.parentPath = some guard.parentIdentity) :
      Listens w frame guard (.confirmParent identity)
        (((w.record (.matched guard.parentPath guard.parentIdentity)).put frame.socketNode
          (some (guard.arm identity))).enter (.listening frame .listen))
  | notListening {result} (hFailed : ListenerResult.Failed result) :
      Listens w frame guard .listen (w.unwind frame guard result)
  | listening :
      Listens w frame guard .listen
        (((w.put frame.result (some guard)).put frame.socketNode
          (some guard.movedFrom)).unwind frame guard.movedFrom (.listener frame.result))

theorem abandon_eq (w : SocketWorld) (choice : SocketChoice) (frame : ListenerFrame)
    (guard : SocketNodeGuard) :
    ∃ result, result.Failed ∧
      w.abandon choice frame guard = w.unwind frame guard.abandonUnverifiedBind result := by
  refine ⟨_, ?_, rfl⟩
  split <;> trivial

theorem listens_of_step {w w' : SocketWorld} {choice : SocketChoice} {frame : ListenerFrame}
    {guard : SocketNodeGuard} {next : Listening}
    (h : w.listeningStep choice frame guard next = some w') :
    Listens w frame guard next w' := by
  have hErrno : ∀ {action}, (choice.errnoStatus action).map (w.unwind frame guard) = some w' →
      ∃ result, result.Failed ∧ w' = w.unwind frame guard result := by
    intro action hMap
    obtain ⟨result, hResult, rfl⟩ := Option.map_eq_some_iff.mp hMap
    exact ⟨result, errnoStatus_failed hResult, rfl⟩
  obtain ⟨result, hFailed, hAbandon⟩ := w.abandon_eq choice frame guard
  cases next with
  | createSocket =>
      simp only [listeningStep] at h
      split at h
      · cases h
        exact .created
      · cases h
        exact .notCreated trivial
      · cases h
        exact .notCreated trivial
      · cases h
  | bind =>
      simp only [listeningStep] at h
      split at h
      · simp only [bindNode] at h
        split at h
        · cases h
        · next hLeads =>
            split at h
            · next hFresh =>
                split at h
                · cases h
                  exact .bound hLeads hFresh
                · cases h
            · cases h
      · obtain ⟨result, hFailed, rfl⟩ := hErrno h
        exact .notBound hFailed
  | statNode =>
      simp only [listeningStep] at h
      split at h
      · next hCapture =>
          cases h
          obtain ⟨directory, hDirectory, hSocket⟩ := Option.bind_eq_some_iff.mp hCapture
          exact .captured hDirectory (socketAt_eq_some.mp hSocket).2.1
      · rw [hAbandon] at h
        cases h
        exact .notCaptured hFailed
  | confirmParent identity =>
      simp only [listeningStep] at h
      split at h
      · next hMatches =>
          cases h
          exact .confirmed (parentPathMatches_iff.mp hMatches).2
      · rw [hAbandon] at h
        cases h
        exact .notConfirmed hFailed
  | listen =>
      simp only [listeningStep] at h
      split at h
      · cases h
        exact .listening
      · obtain ⟨result, hFailed, rfl⟩ := hErrno h
        exact .notListening hFailed

inductive Removes (w : SocketWorld) (address : Nat) (guard : SocketNodeGuard)
    (directory : Identity) (after : AfterRemoval) : Removal → SocketWorld → Prop where
  | stopped {next} : Removes w address guard directory after next (w.afterRemoval address after)
  | inspected : Removes w address guard directory after .statParent
      (w.enter (.removing address .matchParent after))
  | matched (hLeads : w.fs.directoryAt guard.parentPath = some guard.parentIdentity) :
      Removes w address guard directory after .matchParent
      ((w.record (.matched guard.parentPath guard.parentIdentity)).enter
        (.removing address .statNode after))
  | found (hEntry : w.fs.entry directory guard.leafName = some guard.nodeIdentity) :
      Removes w address guard directory after .statNode
        (w.enter (.removing address .unlink after))
  | unlinked {identity} (hEntry : w.fs.entry directory guard.leafName = some identity) :
      Removes w address guard directory after .unlink
        (({ w with fs := w.fs.unlink directory guard.leafName }.record
          (.unlinked ⟨guard.parentPath, directory, guard.leafName, identity⟩)).afterRemoval
          address after)

omit [Kernel] in
theorem removes_of_step (w : SocketWorld) (choice : SocketChoice) (address : Nat)
    (guard : SocketNodeGuard) (directory : Identity) (after : AfterRemoval) (next : Removal) :
    Removes w address guard directory after next
      (w.removalStep choice address guard directory after next) := by
  cases next with
  | statParent =>
      simp only [removalStep]
      split
      · exact .inspected
      · exact .stopped
  | matchParent =>
      simp only [removalStep]
      split
      · next hMatches => exact .matched (parentPathMatches_iff.mp hMatches).2
      · exact .stopped
  | statNode =>
      simp only [removalStep]
      split
      · next hSocket => exact .found (socketAt_eq_some.mp hSocket).2.1
      · exact .stopped
  | unlink =>
      simp only [removalStep]
      split
      · next hEntry => exact .unlinked hEntry
      · exact .stopped

end SocketWorld

end PhotospiderDaemon.Ipc
