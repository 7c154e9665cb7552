import PhotospiderDaemon.Server.Connections

/-!
# The descriptors of a server

`stop()` shuts down the descriptors in `active_connections` by their numbers, and it does so
while handlers come and go and the operating system hands numbers out again. What that is about is
the `Inventory` of the server, which forgets everything but descriptors, their owners and the state
of the first `stop()`. A thread matters for it by its `Grip`: the connection it owns, where its
call of `stop()` stands, and whether it is inside of the loop where frames are read.

* `Inventory.Step`: the ten ways in which a thread changes the inventory.
* `step_of_moves`: every step of the server is one of them.
-/

namespace PhotospiderDaemon.Server.Connections

open Foundation Ipc Orchestration

/-! ## The inventory -/

/-- The descriptors of the process, who owns those of connections, and the walk over the
registered ones. -/
structure Inventory where
  stopping : Bool
  walked : Bool
  listener : Option Nat
  mutex : Option Nat
  keys : OrderedMap Nat Nat
  descriptors : OrderedMap Nat File
  interrupted : List File
  owners : List (Nat × Owner)

/-- What the inventory has of a connection. -/
def Accepted.entry (accepted : Accepted) : Nat × Owner := (accepted.descriptor, accepted.owner)

def Impl.inventory (s : Impl) : Inventory where
  stopping := s.stopping
  walked := s.walked
  listener := s.listenerFd
  mutex := s.connectionsMutex
  keys := s.activeConnections
  descriptors := s.descriptors
  interrupted := s.interrupted
  owners := s.connections.map Accepted.entry

/-- What the inventory knows of a thread. -/
structure Grip where
  held : Option (UniqueDescriptor × Owner)
  stop : StopStage
  turn : Bool

/-- This call of `stop()` is the first one, and it has not returned. -/
def StopStage.first : StopStage → Bool
  | entered | returned => false
  | claimed | closing _ | locking | walking _ => true

namespace Inventory

/-- Hand a connection over. -/
def give (v : Inventory) (id : Nat) (owner : Owner) : Inventory :=
  { v with owners := v.owners.modify id fun entry => (entry.1, owner) }

def shutdown (v : Inventory) (descriptor : Nat) : Inventory :=
  { v with interrupted := (v.descriptors.find? descriptor).toList ++ v.interrupted }

/-- The steps of `stop()`. -/
inductive StopStep (i : Nat) (v : Inventory) : StopStage → Inventory → StopStage → Prop where
  | late : StopStep i v .entered v .returned
  | claim (hstopping : v.stopping = false) :
    StopStep i v .entered { v with stopping := true } .claimed
  | take {listener : Nat} (hlistener : v.listener = some listener) :
    StopStep i v .claimed { v with listener := none } (.closing listener)
  | bare : StopStep i v .claimed v .locking
  | close (listener : Nat) :
    StopStep i v (.closing listener)
      { v.shutdown listener with descriptors := v.descriptors.erase listener } .locking
  | lock (hmutex : v.mutex = none) :
    StopStep i v .locking { v with mutex := some i } (.walking (v.keys.entries.map Prod.fst))
  | visit (descriptor : Nat) (rest : List Nat) :
    StopStep i v (.walking (descriptor :: rest)) (v.shutdown descriptor) (.walking rest)
  | unlock : StopStep i v (.walking []) { v with mutex := none, walked := true } .returned

/-- The steps of a thread. Outside of `stop()` no thread is its first caller, and a thread only
comes into the loop while the flag is not set. -/
inductive Step (i : Nat) (v : Inventory) : Grip → Inventory → Grip → Prop where
  | quiet {g g' : Grip} (hheld : g'.held = g.held) (hstop : g'.stop.first = false)
    (hturn : g'.turn = true → g.turn = true ∨
      v.stopping = false ∧ ∃ connection, g.held = some (connection, .registered)) :
    Step i v g v g'
  | stop {held : Option (UniqueDescriptor × Owner)} {stage stage' : StopStage} {v' : Inventory}
    (hstep : StopStep i v stage v' stage') : Step i v ⟨held, stage, false⟩ v' ⟨held, stage', false⟩
  | accept {g : Grip} {descriptor : Nat} (hfree : g.held = none)
    (hnew : v.descriptors.find? descriptor = none) :
    Step i v g
      { v with
        descriptors := (v.descriptors.emplace descriptor (.connection v.owners.length)).1
        owners := v.owners ++ [(descriptor, .acceptor)] }
      ⟨some (⟨v.owners.length, descriptor⟩, .acceptor), .returned, false⟩
  | launch {g : Grip} {connection : UniqueDescriptor}
      (hheld : g.held = some (connection, .acceptor)) :
    Step i v g (v.give connection.id .closure) ⟨none, .returned, false⟩
  | begin {g : Grip} {id descriptor : Nat} (hfree : g.held = none)
    (howner : v.owners[id]? = some (descriptor, .closure)) :
    Step i v g (v.give id .handler) ⟨some (⟨id, descriptor⟩, .handler), .returned, false⟩
  | register {g : Grip} {connection : UniqueDescriptor} (hmutex : v.mutex = none)
    (hheld : g.held = some (connection, .handler)) :
    Step i v g
      { v.give connection.id .registered with
        keys := (v.keys.emplace connection.descriptor connection.descriptor).1 }
      ⟨some (connection, .registered), .returned, false⟩
  | unregister {g : Grip} {connection : UniqueDescriptor} (hmutex : v.mutex = none)
    (hheld : g.held = some (connection, .registered)) :
    Step i v g
      { v.give connection.id .handler with keys := v.keys.erase connection.descriptor }
      ⟨some (connection, .handler), .returned, false⟩
  | close {g : Grip} {connection : UniqueDescriptor} {owner : Owner} {stage : StopStage}
    (hheld : g.held = some (connection, owner)) (howner : owner ≠ .registered)
    (hstop : stage.first = false) :
    Step i v g
      { v.give connection.id .nobody with
        descriptors := v.descriptors.erase connection.descriptor }
      ⟨none, stage, false⟩
  | openFile {g : Grip} {descriptor : Nat} (hfree : g.held = none)
    (hnew : v.descriptors.find? descriptor = none) :
    Step i v g { v with descriptors := (v.descriptors.emplace descriptor .other).1 }
      ⟨none, .returned, false⟩
  | closeFile {g : Grip} {descriptor : Nat} (hfree : g.held = none)
    (hopen : v.descriptors.find? descriptor = some .other) :
    Step i v g { v with descriptors := v.descriptors.erase descriptor } ⟨none, .returned, false⟩

end Inventory

/-! ## The server keeps an inventory -/

def HandlerStage.owner : HandlerStage → Option Owner
  | registering | refusing _ | returning => some .handler
  | entered _ | testing | serving | recovering _ _ | leaving | stopping _ | unregistering =>
    some .registered
  | completing | settling | exiting | ended => none

def HandlerStage.stop : HandlerStage → StopStage
  | stopping stage => stage
  | _ => .returned

def HandlerStage.turn : HandlerStage → Bool
  | serving => true
  | _ => false

def RunStage.held : RunStage → Option UniqueDescriptor
  | preparing connection | accepted (.accepted connection) | reaping connection _
  | counting connection | rejecting connection | admitting connection | launching connection =>
    some connection
  | unwinding connection moved _ => connection.kept moved
  | stopping _ held | joining _ held => held
  | _ => none

def RunStage.stop : RunStage → StopStage
  | failing stage | stopping stage _ => stage
  | _ => .returned

def RunStage.grip (stage : RunStage) : Grip :=
  ⟨stage.held.map fun connection => (connection, .acceptor), stage.stop, false⟩

def HandlerThread.grip (l : HandlerThread) : Grip :=
  ⟨l.stage.owner.map fun owner => (l.connection, owner), l.stage.stop, l.stage.turn⟩

def Thread.grip : Thread → Grip
  | run stage | destroy stage => stage.grip
  | handler thread => thread.grip
  | stop stage => ⟨none, stage, false⟩
  | launched _ | elsewhere => ⟨none, .returned, false⟩

theorem map_modify {α β : Type} {f : α → α} {f' : β → β} {g : α → β}
    (h : ∀ a, g (f a) = f' (g a)) (l : List α) (i : Nat) :
    (l.modify i f).map g = (l.map g).modify i f' := by
  induction l generalizing i with
  | nil => simp
  | cons a l ih =>
    cases i with
    | zero => simp [h]
    | succ i => simp [ih]

/-- A note that leaves the descriptor and its owner alone. -/
theorem inventory_note {s : Impl} {id : Nat} {change : Accepted → Accepted}
    (h : ∀ accepted, (change accepted).entry = accepted.entry) :
    (s.note id change).inventory = s.inventory := by
  have howners : (s.connections.modify id change).map Accepted.entry =
      (s.connections.map Accepted.entry).modify id fun entry => entry := map_modify h _ _
  have hid : (s.connections.map Accepted.entry).modify id (fun entry => entry) =
      s.connections.map Accepted.entry := List.modify_id _ _
  unfold Impl.inventory Impl.note
  dsimp only
  rw [howners, hid]

/-- A note that changes the owner. -/
theorem inventory_give {s : Impl} {id : Nat} {owner : Owner} {change : Accepted → Accepted}
    (h : ∀ accepted, (change accepted).entry = (accepted.entry.1, owner)) :
    (s.note id change).inventory = s.inventory.give id owner := by
  have howners : (s.connections.modify id change).map Accepted.entry =
      (s.connections.map Accepted.entry).modify id fun entry => (entry.1, owner) := map_modify h _ _
  unfold Impl.inventory Impl.note Inventory.give
  dsimp only
  rw [howners]

theorem stopStep_of_move {i : Nat} {s s' : Impl} {stage stage' : StopStage}
    (h : StopMove i s stage s' stage') :
    Inventory.StopStep i s.inventory stage s'.inventory stage' := by
  cases h with
  | late hstopping => exact .late
  | claim hstopping => exact .claim hstopping
  | take hlistener => exact .take hlistener
  | bare hlistener => exact .bare
  | close listener => exact .close listener
  | lock hmutex => exact .lock hmutex
  | visit descriptor rest => exact .visit descriptor rest
  | unlock => exact .unlock

theorem inventory_close (s : Impl) (connection : UniqueDescriptor) :
    (s.close connection).inventory =
      { s.inventory.give connection.id .nobody with
        descriptors := s.descriptors.erase connection.descriptor } := by
  unfold Impl.close Impl.setOwner
  rw [inventory_give fun _ => rfl]
  rfl

theorem inventory_reserveSlot (s : Impl) (id : Nat) :
    (s.reserveSlot id).inventory = s.inventory := by
  show (s.note id fun accepted => { accepted with slot := true }).inventory = s.inventory
  exact inventory_note fun _ => rfl

theorem inventory_releaseSlot (s : Impl) (id : Nat) :
    (s.releaseSlot id).inventory = s.inventory := by
  show (s.note id fun accepted => { accepted with slot := false }).inventory = s.inventory
  exact inventory_note fun _ => rfl

theorem inventory_launch (s : Impl) (id : Nat) :
    (s.launch id).inventory = s.inventory.give id .closure := by
  show (s.note id fun accepted =>
    { accepted with owner := .closure, launches := accepted.launches + 1 }).inventory = _
  exact inventory_give fun _ => rfl

/-- A thread that owned a connection has closed it. -/
theorem step_close {i : Nat} {s s' : Impl} {g : Grip} {connection : UniqueDescriptor}
    {owner : Owner}
    {stage : StopStage} (hheld : g.held = some (connection, owner)) (howner : owner ≠ .registered)
    (hstop : stage.first = false) (hclose : s'.inventory = (s.close connection).inventory) :
    Inventory.Step i s.inventory g s'.inventory ⟨none, stage, false⟩ := by
  rw [hclose, inventory_close]
  exact .close hheld howner hstop

/-- A step that the inventory does not see. -/
theorem step_quiet {i : Nat} {s s' : Impl} {g g' : Grip} (hs : s'.inventory = s.inventory)
    (hheld : g'.held = g.held) (hstop : g'.stop.first = false) (hturn : g'.turn = false) :
    Inventory.Step i s.inventory g s'.inventory g' := by
  rw [hs]
  refine .quiet hheld hstop fun hserving => ?_
  rw [hturn] at hserving
  cases hserving

variable {i : Nat} {s s' : Impl}

theorem step_of_runMove {stage stage' : RunStage} (h : RunMove i s stage s' stage') :
    Inventory.Step i s.inventory stage.grip s'.inventory stage'.grip := by
  cases h with
  | advance hadvance => cases hadvance <;> exact step_quiet rfl rfl rfl rfl
  | begin hlifetime hstopping => exact step_quiet rfl rfl rfl rfl
  | @accept descriptor peer hnew =>
    have hlength : s.connections.length = s.inventory.owners.length := (List.length_map _).symm
    have hinventory : (s.accept descriptor peer).inventory =
        { s.inventory with
          descriptors :=
            (s.descriptors.emplace descriptor (.connection s.inventory.owners.length)).1
          owners := s.inventory.owners ++ [(descriptor, .acceptor)] } := by
      rw [← hlength]
      unfold Impl.accept Impl.inventory
      dsimp only
      rw [List.map_append]
      rfl
    rw [hinventory, hlength]
    exact .accept rfl hnew
  | throws => exact step_quiet rfl rfl rfl rfl
  | verify => exact step_quiet (inventory_note fun _ => rfl) rfl rfl rfl
  | rejectPeer | failPeer | throwPeer | drop hstopping | throwFull | throwMoved =>
    exact step_close rfl (by decide) rfl rfl
  | failing hmove => exact .stop (stopStep_of_move hmove)
  | @reap connection index record hrecord hfinished hexited =>
    have hjoin : (s.join record).inventory = s.inventory := inventory_note fun _ => rfl
    exact step_quiet hjoin rfl rfl rfl
  | @sentinel connection =>
    have hnote : (s.note connection.id fun accepted =>
        { accepted with sentinels := accepted.sentinels + 1 }).inventory = s.inventory :=
      inventory_note fun _ => rfl
    refine @step_close _ _ _ _ connection _ _ rfl (by decide) rfl ?_
    rw [inventory_close, inventory_close, hnote]
    rfl
  | reserve => exact step_quiet (inventory_reserveSlot _ _) rfl rfl rfl
  | throwReserve => exact step_quiet rfl rfl rfl rfl
  | launch =>
    rw [inventory_launch]
    exact .launch rfl
  | throwLaunch => exact step_quiet rfl rfl rfl rfl
  | release => exact step_quiet (inventory_releaseSlot _ _) rfl rfl rfl
  | stop hmove => exact .stop (stopStep_of_move hmove)
  | swap => exact step_quiet rfl rfl rfl rfl
  | @join record owned held hexited =>
    have hjoin : (s.join record).inventory = s.inventory := inventory_note fun _ => rfl
    exact step_quiet hjoin rfl rfl rfl
  | @leave held =>
    cases held with
    | none => exact step_quiet rfl rfl rfl rfl
    | some connection => exact step_close rfl (by decide) rfl rfl

variable [Kernel]

theorem step_of_handlerMove {connection : UniqueDescriptor} {handler handler' : Handler}
    {stage stage' : HandlerStage}
    (h : HandlerMove i s connection handler stage s' handler' stage') :
    Inventory.Step i s.inventory (HandlerThread.grip ⟨connection, handler, stage⟩) s'.inventory
      (HandlerThread.grip ⟨connection, handler', stage'⟩) := by
  cases h with
  | refuse entry hmutex hregistration => exact step_quiet rfl rfl rfl rfl
  | register entry hmutex hregistration =>
    have hgive : (s.setOwner connection.id .registered).inventory =
        s.inventory.give connection.id .registered := inventory_give fun _ => rfl
    have hregister : (s.register connection).inventory =
        { (s.setOwner connection.id .registered).inventory with
          keys :=
            (s.activeConnections.emplace connection.descriptor connection.descriptor).1 } := rfl
    rw [hregister, hgive]
    exact .register hmutex rfl
  | advance hadvance =>
    cases hadvance with
    | serves hstopping => exact .quiet rfl rfl fun _ => Or.inr ⟨hstopping, connection, rfl⟩
    | _ => exact step_quiet rfl rfl rfl rfl
  | stop hmove => exact .stop (stopStep_of_move hmove)
  | unregister hmutex =>
    have hgive : (s.setOwner connection.id .handler).inventory =
        s.inventory.give connection.id .handler := inventory_give fun _ => rfl
    have hunregister : (s.unregister connection).inventory =
        { (s.setOwner connection.id .handler).inventory with
          keys := s.activeConnections.erase connection.descriptor } := rfl
    rw [hunregister, hgive]
    exact .unregister hmutex rfl
  | close => exact step_close rfl (by decide) rfl rfl
  | finish => exact step_quiet rfl rfl rfl rfl
  | settle => exact step_quiet (inventory_releaseSlot _ _) rfl rfl rfl
  | exit => exact step_quiet rfl rfl rfl rfl

/-- Every step of the server is a step of its inventory. -/
theorem step_of_moves {c : Config Impl Thread} {l l' : Thread} {choice : Choice}
    (h : server.Moves c i l choice s' l') :
    Inventory.Step i c.shared.inventory l.grip s'.inventory l'.grip := by
  cases threadMove h with
  | run hmove => exact step_of_runMove hmove
  | destroy hlifetime => exact step_quiet rfl rfl rfl rfl
  | destroying hstage hmove => exact step_of_runMove hmove
  | @begin id accepted haccepted howner =>
    have hgive : (c.shared.setOwner id .handler).inventory = c.shared.inventory.give id .handler :=
      inventory_give fun _ => rfl
    have hentry : c.shared.inventory.owners[id]? = some (accepted.descriptor, .closure) := by
      show (c.shared.connections.map Accepted.entry)[id]? = _
      rw [List.getElem?_map, haccepted, ← howner]
      rfl
    rw [hgive]
    exact .begin rfl hentry
  | handler hmove => exact step_of_handlerMove hmove
  | stop hmove => exact .stop (stopStep_of_move hmove)
  | openFile hnew => exact .openFile rfl hnew
  | closeFile hopen => exact .closeFile rfl hopen

end PhotospiderDaemon.Server.Connections
