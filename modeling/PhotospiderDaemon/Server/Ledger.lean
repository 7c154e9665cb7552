import PhotospiderDaemon.Server.Inventory

/-!
# The slots and the threads of handlers

Admission works on three things that different threads change at different times: the counter
`active_handlers`, the flags of the handler records, and the records themselves. The `Ledger` of
the server has these and, for each connection, how often it was served. A thread matters for it by
its `Duty`: the connection it has to do something about, what that is (`Charge`), and the records
that it still has to join.

* `Ledger.Step`: the ways in which a thread changes the ledger.
* `ledgerStep_of_moves`: every step of the server is one of them.
-/

namespace PhotospiderDaemon.Server.Connections

open Foundation Ipc Orchestration

/-! ## The ledger -/

/-- What the ledger has of a connection. -/
structure Tally where
  /-- the accept loop has the descriptor -/
  accepting : Bool
  /-- a handler thread has been started and has not begun -/
  starting : Bool
  verified : Bool
  slot : Bool
  launches : Nat
  sentinels : Nat
  joins : Nat

def Accepted.tally (accepted : Accepted) : Tally where
  accepting := accepted.owner = .acceptor
  starting := accepted.owner = .closure
  verified := accepted.verified
  slot := accepted.slot
  launches := accepted.launches
  sentinels := accepted.sentinels
  joins := accepted.joins

/-- Neither the accept loop nor a closure has the descriptor any more. -/
def Tally.taken (tally : Tally) : Tally := { tally with accepting := false, starting := false }

structure Ledger where
  maximum : UInt32
  active : UInt32
  /-- the server is stopping, or the run has failed -/
  excused : Bool
  records : List Nat
  finished : List Nat
  exited : List Nat
  tallies : List Tally

def Impl.ledger (s : Impl) : Ledger where
  maximum := s.maximumActiveConnections
  active := s.activeHandlers
  excused := s.stopping || s.failed
  records := s.handlers
  finished := s.finished
  exited := s.exited
  tallies := s.connections.map Accepted.tally

/-- How far a thread is with the connection it has to do something about. -/
inductive Charge where
  /-- accepted, with a peer that is not known -/
  | fresh
  /-- of the same user -/
  | pending
  /-- found to be below the maximum -/
  | admissible
  /-- with a slot, and no handler -/
  | reserved
  /-- with a slot that the `catch` clause has to release -/
  | unwound
  /-- never to be served -/
  | abandoned
  /-- with a handler that has begun -/
  | running
  /-- with a handler whose record says that it has finished -/
  | finishing
  /-- with a handler that has released its slot -/
  | settled
  /-- with a handler whose thread is over -/
  | exited
deriving DecidableEq

structure Duty where
  charge : Option (Nat × Charge)
  owned : List Nat

namespace Ledger

def change (v : Ledger) (id : Nat) (f : Tally → Tally) : Ledger :=
  { v with tallies := v.tallies.modify id f }

/-- The steps of a thread. -/
inductive Step (v : Ledger) : Duty → Ledger → Duty → Prop where
  | quiet {d : Duty} {excused : Bool} (hexcused : v.excused = true → excused = true) :
    Step v d { v with excused := excused } d
  | accept :
    Step v ⟨none, []⟩
      { v with tallies := v.tallies ++ [⟨true, false, false, false, 0, 0, 0⟩] }
      ⟨some (v.tallies.length, .fresh), []⟩
  | verify {id : Nat} :
    Step v ⟨some (id, .fresh), []⟩ (v.change id fun tally => { tally with verified := true })
      ⟨some (id, .pending), []⟩
  | discard {id : Nat} {excused : Bool} (hexcused : v.excused = true → excused = true) :
    Step v ⟨some (id, .fresh), []⟩ { v.change id Tally.taken with excused := excused } ⟨none, []⟩
  | drop {id : Nat} :
    Step v ⟨some (id, .pending), []⟩ { v.change id Tally.taken with excused := true } ⟨none, []⟩
  | sentinel {id : Nat} :
    Step v ⟨some (id, .pending), []⟩
      (v.change id fun tally => { tally.taken with sentinels := tally.sentinels + 1 }) ⟨none, []⟩
  | count {id : Nat} (hfree : v.active < v.maximum) :
    Step v ⟨some (id, .pending), []⟩ v ⟨some (id, .admissible), []⟩
  | reserve {id : Nat} :
    Step v ⟨some (id, .admissible), []⟩
      { v.change id (fun tally => { tally with slot := true }) with active := v.active + 1 }
      ⟨some (id, .reserved), []⟩
  | abandon {id : Nat} :
    Step v ⟨some (id, .admissible), []⟩ { v with excused := true } ⟨some (id, .abandoned), []⟩
  | launch {id : Nat} :
    Step v ⟨some (id, .reserved), []⟩
      { v.change id (fun tally =>
          { tally with accepting := false, starting := true, launches := tally.launches + 1 }) with
        records := v.records ++ [id] }
      ⟨none, []⟩
  | unwind {id : Nat} :
    Step v ⟨some (id, .reserved), []⟩ { v with excused := true } ⟨some (id, .unwound), []⟩
  | unwindMoved {id : Nat} :
    Step v ⟨some (id, .reserved), []⟩ { v.change id Tally.taken with excused := true }
      ⟨some (id, .unwound), []⟩
  | release {id : Nat} {charge : Option (Nat × Charge)}
    (hcharge : charge = none ∨ charge = some (id, .abandoned)) :
    Step v ⟨some (id, .unwound), []⟩
      { v.change id (fun tally => { tally with slot := false }) with active := v.active - 1 }
      ⟨charge, []⟩
  | leave {id : Nat} :
    Step v ⟨some (id, .abandoned), []⟩ (v.change id Tally.taken) ⟨none, []⟩
  | begin {id : Nat} {tally : Tally} (htally : v.tallies[id]? = some tally)
    (hstarting : tally.starting = true) :
    Step v ⟨none, []⟩ (v.change id Tally.taken) ⟨some (id, .running), []⟩
  | pass {id : Nat} :
    Step v ⟨some (id, .running), []⟩ (v.change id Tally.taken) ⟨some (id, .running), []⟩
  | finish {id : Nat} :
    Step v ⟨some (id, .running), []⟩ { v with finished := id :: v.finished }
      ⟨some (id, .finishing), []⟩
  | settle {id : Nat} :
    Step v ⟨some (id, .finishing), []⟩
      { v.change id (fun tally => { tally with slot := false }) with active := v.active - 1 }
      ⟨some (id, .settled), []⟩
  | exit {id : Nat} :
    Step v ⟨some (id, .settled), []⟩ { v with exited := id :: v.exited } ⟨some (id, .exited), []⟩
  | reap {d : Duty} {index id : Nat} (hrecord : v.records[index]? = some id)
    (hexited : id ∈ v.exited) :
    Step v d
      { v.change id (fun tally => { tally with joins := tally.joins + 1 }) with
        records := v.records.eraseIdx index }
      d
  | swap {charge : Option (Nat × Charge)} :
    Step v ⟨charge, []⟩ { v with records := [] } ⟨charge, v.records⟩
  | join {charge : Option (Nat × Charge)} {id : Nat} {owned : List Nat} (hexited : id ∈ v.exited) :
    Step v ⟨charge, id :: owned⟩ (v.change id fun tally => { tally with joins := tally.joins + 1 })
      ⟨charge, owned⟩

end Ledger

/-! ## The server keeps a ledger -/

def RunStage.charge : RunStage → Option (Nat × Charge)
  | preparing connection => some (connection.id, .fresh)
  | accepted (.accepted connection) | reaping connection _ | counting connection
  | rejecting connection => some (connection.id, .pending)
  | admitting connection => some (connection.id, .admissible)
  | launching connection => some (connection.id, .reserved)
  | unwinding connection _ true => some (connection.id, .unwound)
  | unwinding connection moved false =>
    (connection.kept moved).map fun connection => (connection.id, .abandoned)
  | stopping _ held | joining _ held => held.map fun connection => (connection.id, .abandoned)
  | _ => none

def RunStage.owned : RunStage → List Nat
  | joining owned _ => owned
  | _ => []

def RunStage.duty (stage : RunStage) : Duty := ⟨stage.charge, stage.owned⟩

def HandlerStage.charge : HandlerStage → Charge
  | settling => .finishing
  | exiting => .settled
  | ended => .exited
  | _ => .running

def Thread.duty : Thread → Duty
  | run stage | destroy stage => stage.duty
  | handler thread => ⟨some (thread.connection.id, thread.stage.charge), []⟩
  | launched _ | stop _ | elsewhere => ⟨none, []⟩

theorem ledger_note {s : Impl} {id : Nat} {change : Accepted → Accepted} {change' : Tally → Tally}
    (h : ∀ accepted, (change accepted).tally = change' accepted.tally) :
    (s.note id change).ledger = s.ledger.change id change' := by
  have htallies : (s.connections.modify id change).map Accepted.tally =
      (s.connections.map Accepted.tally).modify id change' := map_modify h _ _
  unfold Impl.ledger Impl.note Ledger.change
  dsimp only
  rw [htallies]

theorem ledger_setOwner {s : Impl} {id : Nat} {owner : Owner} (hacceptor : owner ≠ .acceptor)
    (hclosure : owner ≠ .closure) :
    (s.setOwner id owner).ledger = s.ledger.change id Tally.taken := by
  refine ledger_note fun accepted => ?_
  simp [Accepted.tally, Tally.taken, hacceptor, hclosure]

theorem ledger_close (s : Impl) (connection : UniqueDescriptor) :
    (s.close connection).ledger = s.ledger.change connection.id Tally.taken := by
  unfold Impl.close
  rw [ledger_setOwner (by decide) (by decide)]
  rfl

theorem ledger_join (s : Impl) (id : Nat) :
    (s.join id).ledger =
      s.ledger.change id fun tally => { tally with joins := tally.joins + 1 } :=
  ledger_note fun _ => rfl

theorem ledger_releaseSlot (s : Impl) (id : Nat) :
    (s.releaseSlot id).ledger =
      { s.ledger.change id (fun tally => { tally with slot := false }) with
        active := s.activeHandlers - 1 } := by
  have hnote : (s.note id fun accepted => { accepted with slot := false }).ledger =
      s.ledger.change id fun tally => { tally with slot := false } := ledger_note fun _ => rfl
  rw [← hnote]
  rfl

theorem ledger_reserveSlot (s : Impl) (id : Nat) :
    (s.reserveSlot id).ledger =
      { s.ledger.change id (fun tally => { tally with slot := true }) with
        active := s.activeHandlers + 1 } := by
  have hnote : (s.note id fun accepted => { accepted with slot := true }).ledger =
      s.ledger.change id fun tally => { tally with slot := true } := ledger_note fun _ => rfl
  rw [← hnote]
  rfl

theorem ledger_launch (s : Impl) (id : Nat) :
    (s.launch id).ledger =
      { s.ledger.change id (fun tally =>
          { tally with accepting := false, starting := true, launches := tally.launches + 1 }) with
        records := s.handlers ++ [id] } := by
  have hnote : (s.note id fun accepted =>
      { accepted with owner := .closure, launches := accepted.launches + 1 }).ledger =
      s.ledger.change id fun tally =>
        { tally with accepting := false, starting := true, launches := tally.launches + 1 } :=
    ledger_note fun _ => rfl
  rw [← hnote]
  rfl

theorem ledger_accept (s : Impl) (descriptor : Nat) (peer : Handler) :
    (s.accept descriptor peer).ledger =
      { s.ledger with
        tallies := s.ledger.tallies ++ [⟨true, false, false, false, 0, 0, 0⟩] } := by
  unfold Impl.accept Impl.ledger
  dsimp only
  rw [List.map_append]
  rfl

/-- An exception that leaves `run` at once. -/
theorem ledger_throw (s : Impl) : s.throw.ledger = { s.ledger with excused := true } := by
  unfold Impl.throw Impl.ledger
  rw [Bool.or_true]

theorem ledger_failed (s : Impl) :
    ({ s with failed := true } : Impl).ledger = { s.ledger with excused := true } := by
  unfold Impl.ledger
  rw [Bool.or_true]

/-- A step that the ledger does not see. -/
theorem ledgerStep_quiet {s s' : Impl} {d d' : Duty} (hs : s'.ledger = s.ledger) (hd : d' = d) :
    s.ledger.Step d s'.ledger d' := by
  have hquiet : s.ledger.Step d { s.ledger with excused := s.ledger.excused } d := .quiet id
  rw [hs, hd]
  exact hquiet

/-- `stop()` only sets the flag. -/
theorem ledgerStep_stop {i : Nat} {s s' : Impl} {stage stage' : StopStage}
    (h : StopMove i s stage s' stage') (d : Duty) : s.ledger.Step d s'.ledger d := by
  cases h with
  | claim hstopping => exact .quiet fun _ => rfl
  | _ => exact ledgerStep_quiet rfl rfl

variable {i : Nat} {s s' : Impl}

theorem ledgerStep_of_runMove {stage stage' : RunStage} (h : RunMove i s stage s' stage') :
    s.ledger.Step stage.duty s'.ledger stage'.duty := by
  cases h with
  | advance hadvance =>
    cases hadvance with
    | free hfree => exact .count (UInt32.not_le.mp hfree)
    | _ => exact ledgerStep_quiet rfl rfl
  | begin hlifetime hstopping => exact ledgerStep_quiet rfl rfl
  | accept hnew =>
    have hlength : s.connections.length = s.ledger.tallies.length := (List.length_map _).symm
    rw [ledger_accept, hlength]
    exact .accept
  | throws =>
    rw [ledger_throw]
    exact .quiet fun _ => rfl
  | @verify connection =>
    have hnote : (s.note connection.id fun accepted => { accepted with verified := true }).ledger =
        s.ledger.change connection.id fun tally => { tally with verified := true } :=
      ledger_note fun _ => rfl
    rw [hnote]
    exact .verify
  | rejectPeer | failPeer =>
    rw [ledger_close]
    exact .discard id
  | throwPeer =>
    rw [ledger_throw, ledger_close]
    exact .discard fun _ => rfl
  | @drop connection hstopping =>
    have hexcused : s.ledger.excused = true := by
      show (s.stopping || s.failed) = true
      rw [hstopping]
      rfl
    have hclose : (s.close connection).ledger =
        { s.ledger.change connection.id Tally.taken with excused := true } := by
      rw [ledger_close, ← hexcused]
      rfl
    rw [hclose]
    exact .drop
  | failing hmove => exact ledgerStep_stop hmove _
  | @reap connection index record hrecord hfinished hexited =>
    have hreap : ({ s.join record with handlers := s.handlers.eraseIdx index } : Impl).ledger =
        { (s.join record).ledger with records := s.handlers.eraseIdx index } := rfl
    rw [hreap, ledger_join]
    exact .reap hrecord hexited
  | @sentinel connection =>
    have hnote : (s.note connection.id fun accepted =>
        { accepted with sentinels := accepted.sentinels + 1 }).ledger =
        s.ledger.change connection.id fun tally =>
          { tally with sentinels := tally.sentinels + 1 } :=
      ledger_note fun _ => rfl
    have htwice : (s.ledger.change connection.id fun tally =>
        { tally with sentinels := tally.sentinels + 1 }).change connection.id Tally.taken =
        s.ledger.change connection.id fun tally =>
          { tally.taken with sentinels := tally.sentinels + 1 } := by
      unfold Ledger.change
      dsimp only
      rw [List.modify_modify_eq]
      rfl
    rw [ledger_close, hnote, htwice]
    exact .sentinel
  | throwFull =>
    rw [ledger_throw, ledger_close]
    exact .drop
  | reserve =>
    rw [ledger_reserveSlot]
    exact .reserve
  | throwReserve =>
    rw [ledger_failed]
    exact .abandon
  | launch =>
    rw [ledger_launch]
    exact .launch
  | throwMoved =>
    rw [ledger_close, ledger_failed]
    exact .unwindMoved
  | throwLaunch =>
    rw [ledger_failed]
    exact .unwind
  | @release connection moved =>
    rw [ledger_releaseSlot]
    refine .release ?_
    cases moved with
    | true => exact Or.inl rfl
    | false => exact Or.inr rfl
  | stop hmove => exact ledgerStep_stop hmove _
  | swap => exact .swap
  | join hexited =>
    rw [ledger_join]
    exact .join hexited
  | @leave held =>
    cases held with
    | none => exact ledgerStep_quiet rfl rfl
    | some connection =>
      have hleave : (closeHeld s (some connection)).leave.ledger = (s.close connection).ledger :=
        rfl
      rw [hleave, ledger_close]
      exact .leave

variable [Kernel]

theorem ledgerStep_of_handlerMove {connection : UniqueDescriptor} {handler handler' : Handler}
    {stage stage' : HandlerStage}
    (h : HandlerMove i s connection handler stage s' handler' stage') :
    s.ledger.Step (Thread.handler ⟨connection, handler, stage⟩).duty s'.ledger
      (Thread.handler ⟨connection, handler', stage'⟩).duty := by
  cases h with
  | refuse entry hmutex hregistration => exact ledgerStep_quiet rfl rfl
  | register entry hmutex hregistration =>
    have hregister : (s.register connection).ledger =
        (s.setOwner connection.id .registered).ledger := rfl
    rw [hregister, ledger_setOwner (by decide) (by decide)]
    exact .pass
  | advance hadvance => cases hadvance <;> exact ledgerStep_quiet rfl rfl
  | stop hmove => exact ledgerStep_stop hmove _
  | unregister hmutex =>
    have hunregister : (s.unregister connection).ledger =
        (s.setOwner connection.id .handler).ledger := rfl
    rw [hunregister, ledger_setOwner (by decide) (by decide)]
    exact .pass
  | close =>
    rw [ledger_close]
    exact .pass
  | finish => exact .finish
  | settle =>
    rw [ledger_releaseSlot]
    exact .settle
  | exit => exact .exit

/-- Every step of the server is a step of its ledger. -/
theorem ledgerStep_of_moves {c : Config Impl Thread} {l l' : Thread} {choice : Choice}
    (h : server.Moves c i l choice s' l') : c.shared.ledger.Step l.duty s'.ledger l'.duty := by
  cases threadMove h with
  | run hmove => exact ledgerStep_of_runMove hmove
  | destroy hlifetime => exact ledgerStep_quiet rfl rfl
  | destroying hstage hmove => exact ledgerStep_of_runMove hmove
  | @begin id accepted haccepted howner =>
    have htally : c.shared.ledger.tallies[id]? = some accepted.tally := by
      show (c.shared.connections.map Accepted.tally)[id]? = _
      rw [List.getElem?_map, haccepted]
      rfl
    have hstarting : accepted.tally.starting = true := by simp [Accepted.tally, howner]
    rw [ledger_setOwner (by decide) (by decide)]
    exact .begin htally hstarting
  | handler hmove => exact ledgerStep_of_handlerMove hmove
  | stop hmove => exact ledgerStep_stop hmove _
  | openFile hnew => exact ledgerStep_quiet rfl rfl
  | closeFile hopen => exact ledgerStep_quiet rfl rfl

end PhotospiderDaemon.Server.Connections
