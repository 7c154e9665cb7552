import Mathlib.Data.List.Nodup
import PhotospiderDaemon.Ipc.SocketNode

/-!
# Who may remove a socket node

A generation that the process has bound is in the care of at most one guard, or of the creation
that is about to arm one, or of the removal that has taken it from one. Moves hand it on. A
removal ends the care whether it unlinks the node or not, so no node is unlinked twice, and
what is unlinked is what was bound.
-/

namespace PhotospiderDaemon.Ipc

open Foundation FileSystem

/-! ## The log -/

@[simp]
def SocketEvent.boundNode : SocketEvent → Option SocketNode
  | .bound node => some node
  | _ => none

@[simp]
def SocketEvent.unlinkedNode : SocketEvent → Option SocketNode
  | .unlinked node => some node
  | _ => none

/-- The generations the process has bound. -/
def bindings (log : List SocketEvent) : List SocketNode := log.filterMap SocketEvent.boundNode

/-- The entries the process has unlinked. -/
def unlinks (log : List SocketEvent) : List SocketNode := log.filterMap SocketEvent.unlinkedNode

@[simp]
theorem bindings_append (log more : List SocketEvent) :
    bindings (log ++ more) = bindings log ++ bindings more :=
  List.filterMap_append ..

@[simp]
theorem unlinks_append (log more : List SocketEvent) :
    unlinks (log ++ more) = unlinks log ++ unlinks more :=
  List.filterMap_append ..

@[simp]
theorem bindings_singleton (event : SocketEvent) : bindings [event] = event.boundNode.toList := by
  cases event <;> rfl

@[simp]
theorem unlinks_singleton (event : SocketEvent) : unlinks [event] = event.unlinkedNode.toList := by
  cases event <;> rfl

theorem mem_bindings {log : List SocketEvent} {node : SocketNode} :
    node ∈ bindings log ↔ .bound node ∈ log := by
  rw [bindings, List.mem_filterMap]
  constructor
  · rintro ⟨event, hMem, hEvent⟩
    cases event with
    | bound other =>
        cases hEvent
        exact hMem
    | _ => cases hEvent
  · intro hMem
    exact ⟨_, hMem, rfl⟩

/-- Every entry that was unlinked had been bound, and the path of its parent was found to lead
to its directory just before. -/
def Ordered (log : List SocketEvent) : Prop :=
  ∀ before behind node, log = before ++ .unlinked node :: behind →
    .bound node ∈ before ∧ before.getLast? = some (.matched node.parent node.directory)

theorem Ordered.snoc {log : List SocketEvent} (h : Ordered log) {event : SocketEvent}
    (hEvent : ∀ node, event = .unlinked node →
      .bound node ∈ log ∧ log.getLast? = some (.matched node.parent node.directory)) :
    Ordered (log ++ [event]) := by
  intro before behind node hLog
  rcases List.eq_nil_or_concat behind with rfl | ⟨rest, last, rfl⟩
  · obtain ⟨rfl, hLast⟩ := List.append_inj' hLog rfl
    exact hEvent node (List.cons.inj hLast).1
  · rw [List.concat_eq_append, ← List.cons_append, ← List.append_assoc] at hLog
    obtain ⟨hInit, -⟩ := List.append_inj' hLog rfl
    exact h before rest node hInit

/-! ## The care of a generation -/

/-- The guard describes this generation, in the directory its descriptor is open on. -/
structure SocketNodeGuard.Owns (guard : SocketNodeGuard) (node : SocketNode) : Prop where
  directory : guard.parentDirectory = some node.directory
  parent : guard.parentPath = node.parent
  leaf : guard.leafName = node.leaf
  parentIdentity : guard.parentIdentity = node.directory
  identity : guard.nodeIdentity = node.identity

/-- There is no armed guard here. -/
def Disarmed : Option SocketNodeGuard → Prop
  | none => True
  | some guard => guard.state ≠ .armed

/-- No armed guard has the identity of this generation. -/
def Unclaimed (guards : Nat → Option SocketNodeGuard) (node : SocketNode) : Prop :=
  ∀ ⦃address guard⦄, guards address = some guard → guard.state = .armed →
    guard.nodeIdentity ≠ node.identity

/-- Armed guards own generations that are bound and not unlinked, each its own. -/
structure Custody (guards : Nat → Option SocketNodeGuard) (log : List SocketEvent) : Prop where
  armed : ∀ {address guard}, guards address = some guard → guard.state = .armed →
    ∃ node ∈ bindings log, guard.Owns node ∧ node ∉ unlinks log
  apart : ∀ {address address' guard guard'}, guards address = some guard →
    guards address' = some guard' → guard.state = .armed → guard'.state = .armed →
    guard.nodeIdentity = guard'.nodeIdentity → address = address'

section

variable {guards : Nat → Option SocketNodeGuard} {log : List SocketEvent} {address : Nat}
  {guard : SocketNodeGuard} {node : SocketNode}

/-- A lookup after an update is a lookup before it or the new guard. -/
theorem update_guard {found : Option SocketNodeGuard} {address' : Nat} {guard' : SocketNodeGuard}
    (h : Function.update guards address found address' = some guard') :
    (address' = address ∧ found = some guard') ∨
      (address' ≠ address ∧ guards address' = some guard') := by
  by_cases hAddress : address' = address
  · subst hAddress
    rw [Function.update_self] at h
    exact Or.inl ⟨rfl, h⟩
  · rw [Function.update_of_ne hAddress] at h
    exact Or.inr ⟨hAddress, h⟩

namespace Unclaimed

theorem put_disarmed (h : Unclaimed guards node) {found : Option SocketNodeGuard}
    (hFound : Disarmed found) :
    Unclaimed (Function.update guards address found) node := by
  intro address' guard' hGuard hArmed
  rcases update_guard hGuard with ⟨-, hNew⟩ | ⟨-, hOld⟩
  · subst hNew
    exact absurd hArmed hFound
  · exact h hOld hArmed

end Unclaimed

namespace Custody

theorem put_disarmed (h : Custody guards log) {found : Option SocketNodeGuard}
    (hFound : Disarmed found) :
    Custody (Function.update guards address found) log := by
  have hOld : ∀ {address' guard'},
      Function.update guards address found address' = some guard' → guard'.state = .armed →
        guards address' = some guard' := by
    intro address' guard' hGuard hArmed
    rcases update_guard hGuard with ⟨-, hNew⟩ | ⟨-, hOld⟩
    · subst hNew
      exact absurd hArmed hFound
    · exact hOld
  constructor
  · intro address' guard' hGuard hArmed
    exact h.armed (hOld hGuard hArmed) hArmed
  · intro a b g g' hG hG' hArmed hArmed' hEq
    exact h.apart (hOld hG hArmed) (hOld hG' hArmed') hArmed hArmed' hEq

/-- A guard may take a generation over that no guard elsewhere has. -/
theorem put_armed (h : Custody guards log) (hOwns : guard.Owns node)
    (hBound : node ∈ bindings log) (hLive : node ∉ unlinks log)
    (hUnclaimed : Unclaimed (Function.update guards address none) node) :
    Custody (Function.update guards address (some guard)) log := by
  have hElsewhere : ∀ {address' guard'}, address' ≠ address → guards address' = some guard' →
      guard'.state = .armed → guard'.nodeIdentity ≠ guard.nodeIdentity := by
    intro address' guard' hNe hGuard hArmed
    rw [hOwns.identity]
    exact hUnclaimed ((Function.update_of_ne hNe ..).trans hGuard) hArmed
  constructor
  · intro address' guard' hGuard hArmed
    rcases update_guard hGuard with ⟨-, hNew⟩ | ⟨-, hOld⟩
    · cases hNew
      exact ⟨node, hBound, hOwns, hLive⟩
    · exact h.armed hOld hArmed
  · intro a b g g' hG hG' hArmed hArmed' hEq
    rcases update_guard hG with ⟨rfl, hNew⟩ | ⟨hNe, hOld⟩ <;>
      rcases update_guard hG' with ⟨rfl, hNew'⟩ | ⟨hNe', hOld'⟩
    · rfl
    · cases hNew
      exact absurd hEq.symm (hElsewhere hNe' hOld' hArmed')
    · cases hNew'
      exact absurd hEq (hElsewhere hNe hOld hArmed)
    · exact h.apart hOld hOld' hArmed hArmed' hEq

/-- Whatever takes the place of an armed guard, its generation is free if that is not armed. -/
theorem unclaimed (h : Custody guards log) (hGuard : guards address = some guard)
    (hArmed : guard.state = .armed) (hOwns : guard.Owns node) {found : Option SocketNodeGuard}
    (hFound : Disarmed found) :
    Unclaimed (Function.update guards address found) node := by
  intro address' guard' hGuard' hArmed' hEq
  rcases update_guard hGuard' with ⟨-, hNew⟩ | ⟨hNe, hOld⟩
  · subst hNew
    exact hFound hArmed'
  · exact hNe (h.apart hOld hGuard hArmed' hArmed (hEq.trans hOwns.identity.symm))

theorem snoc (h : Custody guards log) {event : SocketEvent}
    (hEvent : ∀ node, event = .unlinked node → Unclaimed guards node) :
    Custody guards (log ++ [event]) := by
  refine ⟨?_, h.apart⟩
  intro address guard hGuard hArmed
  obtain ⟨node, hBound, hOwns, hLive⟩ := h.armed hGuard hArmed
  refine ⟨node, ?_, hOwns, ?_⟩
  · rw [bindings_append]
    exact List.mem_append_left _ hBound
  · intro hMem
    rw [unlinks_append, List.mem_append] at hMem
    rcases hMem with hMem | hMem
    · exact hLive hMem
    · cases event with
      | unlinked other =>
          have hNode : node = other := List.mem_singleton.mp hMem
          subst hNode
          exact hEvent node rfl hGuard hArmed hOwns.identity
      | _ => cases hMem

/-- A move: the generation goes to the destination, the source is left with nothing. -/
theorem transfer (h : Custody guards log) {source : Nat} {other : SocketNodeGuard}
    (hNe : source ≠ address) (hSource : guards source = some other) :
    Custody (Function.update (Function.update guards address (some other)) source
      (some other.movedFrom)) log := by
  have hMoved : Disarmed (some other.movedFrom) := by simp [Disarmed, SocketNodeGuard.movedFrom]
  rw [Function.update_comm hNe.symm]
  by_cases hArmed : other.state = .armed
  · obtain ⟨node, hBound, hOwns, hLive⟩ := h.armed hSource hArmed
    apply (h.put_disarmed hMoved).put_armed hOwns hBound hLive
    exact (h.unclaimed hSource hArmed hOwns hMoved).put_disarmed trivial
  · exact (h.put_disarmed hMoved).put_disarmed hArmed

end Custody

end

/-! ## The invariant -/

theorem socketPathParts_parent (path : Bytes) : (socketPathParts path).1 ≠ [] := by
  simp only [socketPathParts]
  split
  · dsimp only
    decide
  · next separator hSeparator =>
      dsimp only
      split
      · decide
      · next hZero =>
          intro hNil
          rcases List.take_eq_nil_iff.mp hNil with hTake | hPath
          · exact hZero hTake
          · subst hPath
            simp [lastSeparator] at hSeparator

theorem splitSocketPath_ne_nil {path parent leaf : Bytes}
    (h : splitSocketPath path = some (parent, leaf)) : parent ≠ [] ∧ leaf ≠ [] := by
  simp only [splitSocketPath] at h
  split at h
  · cases h
  · next hLeaf =>
      have hParts : socketPathParts path = (parent, leaf) := Option.some.inj h
      have hParent := socketPathParts_parent path
      rw [hParts] at hParent hLeaf
      exact ⟨hParent, fun hNil => hLeaf (Or.inl hNil)⟩

namespace SocketWorld

/-- What holds at every stage. -/
structure Kept (w : SocketWorld) : Prop where
  identities : ((bindings w.log).map SocketNode.identity).Nodup
  kinds : ∀ node ∈ bindings w.log,
    w.fs.kind node.identity = some .socket ∧ w.fs.kind node.directory = some .directory
  once : (unlinks w.log).Nodup
  ordered : Ordered w.log
  custody : Custody w.guards w.log

/-- A generation that can still be unlinked, and that no armed guard has. -/
structure Free (w : SocketWorld) (node : SocketNode) : Prop where
  bound : node ∈ bindings w.log
  live : node ∉ unlinks w.log
  unclaimed : Unclaimed w.guards node

/-- No guard but the one at this address is prepared. -/
def Unprepared (w : SocketWorld) (address : Option Nat) : Prop :=
  ∀ ⦃address' guard⦄, w.guards address' = some guard → guard.state = .prepared →
    address = some address'

end SocketWorld

/-- A guard that can be armed, with a descriptor of the directory it was prepared for. -/
structure SocketNodeGuard.Ready (guard : SocketNodeGuard) : Prop where
  state : guard.state = .prepared
  directory : guard.parentDirectory = some guard.parentIdentity

/-- The parts that `split_socket_path` found. -/
def Preparation.Split : Preparation → Prop
  | .validate _ _ => True
  | .openParent parent leaf => parent ≠ [] ∧ leaf ≠ []
  | .statParent parent leaf _ => parent ≠ [] ∧ leaf ≠ []
  | .matchParent parent leaf _ => parent ≠ [] ∧ leaf ≠ []
  | .probe parent leaf _ => parent ≠ [] ∧ leaf ≠ []

namespace SocketWorld

/-- The node that `bind` has made for this guard is still where it was made, and the path of
the parent still leads there. -/
structure Unconfirmed (w : SocketWorld) (guard : SocketNodeGuard) (node : SocketNode) : Prop
    extends Free w node where
  ready : guard.Ready
  parent : guard.parentPath = node.parent
  leaf : guard.leafName = node.leaf
  leads : w.fs.directoryAt node.parent = some node.directory
  entry : w.fs.entry node.directory node.leaf = some node.identity
  last : (bindings w.log).getLast? = some node

def ListeningSound (w : SocketWorld) (guard : SocketNodeGuard) : Listening → Prop
  | .createSocket => guard.Ready
  | .bind => guard.Ready
  | .statNode => ∃ node, w.Unconfirmed guard node
  | .confirmParent identity =>
      w.fs.entry guard.parentIdentity guard.leafName = some identity ∧
        ∃ node, w.Unconfirmed guard node
  | .listen => guard.state = .armed

/-- What the calls of `remove` that have succeeded have shown. -/
def RemovalSound (w : SocketWorld) (node : SocketNode) : Removal → Prop
  | .statParent => True
  | .matchParent => True
  | .statNode => w.log.getLast? = some (.matched node.parent node.directory)
  | .unlink => w.log.getLast? = some (.matched node.parent node.directory) ∧
      w.fs.entry node.directory node.leaf = some node.identity

def StageSound (w : SocketWorld) : SocketStage → Prop
  | .idle => w.Unprepared none
  | .preparing frame next => w.Unprepared none ∧ frame.socketNode ≠ frame.result ∧ next.Split
  | .listening frame next => w.Unprepared (some frame.socketNode) ∧
      frame.socketNode ≠ frame.result ∧
      ∃ guard, w.guards frame.socketNode = some guard ∧ w.ListeningSound guard next
  | .removing address next after => w.Unprepared none ∧ after ≠ .assign address ∧
      ∃ guard node, w.guards address = some guard ∧ guard.state = .consumed ∧
        guard.Owns node ∧ w.Free node ∧ w.RemovalSound node next

structure Sound (w : SocketWorld) : Prop extends Kept w where
  stage : w.StageSound w.stage

/-! ### Updates of the world -/

section

variable {w : SocketWorld} {address : Nat} {guard : SocketNodeGuard} {node : SocketNode}

@[simp]
theorem enter_stage (stage : SocketStage) : (w.enter stage).stage = stage := rfl

@[simp]
theorem enter_log (stage : SocketStage) : (w.enter stage).log = w.log := rfl

@[simp]
theorem put_log (found : Option SocketNodeGuard) : (w.put address found).log = w.log := rfl

@[simp]
theorem record_fs (event : SocketEvent) : (w.record event).fs = w.fs := rfl

@[simp]
theorem record_log (event : SocketEvent) : (w.record event).log = w.log ++ [event] := rfl

namespace Kept

theorem enter (h : Kept w) (stage : SocketStage) : Kept (w.enter stage) :=
  ⟨h.identities, h.kinds, h.once, h.ordered, h.custody⟩

theorem put_disarmed (h : Kept w) {found : Option SocketNodeGuard} (hFound : Disarmed found) :
    Kept (w.put address found) :=
  ⟨h.identities, h.kinds, h.once, h.ordered, h.custody.put_disarmed hFound⟩

/-- An event that is neither a `bind` nor an `unlinkat`. -/
theorem record (h : Kept w) {event : SocketEvent} (hBound : event.boundNode = none)
    (hUnlinked : event.unlinkedNode = none) : Kept (w.record event) := by
  have hBindings : bindings (w.log ++ [event]) = bindings w.log := by
    rw [bindings_append, bindings_singleton, hBound, Option.toList_none, List.append_nil]
  have hUnlinks : unlinks (w.log ++ [event]) = unlinks w.log := by
    rw [unlinks_append, unlinks_singleton, hUnlinked, Option.toList_none, List.append_nil]
  have hOther : ∀ node, event ≠ .unlinked node := by
    rintro node rfl
    cases hUnlinked
  refine ⟨?_, ?_, ?_, ?_, ?_⟩
  · rw [record_log, hBindings]
    exact h.identities
  · rw [record_log, hBindings]
    exact h.kinds
  · rw [record_log, hUnlinks]
    exact h.once
  · exact h.ordered.snoc fun node hEvent => absurd hEvent (hOther node)
  · exact h.custody.snoc fun node hEvent => absurd hEvent (hOther node)

theorem evolves (h : Kept w) {fs : FileSystem Bytes Bytes} (hEvolves : w.fs.Evolves fs) :
    Kept { w with fs := fs } := by
  refine ⟨h.identities, ?_, h.once, h.ordered, h.custody⟩
  intro node hNode
  obtain ⟨hSocket, hDirectory⟩ := h.kinds node hNode
  exact ⟨hEvolves hSocket, hEvolves hDirectory⟩

end Kept

theorem Free.enter (h : w.Free node) (stage : SocketStage) : (w.enter stage).Free node :=
  ⟨h.bound, h.live, h.unclaimed⟩

theorem Unconfirmed.enter (h : w.Unconfirmed guard node) (stage : SocketStage) :
    (w.enter stage).Unconfirmed guard node :=
  ⟨h.toFree.enter stage, h.ready, h.parent, h.leaf, h.leads, h.entry, h.last⟩

namespace Unprepared

theorem put (h : w.Unprepared (some address)) {found : Option SocketNodeGuard}
    (hFound : ∀ guard, found = some guard → guard.state ≠ .prepared) :
    (w.put address found).Unprepared none := by
  intro address' guard hGuard hPrepared
  rcases update_guard hGuard with ⟨-, hNew⟩ | ⟨hNe, hOld⟩
  · exact absurd hPrepared (hFound guard hNew)
  · exact absurd (Option.some.inj (h hOld hPrepared)).symm hNe

theorem weaken (h : w.Unprepared none) (found : Option Nat) : w.Unprepared found := by
  intro address' guard hGuard hPrepared
  exact absurd (h hGuard hPrepared) (by simp)

/-- A new guard at the address that may have a prepared one. -/
theorem put_self (h : w.Unprepared (some address)) (found : Option SocketNodeGuard) :
    (w.put address found).Unprepared (some address) := by
  intro address' guard hGuard hPrepared
  rcases update_guard hGuard with ⟨rfl, -⟩ | ⟨-, hOld⟩
  · rfl
  · exact h hOld hPrepared

end Unprepared

theorem Sound.idle (h : Kept w) (hUnprepared : w.Unprepared none) : Sound (w.enter .idle) :=
  ⟨h.enter _, hUnprepared⟩

/-! ### `remove` -/

theorem afterRemoval_sound (h : Kept w) (hUnprepared : w.Unprepared none) {after : AfterRemoval}
    (hAfter : after ≠ .assign address) : Sound (w.afterRemoval address after) := by
  have hGone : (w.put address none).Unprepared none :=
    (hUnprepared.weaken _).put fun guard hGuard => by cases hGuard
  have hPut : Kept (w.put address none) := h.put_disarmed trivial
  cases after with
  | done => exact .idle h hUnprepared
  | destroyed => exact .idle hPut hGone
  | unwound result => exact .idle (hPut.record rfl rfl) hGone
  | assign source =>
      have hNe : source ≠ address := by
        rintro rfl
        exact hAfter rfl
      simp only [afterRemoval]
      split
      · exact .idle h hUnprepared
      · next other hOther =>
          refine .idle ⟨h.identities, h.kinds, h.once, h.ordered, h.custody.transfer hNe hOther⟩ ?_
          have hMoved : (w.put address (some other)).Unprepared none := by
            refine (hUnprepared.weaken _).put ?_
            rintro guard hGuard hPrepared
            cases hGuard
            exact absurd (hUnprepared hOther hPrepared) (by simp)
          refine (hMoved.weaken _).put ?_
          rintro guard hGuard
          cases hGuard
          simp [SocketNodeGuard.movedFrom]

theorem consume_owns (h : guard.Owns node) : guard.consume.Owns node :=
  ⟨h.directory, h.parent, h.leaf, h.parentIdentity, h.identity⟩

/-- The care of an armed guard's generation goes to the removal. -/
theorem remove_sound (h : Kept w) (hUnprepared : w.Unprepared (some address))
    (hGuard : guard.state = .armed → w.guards address = some guard) {after : AfterRemoval}
    (hAfter : after ≠ .assign address) : Sound (w.remove address guard after) := by
  have hDisarmed : Disarmed (some guard.consume) := by
    simp [Disarmed, SocketNodeGuard.consume]
  have hKept : Kept (w.put address (some guard.consume)) := h.put_disarmed hDisarmed
  have hConsumed : (w.put address (some guard.consume)).Unprepared none := by
    refine hUnprepared.put ?_
    rintro guard' hGuard'
    cases hGuard'
    simp [SocketNodeGuard.consume]
  simp only [remove]
  split
  · next hRemovable =>
      have hArmed : guard.state = .armed := by
        simp only [SocketNodeGuard.removable, Bool.and_eq_true, decide_eq_true_eq] at hRemovable
        exact hRemovable.1
      obtain ⟨node, hBound, hOwns, hLive⟩ := h.custody.armed (hGuard hArmed) hArmed
      refine ⟨hKept.enter _, hConsumed, hAfter, guard.consume, node, ?_, rfl, consume_owns hOwns,
        ⟨hBound, hLive, ?_⟩, trivial⟩
      · exact Function.update_self ..
      · exact h.custody.unclaimed (hGuard hArmed) hArmed hOwns hDisarmed
  · exact afterRemoval_sound hKept hConsumed hAfter

theorem removalStep_sound {directory : Identity} {next : Removal} {after : AfterRemoval}
    (h : Kept w) (hStage : w.StageSound (.removing address next after))
    (hGuard : w.guards address = some guard) (hDirectory : guard.parentDirectory = some directory)
    {w' : SocketWorld} (hStep : Removes w address guard directory after next w') : Sound w' := by
  obtain ⟨hUnprepared, hAfter, guard', node, hGuard', hState, hOwns, hFree, hNext⟩ := hStage
  obtain rfl : guard = guard' := Option.some.inj (hGuard.symm.trans hGuard')
  obtain rfl : directory = node.directory :=
    Option.some.inj (hDirectory.symm.trans hOwns.directory)
  cases hStep with
  | stopped => exact afterRemoval_sound h hUnprepared hAfter
  | inspected =>
      exact ⟨h.enter _, hUnprepared, hAfter, guard, node, hGuard, hState, hOwns, hFree.enter _,
        trivial⟩
  | matched =>
      refine ⟨(h.record rfl rfl).enter _, hUnprepared, hAfter, guard, node, hGuard, hState, hOwns,
        ⟨?_, ?_, hFree.unclaimed⟩, ?_⟩
      · simpa using hFree.bound
      · simpa using hFree.live
      · simp [RemovalSound, hOwns.parent, hOwns.parentIdentity]
  | found hEntry =>
      refine ⟨h.enter _, hUnprepared, hAfter, guard, node, hGuard, hState, hOwns, hFree.enter _,
        hNext, ?_⟩
      rw [hOwns.leaf, hOwns.identity] at hEntry
      exact hEntry
  | unlinked hEntry =>
      obtain ⟨hMatched, hNode⟩ := hNext
      rw [hOwns.leaf] at hEntry
      obtain rfl := Option.some.inj (hEntry.symm.trans hNode)
      rw [hOwns.leaf, hOwns.parent]
      apply afterRemoval_sound _ _ hAfter
      swap
      · exact hUnprepared
      refine ⟨?_, ?_, ?_, ?_, ?_⟩
      · simpa using h.identities
      · simpa using h.kinds
      · have hOnce : (unlinks w.log ++ [node]).Nodup := by
          rw [List.nodup_append]
          refine ⟨h.once, List.nodup_singleton _, ?_⟩
          rintro node' hMem _ hNode' rfl
          rw [List.mem_singleton] at hNode'
          exact hFree.live (hNode' ▸ hMem)
        simpa using hOnce
      · apply h.ordered.snoc
        rintro node' hEvent
        cases hEvent
        exact ⟨mem_bindings.mp hFree.bound, hMatched⟩
      · apply h.custody.snoc
        rintro node' hEvent
        cases hEvent
        exact hFree.unclaimed

/-! ### `create_unix_listener_impl` -/

theorem preparationStep_sound {frame : ListenerFrame} {next : Preparation} (h : Kept w)
    (hStage : w.StageSound (.preparing frame next)) {w' : SocketWorld}
    (hStep : Prepares w frame next w') : Sound w' := by
  obtain ⟨hUnprepared, hFrame, hSplit⟩ := hStage
  cases hStep with
  | failed => exact .idle (h.record rfl rfl) hUnprepared
  | validated hParts => exact ⟨h.enter _, hUnprepared, hFrame, splitSocketPath_ne_nil hParts⟩
  | opened => exact ⟨h.enter _, hUnprepared, hFrame, hSplit⟩
  | inspected => exact ⟨h.enter _, hUnprepared, hFrame, hSplit⟩
  | matched => exact ⟨(h.record rfl rfl).enter _, hUnprepared, hFrame, hSplit⟩
  | @prepared parent leaf directory =>
      have hState : (SocketNodeGuard.prepare (some directory) parent leaf directory).state =
          .prepared := by
        simp [SocketNodeGuard.prepare, hSplit.1, hSplit.2]
      have hDisarmed :
          Disarmed (some (SocketNodeGuard.prepare (some directory) parent leaf directory)) := by
        simp [Disarmed, hState]
      refine ⟨(h.put_disarmed hDisarmed).enter _, (hUnprepared.weaken _).put_self _, hFrame, _,
        Function.update_self .., hState, rfl⟩

theorem Kept.mem_bindings_of_unlinks (h : Kept w) (hMem : node ∈ unlinks w.log) :
    node ∈ bindings w.log := by
  obtain ⟨event, hEvent, hNode⟩ := List.mem_filterMap.mp hMem
  cases event with
  | unlinked other =>
      cases hNode
      obtain ⟨before, behind, hLog⟩ := List.append_of_mem hEvent
      have hBound := (h.ordered before behind node hLog).1
      rw [mem_bindings, hLog]
      exact List.mem_append_left _ hBound
  | _ => cases hNode

section

variable {frame : ListenerFrame} {directory identity : Identity}

/-- A new node has an identity that no generation before it had. -/
theorem Kept.identity_ne (h : Kept w) (hFresh : w.fs.kind identity = none)
    (hNode : node ∈ bindings w.log) : node.identity ≠ identity := by
  rintro rfl
  have hKind := (h.kinds node hNode).1
  rw [hFresh] at hKind
  exact absurd hKind (by simp)

theorem Kept.bind (h : Kept w) (hLeads : w.fs.directoryAt guard.parentPath = some directory)
    (hFresh : w.fs.kind identity = none) :
    Kept (w.bindWorld frame guard directory identity hFresh) := by
  have hEvolves :
      w.fs.Evolves (w.fs.link directory guard.leafName identity .socket hFresh) :=
    evolves_link hFresh
  refine ⟨?_, ?_, ?_, ?_, ?_⟩
  · have hNodup : ((bindings w.log).map SocketNode.identity ++ [identity]).Nodup := by
      rw [List.nodup_append]
      refine ⟨h.identities, List.nodup_singleton _, ?_⟩
      intro old hOld new hMem hEq
      obtain ⟨node, hNode, rfl⟩ := List.mem_map.mp hOld
      rw [List.mem_singleton] at hMem
      exact h.identity_ne hFresh hNode (hEq.trans hMem)
    simpa [bindWorld] using hNodup
  · intro node hNode
    rw [bindWorld, enter_log, record_log, bindings_append, List.mem_append] at hNode
    rcases hNode with hNode | hNode
    · obtain ⟨hSocket, hDirectory⟩ := h.kinds node hNode
      exact ⟨hEvolves hSocket, hEvolves hDirectory⟩
    · obtain rfl := List.mem_singleton.mp hNode
      exact ⟨link_kind_self hFresh, hEvolves (w.fs.directoryAt_kind hLeads)⟩
  · simpa [bindWorld] using h.once
  · exact h.ordered.snoc fun node hEvent => by cases hEvent
  · exact h.custody.snoc fun node hEvent => by cases hEvent

theorem Kept.unconfirmed (h : Kept w) (hReady : guard.Ready)
    (hLeads : w.fs.directoryAt guard.parentPath = some directory)
    (hFresh : w.fs.kind identity = none) :
    (w.bindWorld frame guard directory identity hFresh).Unconfirmed guard
      ⟨guard.parentPath, directory, guard.leafName, identity⟩ := by
  refine ⟨⟨?_, ?_, ?_⟩, hReady, rfl, rfl, hLeads, link_entry_self hFresh, by simp [bindWorld]⟩
  · simp [bindWorld]
  · intro hMem
    rw [bindWorld, enter_log, record_log, unlinks_append, unlinks_singleton,
      List.mem_append] at hMem
    rcases hMem with hMem | hMem
    · exact h.identity_ne hFresh (h.mem_bindings_of_unlinks hMem) rfl
    · cases hMem
  · intro address' guard' hGuard' hArmed
    obtain ⟨node, hNode, hOwns, -⟩ := h.custody.armed hGuard' hArmed
    rw [hOwns.identity]
    exact h.identity_ne hFresh hNode

end

theorem arm_owns (hUnconfirmed : w.Unconfirmed guard node) {identity : Identity}
    (hEntry : w.fs.entry guard.parentIdentity guard.leafName = some identity)
    (hLeads : w.fs.directoryAt guard.parentPath = some guard.parentIdentity) :
    (guard.arm identity).Owns node ∧ (guard.arm identity).state = .armed := by
  have hReady := hUnconfirmed.ready
  -- the path leads where `bind` went, so the descriptor is open on that directory
  have hDirectory : guard.parentIdentity = node.directory := by
    rw [hUnconfirmed.parent, hUnconfirmed.leads] at hLeads
    exact (Option.some.inj hLeads).symm
  have hIdentity : identity = node.identity := by
    rw [hDirectory, hUnconfirmed.leaf, hUnconfirmed.entry] at hEntry
    exact (Option.some.inj hEntry).symm
  rw [SocketNodeGuard.arm, if_pos hReady.state]
  exact ⟨⟨hReady.directory.trans (congrArg some hDirectory), hUnconfirmed.parent,
    hUnconfirmed.leaf, hDirectory, hIdentity⟩, rfl⟩

theorem listeningStep_sound {frame : ListenerFrame} {next : Listening} (h : Kept w)
    (hStage : w.StageSound (.listening frame next))
    (hGuard : w.guards frame.socketNode = some guard) {w' : SocketWorld}
    (hStep : Listens w frame guard next w') : Sound w' := by
  obtain ⟨hUnprepared, hFrame, guard', hGuard', hNext⟩ := hStage
  obtain rfl : guard = guard' := Option.some.inj (hGuard.symm.trans hGuard')
  have hUnwind : ∀ result, Sound (w.unwind frame guard result) := fun result =>
    remove_sound h hUnprepared (fun _ => hGuard) (by simp)
  have hAbandon : guard.Ready → ∀ result,
      Sound (w.unwind frame guard.abandonUnverifiedBind result) := by
    intro hReady result
    refine remove_sound h hUnprepared (fun hArmed => ?_) (by simp)
    rw [SocketNodeGuard.abandonUnverifiedBind, if_pos hReady.state] at hArmed
    exact absurd hArmed (by simp)
  cases hStep with
  | notCreated => exact hUnwind _
  | created => exact ⟨h.enter _, hUnprepared, hFrame, guard, hGuard, hNext⟩
  | notBound => exact hUnwind _
  | bound hLeads hFresh =>
      exact ⟨h.bind hLeads hFresh, hUnprepared, hFrame, guard, hGuard, _,
        h.unconfirmed hNext hLeads hFresh⟩
  | notCaptured =>
      obtain ⟨node, hUnconfirmed⟩ := hNext
      exact hAbandon hUnconfirmed.ready _
  | captured hDirectory hEntry =>
      obtain ⟨node, hUnconfirmed⟩ := hNext
      rw [hUnconfirmed.ready.directory] at hDirectory
      cases hDirectory
      exact ⟨h.enter _, hUnprepared, hFrame, guard, hGuard, hEntry, node, hUnconfirmed.enter _⟩
  | notConfirmed =>
      obtain ⟨-, node, hUnconfirmed⟩ := hNext
      exact hAbandon hUnconfirmed.ready _
  | confirmed hLeads =>
      obtain ⟨hEntry, node, hUnconfirmed⟩ := hNext
      obtain ⟨hOwns, hArmed⟩ := arm_owns hUnconfirmed hEntry hLeads
      have hKept : Kept (w.record (.matched guard.parentPath guard.parentIdentity)) :=
        h.record rfl rfl
      refine ⟨⟨hKept.identities, hKept.kinds, hKept.once, hKept.ordered, ?_⟩,
        hUnprepared.put_self _, hFrame, _, Function.update_self .., hArmed⟩
      apply hKept.custody.put_armed hOwns
      · simpa using hUnconfirmed.bound
      · simpa using hUnconfirmed.live
      · exact hUnconfirmed.unclaimed.put_disarmed trivial
  | notListening => exact hUnwind _
  | listening =>
      have hKept : Kept ((w.put frame.result (some guard)).put frame.socketNode
          (some guard.movedFrom)) :=
        ⟨h.identities, h.kinds, h.once, h.ordered, h.custody.transfer hFrame hGuard⟩
      apply remove_sound hKept
      · refine Unprepared.put_self ?_ _
        intro address' guard' hGuard' hPrepared
        rcases update_guard hGuard' with ⟨-, hNew⟩ | ⟨-, hOld⟩
        · cases hNew
          rw [show guard.state = .armed from hNext] at hPrepared
          exact absurd hPrepared (by simp)
        · exact hUnprepared hOld hPrepared
      · simp [SocketNodeGuard.movedFrom]
      · simp

/-! ### Runs -/

/-- Between operations no guard is prepared, so `arm` and `abandon_unverified_bind` change
nothing there. -/
theorem perform_sound (h : Sound w) (hStage : w.stage = .idle) {operation : GuardOperation}
    {w' : SocketWorld} (hStep : w.perform operation = some w') : Sound w' := by
  have hKept := h.toKept
  have hUnprepared : w.Unprepared none := by
    have hSound := h.stage
    rw [hStage] at hSound
    exact hSound
  have hSettled : ∀ {address guard}, w.guards address = some guard → guard.state ≠ .prepared := by
    intro address guard hGuard hPrepared
    exact absurd (hUnprepared hGuard hPrepared) (by simp)
  have hRemove : ∀ {address guard after}, w.guards address = some guard →
      after ≠ .assign address → Sound (w.remove address guard after) := fun hGuard hAfter =>
    remove_sound hKept (hUnprepared.weaken _) (fun _ => hGuard) hAfter
  have hSame : ∀ {address guard}, w.guards address = some guard →
      Sound (w.put address (some guard)) := by
    intro address guard hGuard
    have hPut : w.put address (some guard) = w := by
      rw [put, ← hGuard, Function.update_eq_self]
    rw [hPut]
    exact h
  cases operation with
  | construct address =>
      simp only [perform] at hStep
      split at hStep
      · cases hStep
        have hPut : Kept (w.put address (some {})) := hKept.put_disarmed (by simp [Disarmed])
        refine ⟨hPut, ?_⟩
        show (w.put address (some {})).StageSound w.stage
        rw [hStage]
        refine (hUnprepared.weaken _).put ?_
        rintro guard hGuard
        cases hGuard
        simp
      · cases hStep
  | moveConstruct address source =>
      simp only [perform] at hStep
      split at hStep
      · next hFree =>
          cases hStep
          apply remove_sound
          · exact hKept.put_disarmed (by simp [Disarmed])
          · exact (hUnprepared.weaken _).put_self _
          · simp
          · rintro hAfter
            cases hAfter
            rw [hFree.1] at hFree
            exact absurd hFree.2 (by simp)
      · cases hStep
  | moveAssign address source =>
      obtain ⟨guard, hGuard, hStep⟩ := Option.bind_eq_some_iff.mp hStep
      split at hStep
      · cases hStep
        exact h
      · next hNe =>
          split at hStep
          · cases hStep
            refine hRemove hGuard ?_
            rintro hAfter
            cases hAfter
            exact hNe rfl
          · cases hStep
  | arm address identity =>
      obtain ⟨guard, hGuard, rfl⟩ := Option.map_eq_some_iff.mp hStep
      rw [SocketNodeGuard.arm, if_neg (hSettled hGuard)]
      exact hSame hGuard
  | abandonUnverifiedBind address =>
      obtain ⟨guard, hGuard, rfl⟩ := Option.map_eq_some_iff.mp hStep
      rw [SocketNodeGuard.abandonUnverifiedBind, if_neg (hSettled hGuard)]
      exact hSame hGuard
  | remove address =>
      obtain ⟨guard, hGuard, rfl⟩ := Option.map_eq_some_iff.mp hStep
      exact hRemove hGuard (by simp)
  | destroy address =>
      obtain ⟨guard, hGuard, rfl⟩ := Option.map_eq_some_iff.mp hStep
      exact hRemove hGuard (by simp)
  | createUnixListener frame path backlog =>
      simp only [perform] at hStep
      split at hStep
      · next hFrame =>
          cases hStep
          exact ⟨hKept.enter _, hUnprepared, hFrame.2.2, trivial⟩
      · cases hStep

/-- The facts about the file system that a stage rests on are those of the two windows. -/
theorem others_sound (h : Sound w) {fs : FileSystem Bytes Bytes}
    (hWindow : w.stage.window = false) (hEvolves : w.fs.Evolves fs) :
    Sound { w with fs := fs } := by
  refine ⟨h.toKept.evolves hEvolves, ?_⟩
  have hSound := h.stage
  revert hSound
  show w.StageSound w.stage → StageSound { w with fs := fs } w.stage
  cases hStage : w.stage with
  | idle => exact id
  | preparing frame next => exact id
  | listening frame next =>
      rw [hStage] at hWindow
      cases next with
      | statNode => cases hWindow
      | confirmParent identity => cases hWindow
      | _ => exact id
  | removing address next after =>
      rw [hStage] at hWindow
      rintro ⟨hUnprepared, hAfter, guard, node, hGuard, hState, hOwns, hFree, hNext⟩
      refine ⟨hUnprepared, hAfter, guard, node, hGuard, hState, hOwns,
        ⟨hFree.bound, hFree.live, hFree.unclaimed⟩, ?_⟩
      cases next with
      | unlink => cases hWindow
      | _ => exact hNext

variable [Kernel]

theorem step_sound (h : Sound w) {choice : SocketChoice} {w' : SocketWorld}
    (hStep : w.step choice = some w') : Sound w' := by
  have hSound := h.stage
  simp only [step] at hStep
  split at hStep
  · next hStage =>
      split at hStep
      · exact perform_sound h hStage hStep
      · cases hStep
  · next frame next hStage =>
      rw [hStage] at hSound
      exact preparationStep_sound h.toKept hSound (prepares_of_step hStep)
  · next frame next hStage =>
      rw [hStage] at hSound
      obtain ⟨guard, hGuard, hStep⟩ := Option.bind_eq_some_iff.mp hStep
      exact listeningStep_sound h.toKept hSound hGuard (listens_of_step hStep)
  · next address next after hStage =>
      rw [hStage] at hSound
      obtain ⟨guard, hGuard, hStep⟩ := Option.bind_eq_some_iff.mp hStep
      obtain ⟨directory, hDirectory, rfl⟩ := Option.map_eq_some_iff.mp hStep
      exact removalStep_sound h.toKept hSound hGuard hDirectory (removes_of_step ..)

omit [Kernel] in
theorem initial_sound (fs : FileSystem Bytes Bytes) : Sound (initial fs) := by
  constructor
  · refine ⟨List.nodup_nil, ?_, List.nodup_nil, ?_, ⟨?_, ?_⟩⟩
    · intro node hNode
      cases hNode
    · intro before behind node hLog
      simp [initial] at hLog
    · intro address guard hGuard
      cases hGuard
    · intro address address' guard guard' hGuard
      cases hGuard
  · intro address guard hGuard
    cases hGuard

theorem Step.sound {w' : SocketWorld} (hStep : Step w w') (h : Sound w) : Sound w' := by
  cases hStep with
  | process choice hStep => exact step_sound h hStep
  | others hWindow hEvolves => exact others_sound h hWindow hEvolves

theorem Reachable.sound (h : Reachable w) : Sound w := by
  obtain ⟨fs, hRun⟩ := h
  induction hRun with
  | refl => exact initial_sound fs
  | tail _ hStep ih => exact hStep.sound ih

end

end SocketWorld

end PhotospiderDaemon.Ipc
