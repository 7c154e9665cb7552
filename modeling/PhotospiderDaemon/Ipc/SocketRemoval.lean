import PhotospiderDaemon.Ipc.SocketOwnership

/-!
# What the process does to the file system

A step of the process makes one node, unlinks one entry that it has bound, or leaves the file
system as it is. From this follow the effects of a whole call of `create_unix_listener`.
-/

namespace PhotospiderDaemon.Ipc

open Foundation FileSystem

/-- The event is a change of the file system. -/
@[simp]
def SocketEvent.effect : SocketEvent → Bool
  | .bound _ => true
  | .unlinked _ => true
  | _ => false

def effects (log : List SocketEvent) : List SocketEvent := log.filter SocketEvent.effect

@[simp]
theorem effects_append (log more : List SocketEvent) :
    effects (log ++ more) = effects log ++ effects more :=
  List.filter_append ..

@[simp]
theorem effects_nil : effects [] = [] := rfl

@[simp]
theorem effects_cons (event : SocketEvent) (log : List SocketEvent) :
    effects (event :: log) = if event.effect then event :: effects log else effects log :=
  List.filter_cons

@[simp]
def SocketEvent.sighting : SocketEvent → Option (Bytes × Identity)
  | .matched parent directory => some (parent, directory)
  | _ => none

/-- The directories that paths of parents were found to lead to. -/
def sightings (log : List SocketEvent) : List (Bytes × Identity) :=
  log.filterMap SocketEvent.sighting

@[simp]
theorem sightings_append (log more : List SocketEvent) :
    sightings (log ++ more) = sightings log ++ sightings more :=
  List.filterMap_append ..

@[simp]
theorem sightings_singleton (event : SocketEvent) :
    sightings [event] = event.sighting.toList := by
  cases event <;> rfl

/-- The stages of a creation up to `bind`. -/
def SocketStage.unbound : SocketStage → Bool
  | .preparing _ _ => true
  | .listening _ .createSocket => true
  | .listening _ .bind => true
  | _ => false

namespace SocketWorld

/-- Nothing happens to the file system. -/
structure Quiet (w w' : SocketWorld) : Prop where
  fs : w'.fs = w.fs
  effects : effects w'.log = effects w.log

/-- Nothing happens to the file system and no parent is looked up. -/
structure Silent (w w' : SocketWorld) : Prop extends Quiet w w' where
  sightings : sightings w'.log = sightings w.log

/-- A parent that a step reports to be in place is in place. -/
def Looks (w w' : SocketWorld) : Prop :=
  sightings w'.log = sightings w.log ∨
    ∃ parent directory, sightings w'.log = sightings w.log ++ [(parent, directory)] ∧
      w.fs.directoryAt parent = some directory

/-- The entry of this generation goes: it was bound and not yet unlinked, it still is what was
bound, and the path of its parent was just found to lead to its directory. -/
structure Unlinks (w w' : SocketWorld) (node : SocketNode) : Prop where
  bound : .bound node ∈ w.log
  first : .unlinked node ∉ w.log
  captured : ∃ address guard, w.guards address = some guard ∧ guard.Owns node
  entry : w.fs.entry node.directory node.leaf = some node.identity
  kind : w.fs.kind node.identity = some .socket
  parent : w.log.getLast? = some (.matched node.parent node.directory)
  fs : w'.fs = w.fs.unlink node.directory node.leaf
  effects : effects w'.log = effects w.log ++ [.unlinked node]

structure Binds (w w' : SocketWorld) (node : SocketNode) : Prop where
  leads : w.fs.directoryAt node.parent = some node.directory
  fresh : w.fs.kind node.identity = none
  fs : w'.fs = w.fs.link node.directory node.leaf node.identity .socket fresh
  effects : effects w'.log = effects w.log ++ [.bound node]

/-- What one step of the process does. -/
inductive Effect (w w' : SocketWorld) : Prop where
  | quiet (h : Quiet w w')
  | binds (node : SocketNode) (h : Binds w w' node)
  | unlinks (node : SocketNode) (h : Unlinks w w' node)

section

variable {w w' : SocketWorld} {address : Nat} {guard : SocketNodeGuard} {node : SocketNode}

theorem Silent.trans {w'' : SocketWorld} (h : Silent w w') (h' : Silent w' w'') :
    Silent w w'' :=
  ⟨⟨h'.fs.trans h.fs, h'.effects.trans h.effects⟩, h'.sightings.trans h.sightings⟩

theorem silent_put (w : SocketWorld) (address : Nat) (found : Option SocketNodeGuard) :
    Silent w (w.put address found) :=
  ⟨⟨rfl, rfl⟩, rfl⟩

theorem silent_enter (w : SocketWorld) (stage : SocketStage) : Silent w (w.enter stage) :=
  ⟨⟨rfl, rfl⟩, rfl⟩

theorem silent_returned (w : SocketWorld) (result : ListenerResult) :
    Silent w (w.record (.returned result)) :=
  ⟨⟨rfl, by simp⟩, by simp⟩

theorem silent_afterRemoval (w : SocketWorld) (address : Nat) (after : AfterRemoval) :
    Silent w (w.afterRemoval address after) := by
  cases after with
  | done => exact silent_enter ..
  | destroyed => exact (silent_put ..).trans (silent_enter ..)
  | unwound result =>
      exact ((silent_put ..).trans (silent_returned ..)).trans (silent_enter ..)
  | assign source =>
      simp only [afterRemoval]
      split
      · exact silent_enter ..
      · exact ((silent_put ..).trans (silent_put ..)).trans (silent_enter ..)

theorem silent_remove (w : SocketWorld) (address : Nat) (guard : SocketNodeGuard)
    (after : AfterRemoval) : Silent w (w.remove address guard after) := by
  simp only [remove]
  split
  · exact (silent_put ..).trans (silent_enter ..)
  · exact (silent_put ..).trans (silent_afterRemoval ..)

theorem silent_perform {operation : GuardOperation} (h : w.perform operation = some w') :
    Silent w w' := by
  cases operation with
  | construct address =>
      simp only [perform] at h
      split at h <;> cases h
      exact silent_put ..
  | moveConstruct address source =>
      simp only [perform] at h
      split at h <;> cases h
      exact (silent_put ..).trans (silent_remove ..)
  | moveAssign address source =>
      obtain ⟨guard, -, h⟩ := Option.bind_eq_some_iff.mp h
      split at h
      · cases h
        exact ⟨⟨rfl, rfl⟩, rfl⟩
      · split at h <;> cases h
        exact silent_remove ..
  | arm address identity =>
      obtain ⟨guard, -, rfl⟩ := Option.map_eq_some_iff.mp h
      exact silent_put ..
  | abandonUnverifiedBind address =>
      obtain ⟨guard, -, rfl⟩ := Option.map_eq_some_iff.mp h
      exact silent_put ..
  | remove address =>
      obtain ⟨guard, -, rfl⟩ := Option.map_eq_some_iff.mp h
      exact silent_remove ..
  | destroy address =>
      obtain ⟨guard, -, rfl⟩ := Option.map_eq_some_iff.mp h
      exact silent_remove ..
  | createUnixListener frame path backlog =>
      simp only [perform] at h
      split at h <;> cases h
      exact silent_enter ..

theorem Prepares.quiet {frame : ListenerFrame} {next : Preparation}
    (h : Prepares w frame next w') : Quiet w w' := by
  cases h with
  | failed => exact ((silent_returned ..).trans (silent_enter ..)).toQuiet
  | matched => exact ⟨rfl, by simp⟩
  | _ => exact ⟨rfl, rfl⟩

theorem Prepares.looks {frame : ListenerFrame} {next : Preparation}
    (h : Prepares w frame next w') : Looks w w' := by
  cases h with
  | failed => exact .inl ((silent_returned ..).trans (silent_enter ..)).sightings
  | matched hLeads => exact .inr ⟨_, _, by simp, hLeads⟩
  | _ => exact .inl rfl

theorem Listens.effect {frame : ListenerFrame} {next : Listening}
    (h : Listens w frame guard next w') : Effect w w' := by
  cases h with
  | bound hLeads hFresh =>
      exact .binds ⟨guard.parentPath, _, guard.leafName, _⟩
        ⟨hLeads, hFresh, rfl, by simp [bindWorld]⟩
  | created => exact .quiet ⟨rfl, rfl⟩
  | captured => exact .quiet ⟨rfl, rfl⟩
  | confirmed => exact .quiet ⟨rfl, by simp⟩
  | listening =>
      exact .quiet (((silent_put ..).trans (silent_put ..)).trans (silent_remove ..)).toQuiet
  | _ => exact .quiet (silent_remove ..).toQuiet

theorem Listens.looks {frame : ListenerFrame} {next : Listening}
    (h : Listens w frame guard next w') : Looks w w' := by
  cases h with
  | bound => exact .inl (by simp [bindWorld])
  | created => exact .inl rfl
  | captured => exact .inl rfl
  | confirmed hLeads => exact .inr ⟨_, _, by simp, hLeads⟩
  | listening =>
      exact .inl (((silent_put ..).trans (silent_put ..)).trans (silent_remove ..)).sightings
  | _ => exact .inl (silent_remove ..).sightings

theorem Removes.effect {directory : Identity} {next : Removal} {after : AfterRemoval}
    (h : Kept w) (hStage : w.StageSound (.removing address next after))
    (hGuard : w.guards address = some guard) (hDirectory : guard.parentDirectory = some directory)
    (hStep : Removes w address guard directory after next w') : Effect w w' := by
  obtain ⟨-, -, guard', node, hGuard', -, hOwns, hFree, hNext⟩ := hStage
  obtain rfl : guard = guard' := Option.some.inj (hGuard.symm.trans hGuard')
  obtain rfl : directory = node.directory :=
    Option.some.inj (hDirectory.symm.trans hOwns.directory)
  cases hStep with
  | stopped => exact .quiet (silent_afterRemoval ..).toQuiet
  | inspected => exact .quiet ⟨rfl, rfl⟩
  | matched => exact .quiet ⟨rfl, by simp⟩
  | found => exact .quiet ⟨rfl, rfl⟩
  | unlinked hEntry =>
      obtain ⟨hMatched, hNode⟩ := hNext
      rw [hOwns.leaf] at hEntry
      obtain rfl := Option.some.inj (hEntry.symm.trans hNode)
      have hLive : .unlinked node ∉ w.log := fun hMem =>
        hFree.live (List.mem_filterMap.mpr ⟨_, hMem, rfl⟩)
      rw [hOwns.leaf, hOwns.parent]
      have hAfter := silent_afterRemoval
        ({ w with fs := w.fs.unlink node.directory node.leaf }.record (.unlinked node)) address
        after
      exact .unlinks node ⟨mem_bindings.mp hFree.bound, hLive, ⟨address, guard, hGuard, hOwns⟩,
        hNode, (h.kinds node hFree.bound).1, hMatched, hAfter.fs, hAfter.effects.trans (by simp)⟩

theorem Removes.looks {directory : Identity} {next : Removal} {after : AfterRemoval}
    (h : Removes w address guard directory after next w') : Looks w w' := by
  cases h with
  | stopped => exact .inl (silent_afterRemoval ..).sightings
  | inspected => exact .inl rfl
  | matched hLeads => exact .inr ⟨_, _, by simp, hLeads⟩
  | found => exact .inl rfl
  | unlinked => exact .inl ((silent_afterRemoval ..).sightings.trans (by simp))

theorem effect_step [Kernel] (h : Sound w) {choice : SocketChoice}
    (hStep : w.step choice = some w') : Effect w w' ∧ Looks w w' := by
  have hSound := h.stage
  simp only [step] at hStep
  split at hStep
  · split at hStep
    · have hSilent := silent_perform hStep
      exact ⟨.quiet hSilent.toQuiet, .inl hSilent.sightings⟩
    · cases hStep
  · have hPrepares := prepares_of_step hStep
    exact ⟨.quiet hPrepares.quiet, hPrepares.looks⟩
  · obtain ⟨guard, hGuard, hStep⟩ := Option.bind_eq_some_iff.mp hStep
    have hListens := listens_of_step hStep
    exact ⟨hListens.effect, hListens.looks⟩
  · next address next after hStage =>
      rw [hStage] at hSound
      obtain ⟨guard, hGuard, hStep⟩ := Option.bind_eq_some_iff.mp hStep
      obtain ⟨directory, hDirectory, rfl⟩ := Option.map_eq_some_iff.mp hStep
      have hRemoves := removes_of_step w choice address guard directory after next
      exact ⟨hRemoves.effect h.toKept hSound hGuard hDirectory, hRemoves.looks⟩

/-! ## A call of `create_unix_listener` -/

/-- Steps up to the end of the call that is going on. -/
def InCall [Kernel] : SocketWorld → SocketWorld → Prop :=
  Relation.ReflTransGen fun w w' => w.stage ≠ .idle ∧ Step w w'

/-- How a call can end that started after these effects. -/
inductive CreationEnd (before : List SocketEvent) (w : SocketWorld) : Prop where
  | notBound {result : ListenerResult} (hFailed : result.Failed)
      (hReturned : w.log.getLast? = some (.returned result)) (hEffects : effects w.log = before)
  | notRemoved {result : ListenerResult} {node : SocketNode} (hFailed : result.Failed)
      (hReturned : w.log.getLast? = some (.returned result))
      (hEffects : effects w.log = before ++ [.bound node])
  | removed {result : ListenerResult} {node : SocketNode} (hFailed : result.Failed)
      (hReturned : w.log.getLast? = some (.returned result))
      (hEffects : effects w.log = before ++ [.bound node, .unlinked node])
  | listening {address : Nat} {guard : SocketNodeGuard} {node : SocketNode}
      (hReturned : w.log.getLast? = some (.returned (.listener address)))
      (hEffects : effects w.log = before ++ [.bound node])
      (hGuard : w.guards address = some guard) (hArmed : guard.state = .armed)
      (hOwns : guard.Owns node)

/-- What a call has done at each stage. -/
def CreationProgress (before : List SocketEvent) (w : SocketWorld) : SocketStage → Prop
  | .idle => CreationEnd before w
  | .preparing _ _ => effects w.log = before
  | .listening _ .createSocket => effects w.log = before
  | .listening _ .bind => effects w.log = before
  | .listening frame .statNode => ∃ guard node, effects w.log = before ++ [.bound node] ∧
      w.guards frame.socketNode = some guard ∧ w.Unconfirmed guard node
  | .listening frame (.confirmParent identity) => ∃ guard node,
      effects w.log = before ++ [.bound node] ∧ w.guards frame.socketNode = some guard ∧
      w.Unconfirmed guard node ∧
      w.fs.entry guard.parentIdentity guard.leafName = some identity
  | .listening frame .listen => ∃ guard node, effects w.log = before ++ [.bound node] ∧
      w.guards frame.socketNode = some guard ∧ guard.state = .armed ∧ guard.Owns node
  | .removing address _ after => ∃ guard node result, effects w.log = before ++ [.bound node] ∧
      w.guards address = some guard ∧ guard.Owns node ∧ after = .unwound result ∧ result.Failed

section

variable {before : List SocketEvent} {frame : ListenerFrame} {result : ListenerResult}

/-- The end of the scope of a guard that is not armed. -/
theorem unwind_disarmed (hState : guard.state ≠ .armed) :
    w.unwind frame guard result =
      (((w.put frame.socketNode (some guard.consume)).put frame.socketNode none).record
        (.returned result)).enter .idle := by
  have hRemovable : guard.removable = false := by simp [SocketNodeGuard.removable, hState]
  rw [unwind, remove, hRemovable]
  rfl

theorem remove_armed (hState : guard.state = .armed) (hOwns : guard.Owns node)
    (after : AfterRemoval) :
    w.remove address guard after =
      (w.put address (some guard.consume)).enter (.removing address .statParent after) := by
  have hRemovable : guard.removable = true := by
    simp [SocketNodeGuard.removable, hState, hOwns.directory]
  rw [remove, hRemovable]
  rfl

theorem CreationProgress.unwind_armed (hFailed : result.Failed)
    (hEffects : effects w.log = before ++ [.bound node]) (hArmed : guard.state = .armed)
    (hOwns : guard.Owns node) :
    CreationProgress before (w.unwind frame guard result) (w.unwind frame guard result).stage := by
  rw [unwind, remove_armed hArmed hOwns]
  exact ⟨guard.consume, node, result, hEffects, Function.update_self .., consume_owns hOwns, rfl,
    hFailed⟩

theorem abandon_disarmed (hReady : guard.Ready) : guard.abandonUnverifiedBind.state ≠ .armed := by
  rw [SocketNodeGuard.abandonUnverifiedBind, if_pos hReady.state]
  simp

theorem Listens.progress {next : Listening} (h : Sound w)
    (hStage : w.stage = .listening frame next) (hGuard : w.guards frame.socketNode = some guard)
    (hProgress : CreationProgress before w (.listening frame next))
    (hStep : Listens w frame guard next w') : CreationProgress before w' w'.stage := by
  have hSound := h.stage
  rw [hStage] at hSound
  obtain ⟨-, hFrame, guard', hGuard', hNext⟩ := hSound
  obtain rfl : guard = guard' := Option.some.inj (hGuard.symm.trans hGuard')
  have hNotBound : effects w.log = before → guard.Ready → ∀ {result : ListenerResult},
      result.Failed →
        CreationProgress before (w.unwind frame guard result)
          (w.unwind frame guard result).stage := by
    intro hEffects hReady result hFailed
    rw [unwind_disarmed (by simp [hReady.state])]
    exact .notBound hFailed (by simp) (by simpa using hEffects)
  have hAbandon : ∀ {node}, effects w.log = before ++ [.bound node] → guard.Ready →
      ∀ {result : ListenerResult}, result.Failed →
        CreationProgress before (w.unwind frame guard.abandonUnverifiedBind result)
          (w.unwind frame guard.abandonUnverifiedBind result).stage := by
    intro node hEffects hReady result hFailed
    rw [unwind_disarmed (abandon_disarmed hReady)]
    exact .notRemoved hFailed (by simp) (by simpa using hEffects)
  cases hStep with
  | notCreated hFailed => exact hNotBound hProgress hNext hFailed
  | created => exact hProgress
  | notBound hFailed => exact hNotBound hProgress hNext hFailed
  | bound hLeads hFresh =>
      refine ⟨guard, _, ?_, hGuard, h.toKept.unconfirmed hNext hLeads hFresh⟩
      have hEffects : effects w.log = before := hProgress
      simp [bindWorld, hEffects]
  | notCaptured hFailed =>
      obtain ⟨guard', node, hEffects, hGuard', hUnconfirmed⟩ := hProgress
      obtain rfl : guard = guard' := Option.some.inj (hGuard.symm.trans hGuard')
      exact hAbandon hEffects hUnconfirmed.ready hFailed
  | captured hDirectory hEntry =>
      obtain ⟨guard', node, hEffects, hGuard', hUnconfirmed⟩ := hProgress
      obtain rfl : guard = guard' := Option.some.inj (hGuard.symm.trans hGuard')
      rw [hUnconfirmed.ready.directory] at hDirectory
      cases hDirectory
      exact ⟨guard, node, hEffects, hGuard, hUnconfirmed.enter _, hEntry⟩
  | notConfirmed hFailed =>
      obtain ⟨guard', node, hEffects, hGuard', hUnconfirmed, -⟩ := hProgress
      obtain rfl : guard = guard' := Option.some.inj (hGuard.symm.trans hGuard')
      exact hAbandon hEffects hUnconfirmed.ready hFailed
  | confirmed hLeads =>
      obtain ⟨guard', node, hEffects, hGuard', hUnconfirmed, hEntry⟩ := hProgress
      obtain rfl : guard = guard' := Option.some.inj (hGuard.symm.trans hGuard')
      obtain ⟨hOwns, hArmed⟩ := arm_owns hUnconfirmed hEntry hLeads
      exact ⟨_, node, by simpa using hEffects, Function.update_self .., hArmed, hOwns⟩
  | notListening hFailed =>
      obtain ⟨guard', node, hEffects, hGuard', hArmed, hOwns⟩ := hProgress
      obtain rfl : guard = guard' := Option.some.inj (hGuard.symm.trans hGuard')
      exact .unwind_armed hFailed hEffects hArmed hOwns
  | listening =>
      obtain ⟨guard', node, hEffects, hGuard', hArmed, hOwns⟩ := hProgress
      obtain rfl : guard = guard' := Option.some.inj (hGuard.symm.trans hGuard')
      rw [unwind_disarmed (by simp [SocketNodeGuard.movedFrom])]
      have hMoved : Function.update (Function.update (Function.update (Function.update w.guards
          frame.result (some guard)) frame.socketNode (some guard.movedFrom)) frame.socketNode
          (some guard.movedFrom.consume)) frame.socketNode none frame.result = some guard := by
        simp [hFrame.symm]
      exact .listening (by simp) (by simpa using hEffects) hMoved hArmed hOwns

theorem Prepares.progress {next : Preparation}
    (hProgress : CreationProgress before w (.preparing frame next))
    (hStep : Prepares w frame next w') : CreationProgress before w' w'.stage := by
  have hEffects : effects w.log = before := hProgress
  cases hStep with
  | failed hFailed => exact .notBound hFailed (by simp [fail]) (by simpa [fail] using hEffects)
  | @matched parent leaf directory =>
      show effects (w.log ++ [.matched parent directory]) = before
      simpa using hEffects
  | _ => exact hEffects

theorem Removes.progress {directory : Identity} {next : Removal} {after : AfterRemoval}
    (h : Sound w) (hStage : w.stage = .removing address next after)
    (hGuard : w.guards address = some guard) (hDirectory : guard.parentDirectory = some directory)
    (hProgress : CreationProgress before w (.removing address next after))
    (hStep : Removes w address guard directory after next w') :
    CreationProgress before w' w'.stage := by
  obtain ⟨guard', node, result, hEffects, hGuard', hOwns, rfl, hFailed⟩ := hProgress
  obtain rfl : guard = guard' := Option.some.inj (hGuard.symm.trans hGuard')
  obtain rfl : directory = node.directory :=
    Option.some.inj (hDirectory.symm.trans hOwns.directory)
  cases hStep with
  | stopped =>
      exact .notRemoved hFailed (by simp [afterRemoval]) (by simpa [afterRemoval] using hEffects)
  | inspected => exact ⟨guard, node, result, hEffects, hGuard, hOwns, rfl, hFailed⟩
  | matched =>
      exact ⟨guard, node, result, by simpa using hEffects, hGuard, hOwns, rfl, hFailed⟩
  | found => exact ⟨guard, node, result, hEffects, hGuard, hOwns, rfl, hFailed⟩
  | unlinked hEntry =>
      have hSound := h.stage
      rw [hStage] at hSound
      obtain ⟨-, -, guard', node', hGuard', -, hOwns', -, -, hNode⟩ := hSound
      obtain rfl : guard = guard' := Option.some.inj (hGuard.symm.trans hGuard')
      rw [← hOwns'.leaf, ← hOwns'.parentIdentity, ← hOwns'.identity, hOwns.parentIdentity,
        hOwns.identity] at hNode
      obtain rfl := Option.some.inj (hEntry.symm.trans hNode)
      rw [hOwns.leaf, hOwns.parent]
      have hEnd : effects (w.log ++ [.unlinked node] ++ [.returned result]) =
          before ++ [.bound node, .unlinked node] := by
        simp [hEffects]
      exact .removed hFailed (by simp [afterRemoval]) hEnd

theorem CreationProgress.unbound (hProgress : CreationProgress before w w.stage)
    (hUnbound : w.stage.unbound = true) : effects w.log = before := by
  revert hProgress hUnbound
  cases w.stage with
  | preparing frame next => exact fun hProgress _ => hProgress
  | listening frame next =>
      cases next with
      | createSocket => exact fun hProgress _ => hProgress
      | bind => exact fun hProgress _ => hProgress
      | _ => simp [SocketStage.unbound]
  | _ => simp [SocketStage.unbound]

theorem creationProgress_start {path : Bytes} {backlog : Int}
    (hStage : w.stage = .preparing frame (.validate path backlog)) :
    CreationProgress (effects w.log) w w.stage := by
  rw [hStage]
  exact (rfl : effects w.log = effects w.log)

variable [Kernel]

theorem Step.progress (hStep : Step w w') (h : Sound w) (hBusy : w.stage ≠ .idle)
    (hProgress : CreationProgress before w w.stage) : CreationProgress before w' w'.stage := by
  cases hStep with
  | process choice hStep =>
      simp only [step] at hStep
      split at hStep
      · next hStage => exact absurd hStage hBusy
      · next hStage =>
          rw [hStage] at hProgress
          exact (prepares_of_step hStep).progress hProgress
      · next hStage =>
          rw [hStage] at hProgress
          obtain ⟨guard, hGuard, hStep⟩ := Option.bind_eq_some_iff.mp hStep
          exact (listens_of_step hStep).progress h hStage hGuard hProgress
      · next hStage =>
          rw [hStage] at hProgress
          obtain ⟨guard, hGuard, hStep⟩ := Option.bind_eq_some_iff.mp hStep
          obtain ⟨directory, hDirectory, rfl⟩ := Option.map_eq_some_iff.mp hStep
          exact (removes_of_step ..).progress h hStage hGuard hDirectory hProgress
  | @others fs hWindow hEvolves =>
      revert hProgress
      show CreationProgress before w w.stage → CreationProgress before { w with fs := fs } w.stage
      cases hStage : w.stage with
      | idle => exact absurd hStage hBusy
      | preparing frame next => exact id
      | listening frame next =>
          rw [hStage] at hWindow
          cases next with
          | statNode => cases hWindow
          | confirmParent identity => cases hWindow
          | _ => exact id
      | removing address next after => exact id

theorem InCall.progress (hCall : InCall w w') (h : Sound w)
    (hProgress : CreationProgress before w w.stage) :
    Sound w' ∧ CreationProgress before w' w'.stage := by
  induction hCall with
  | refl => exact ⟨h, hProgress⟩
  | tail _ hStep ih => exact ⟨hStep.2.sound ih.1, hStep.2.progress ih.1 hStep.1 ih.2⟩

/-- A call that ends before `bind` has made a node does nothing to the file system. -/
theorem Step.unbound (hStep : Step w w') (hUnbound : w.stage.unbound = true)
    (hIdle : w'.stage = .idle) : effects w'.log = effects w.log := by
  cases hStep with
  | process choice hStep =>
      simp only [step] at hStep
      split at hStep
      · next hStage =>
          rw [hStage] at hUnbound
          cases hUnbound
      · exact (prepares_of_step hStep).quiet.effects
      · next hStage =>
          rw [hStage] at hUnbound
          obtain ⟨guard, hGuard, hStep⟩ := Option.bind_eq_some_iff.mp hStep
          cases listens_of_step hStep with
          | notCreated => exact (silent_remove ..).effects
          | created => cases hIdle
          | notBound => exact (silent_remove ..).effects
          | bound => cases hIdle
          | _ => cases hUnbound
      · next hStage =>
          rw [hStage] at hUnbound
          cases hUnbound
  | others => rfl

theorem createUnixListener_end {path : Bytes} {backlog : Int} (h : Sound w)
    (hStage : w.stage = .preparing frame (.validate path backlog)) (hCall : InCall w w')
    (hIdle : w'.stage = .idle) : CreationEnd (effects w.log) w' := by
  have hEnd := (hCall.progress h (creationProgress_start hStage)).2
  rw [hIdle] at hEnd
  exact hEnd

end

end

end SocketWorld

end PhotospiderDaemon.Ipc
