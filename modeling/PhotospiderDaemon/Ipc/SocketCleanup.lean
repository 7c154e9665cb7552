import PhotospiderDaemon.Ipc.SocketRemoval

/-!
# The daemon removes its own socket node, and only that

A listener that fails after its identity was captured takes its node away again if nobody
interferes. A guard that is not armed removes nothing, and a move leaves such a guard. With the
effects of single steps and of whole calls this is all that a process does to socket nodes.
-/

namespace PhotospiderDaemon.Ipc

open Foundation FileSystem

/-- The calls left until the node is gone. -/
def SocketStage.callsLeft : SocketStage → Nat
  | .listening _ .listen => 5
  | .removing _ .statParent _ => 4
  | .removing _ .matchParent _ => 3
  | .removing _ .statNode _ => 2
  | .removing _ .unlink _ => 1
  | _ => 0

/-- The guard whose node an operation may remove. -/
def GuardOperation.cleans : GuardOperation → Option Nat
  | .moveAssign address _ => some address
  | .remove address => some address
  | .destroy address => some address
  | _ => none

/-- The operations on guards that exist. -/
def GuardOperation.creates : GuardOperation → Bool
  | .createUnixListener .. => true
  | _ => false

/-- The operation moves the guard at this address elsewhere. -/
def GuardOperation.MovesFrom (source : Nat) : GuardOperation → Prop
  | .moveConstruct _ other => other = source
  | .moveAssign address other => other = source ∧ address ≠ source
  | _ => False

namespace SocketWorld

section

variable {w w' : SocketWorld} {address : Nat} {guard : SocketNodeGuard} {node : SocketNode}

/-! ## A listener that fails after the capture -/

/-- `listen` fails, or a call of the cleanup succeeds. -/
inductive Cleans [Kernel] : SocketWorld → SocketWorld → Prop where
  | notListening {w w' : SocketWorld} {frame : ListenerFrame} {choice : SocketChoice}
      (hStage : w.stage = .listening frame .listen) (hFails : choice ≠ .succeeds)
      (hStep : w.step choice = some w') : Cleans w w'
  | removing {w w' : SocketWorld} {address : Nat} {next : Removal} {after : AfterRemoval}
      (hStage : w.stage = .removing address next after) (hStep : w.step .succeeds = some w') :
      Cleans w w'

/-- The process cleans up, and the others touch neither the entry nor what the path of its
parent leads to. -/
inductive Calm [Kernel] (node : SocketNode) : SocketWorld → SocketWorld → Prop where
  | process {w w' : SocketWorld} (hCleans : Cleans w w') : Calm node w w'
  | others {w : SocketWorld} {fs : FileSystem Bytes Bytes} (hWindow : w.stage.window = false)
      (hEvolves : w.fs.Evolves fs)
      (hEntry : fs.entry node.directory node.leaf = w.fs.entry node.directory node.leaf)
      (hLeads : fs.directoryAt node.parent = w.fs.directoryAt node.parent) :
      Calm node w { w with fs := fs }

/-- The node is still there and can be reached as before. -/
structure InPlace (before : List SocketEvent) (node : SocketNode) (guard : SocketNodeGuard)
    (w : SocketWorld) : Prop where
  effects : effects w.log = before
  bound : node ∈ bindings w.log
  owns : guard.Owns node
  entry : w.fs.entry node.directory node.leaf = some node.identity
  leads : w.fs.directoryAt node.parent = some node.directory

/-- The process has unlinked the node and has reported the failure. -/
structure TakenAway (before : List SocketEvent) (node : SocketNode) (w : SocketWorld) : Prop where
  effects : effects w.log = before ++ [.unlinked node]
  entry : w.fs.entry node.directory node.leaf = none
  failed : ∃ result : ListenerResult, result.Failed ∧ w.log.getLast? = some (.returned result)

def CleanupProgress (before : List SocketEvent) (node : SocketNode) (w : SocketWorld) :
    SocketStage → Prop
  | .listening frame .listen => ∃ guard, w.guards frame.socketNode = some guard ∧
      guard.state = .armed ∧ InPlace before node guard w
  | .removing address _ after => ∃ guard result, w.guards address = some guard ∧
      after = .unwound result ∧ result.Failed ∧ InPlace before node guard w
  | .idle => TakenAway before node w
  | _ => False

section

variable {before : List SocketEvent} {result : ListenerResult}

theorem InPlace.enter (h : InPlace before node guard w) (stage : SocketStage) :
    InPlace before node guard (w.enter stage) :=
  ⟨h.effects, h.bound, h.owns, h.entry, h.leads⟩

theorem InPlace.consume (h : InPlace before node guard w) :
    InPlace before node guard.consume w :=
  ⟨h.effects, h.bound, consume_owns h.owns, h.entry, h.leads⟩

/-- Every check of the cleanup finds what the capture found. -/
theorem removalStep_calm (h : Kept w) (hGuard : w.guards address = some guard)
    (hPlace : InPlace before node guard w) (hFailed : result.Failed) (next : Removal) :
    ∃ w', w.removalStep .succeeds address guard node.directory (.unwound result) next = w' ∧
      CleanupProgress before node w' w'.stage ∧
      w'.stage.callsLeft < SocketStage.callsLeft (.removing address next (.unwound result)) := by
  have hOwns := hPlace.owns
  obtain ⟨hSocket, hDirectory⟩ := h.kinds node hPlace.bound
  cases next with
  | statParent =>
      have hCheck : SocketChoice.succeeds = .succeeds ∧
          w.fs.kind node.directory = some .directory ∧ node.directory = guard.parentIdentity :=
        ⟨rfl, hDirectory, hOwns.parentIdentity.symm⟩
      exact ⟨_, if_pos hCheck, ⟨guard, result, hGuard, rfl, hFailed, hPlace.enter _⟩,
        by simp [SocketStage.callsLeft]⟩
  | matchParent =>
      have hCheck :
          w.parentPathMatches .succeeds guard.parentPath guard.parentIdentity = true := by
        rw [parentPathMatches_iff, hOwns.parent, hOwns.parentIdentity]
        exact ⟨rfl, hPlace.leads⟩
      refine ⟨_, if_pos hCheck, ⟨guard, result, hGuard, rfl, hFailed, ?_, ?_, hOwns,
        hPlace.entry, hPlace.leads⟩, by simp [SocketStage.callsLeft]⟩
      · simpa using hPlace.effects
      · simpa using hPlace.bound
  | statNode =>
      have hCheck : w.socketAt .succeeds node.directory guard.leafName =
          some guard.nodeIdentity := by
        rw [socketAt_eq_some, hOwns.leaf, hOwns.identity]
        exact ⟨rfl, hPlace.entry, hSocket⟩
      exact ⟨_, if_pos hCheck, ⟨guard, result, hGuard, rfl, hFailed, hPlace.enter _⟩,
        by simp [SocketStage.callsLeft]⟩
  | unlink =>
      have hStep : w.removalStep .succeeds address guard node.directory (.unwound result) .unlink =
          ({ w with fs := w.fs.unlink node.directory node.leaf }.record
            (.unlinked node)).afterRemoval address (.unwound result) := by
        simp only [removalStep, hOwns.leaf, hOwns.parent, hPlace.entry]
      refine ⟨_, hStep, ⟨?_, unlink_entry_self, result, hFailed, ?_⟩,
        by simp [SocketStage.callsLeft, afterRemoval]⟩
      · simp [afterRemoval, hPlace.effects]
      · simp [afterRemoval]

variable [Kernel]

/-- The process can go on. -/
theorem CleanupProgress.exists_cleans (hBusy : w.stage ≠ .idle)
    (hProgress : CleanupProgress before node w w.stage) : ∃ w', Cleans w w' := by
  revert hProgress
  cases hStage : w.stage with
  | idle => exact absurd hStage hBusy
  | preparing frame next => exact False.elim
  | listening frame next =>
      cases next with
      | listen =>
          rintro ⟨guard, hGuard, -, -⟩
          have hStep : w.step .throws = some (w.unwind frame guard .exception) := by
            rw [step_listening hStage hGuard]
            rfl
          exact ⟨_, .notListening hStage (by simp) hStep⟩
      | _ => exact False.elim
  | removing address next after =>
      rintro ⟨guard, result, hGuard, rfl, hFailed, hPlace⟩
      exact ⟨_, .removing hStage (step_removing hStage hGuard hPlace.owns.directory _)⟩

/-- Each of its steps brings the end of the cleanup nearer. -/
theorem Cleans.progress (hCleans : Cleans w w') (h : Sound w)
    (hProgress : CleanupProgress before node w w.stage) :
    CleanupProgress before node w' w'.stage ∧ w'.stage.callsLeft < w.stage.callsLeft := by
  cases hCleans with
  | notListening hStage hFails hStep =>
      rw [hStage] at hProgress ⊢
      obtain ⟨guard, hGuard, hArmed, hPlace⟩ := hProgress
      rw [step_listening hStage hGuard] at hStep
      simp only [listeningStep, if_neg hFails] at hStep
      obtain ⟨result, hResult, rfl⟩ := Option.map_eq_some_iff.mp hStep
      rw [unwind, remove_armed hArmed hPlace.owns]
      have hConsumed := hPlace.consume
      exact ⟨⟨guard.consume, result, Function.update_self .., rfl, errnoStatus_failed hResult,
        hConsumed.effects, hConsumed.bound, hConsumed.owns, hConsumed.entry, hConsumed.leads⟩,
        by simp [SocketStage.callsLeft]⟩
  | removing hStage hStep =>
      rw [hStage] at hProgress ⊢
      obtain ⟨guard, result, hGuard, rfl, hFailed, hPlace⟩ := hProgress
      rw [step_removing hStage hGuard hPlace.owns.directory] at hStep
      obtain ⟨w'', hRemoval, hNext⟩ := removalStep_calm h.toKept hGuard hPlace hFailed _
      rw [hRemoval] at hStep
      cases hStep
      exact hNext

theorem Calm.progress (hCalm : Calm node w w') (h : Sound w)
    (hProgress : CleanupProgress before node w w.stage) :
    CleanupProgress before node w' w'.stage := by
  cases hCalm with
  | process hCleans => exact (hCleans.progress h hProgress).1
  | @others fs hWindow hEvolves hEntry hLeads =>
      have hPlace : ∀ {guard stage}, InPlace before node guard w →
          InPlace before node guard { w with fs := fs, stage := stage } := fun hPlace =>
        ⟨hPlace.effects, hPlace.bound, hPlace.owns, hEntry.trans hPlace.entry,
          hLeads.trans hPlace.leads⟩
      revert hProgress
      show CleanupProgress before node w w.stage →
        CleanupProgress before node { w with fs := fs } w.stage
      cases hStage : w.stage with
      | idle =>
          intro hGone
          exact ⟨hGone.effects, hEntry.trans hGone.entry, hGone.failed⟩
      | preparing frame next => exact id
      | listening frame next =>
          cases next with
          | listen =>
              rintro ⟨guard, hGuard, hArmed, hOld⟩
              exact ⟨guard, hGuard, hArmed, hPlace hOld⟩
          | _ => exact id
      | removing address next after =>
          rintro ⟨guard, result, hGuard, hAfter, hFailed, hOld⟩
          exact ⟨guard, result, hGuard, hAfter, hFailed, hPlace hOld⟩

theorem Calm.toStep (h : Calm node w w') : Step w w' := by
  cases h with
  | process hCleans =>
      cases hCleans with
      | notListening hStage hFails hStep => exact .process _ hStep
      | removing hStage hStep => exact .process _ hStep
  | others hWindow hEvolves => exact .others hWindow hEvolves

/-- The node that was captured is the one that `bind` made. -/
theorem confirmed_inPlace {frame : ListenerFrame} {identity : Identity} (h : Sound w)
    (hStage : w.stage = .listening frame (.confirmParent identity))
    {choice : SocketChoice} (hStep : w.step choice = some w')
    (hNext : w'.stage = .listening frame .listen) :
    ∃ node, (bindings w.log).getLast? = some node ∧
      CleanupProgress (effects w'.log) node w' w'.stage := by
  have hSound := h.stage
  rw [hStage] at hSound
  obtain ⟨-, -, guard, hGuard, hEntry, node, hUnconfirmed⟩ := hSound
  rw [step_listening hStage hGuard] at hStep
  simp only [listeningStep] at hStep
  split at hStep
  · next hMatches =>
      have hLeads := (parentPathMatches_iff.mp hMatches).2
      obtain ⟨hOwns, hArmed⟩ := arm_owns hUnconfirmed hEntry hLeads
      cases hStep
      refine ⟨node, hUnconfirmed.last, ?_⟩
      refine ⟨_, Function.update_self .., hArmed, rfl, ?_, hOwns, hUnconfirmed.entry,
        hUnconfirmed.leads⟩
      simpa using hUnconfirmed.bound
  · cases hStep
    rw [abandon, unwind_disarmed (abandon_disarmed hUnconfirmed.ready)] at hNext
    cases hNext

theorem calm_run {w₀ : SocketWorld} (hRun : Relation.ReflTransGen (Calm node) w₀ w) (h : Sound w₀)
    (hProgress : CleanupProgress before node w₀ w₀.stage) :
    Sound w ∧ CleanupProgress before node w w.stage := by
  induction hRun with
  | refl => exact ⟨h, hProgress⟩
  | tail _ hCalm ih => exact ⟨hCalm.toStep.sound ih.1, hCalm.progress ih.1 ih.2⟩

end

/-! ## Guards without a generation -/

theorem remove_disarmed_stage (hState : guard.state ≠ .armed) (after : AfterRemoval) :
    (w.remove address guard after).stage = .idle := by
  have hRemovable : guard.removable = false := by simp [SocketNodeGuard.removable, hState]
  rw [remove, hRemovable]
  cases after with
  | assign source =>
      simp only [Bool.false_eq_true, if_false, afterRemoval]
      split <;> rfl
  | _ => rfl

/-- A move removes what the destination has and then empties the source. -/
def MoveProgress (source : Nat) (w : SocketWorld) : SocketStage → Prop
  | .idle => ∃ guard, w.guards source = some guard ∧ guard.state = .empty
  | .removing address _ after => after = .assign source ∧ address ≠ source ∧
      ∃ guard, w.guards source = some guard
  | _ => False

section

variable {source : Nat}

theorem moveProgress_afterRemoval (hSource : w.guards source = some guard) :
    MoveProgress source (w.afterRemoval address (.assign source))
      (w.afterRemoval address (.assign source)).stage := by
  simp only [afterRemoval, hSource]
  exact ⟨guard.movedFrom, Function.update_self .., rfl⟩

theorem moveProgress_remove (hNe : address ≠ source) {other : SocketNodeGuard}
    (hSource : w.guards source = some other) :
    MoveProgress source (w.remove address guard (.assign source))
      (w.remove address guard (.assign source)).stage := by
  have hPut : (w.put address (some guard.consume)).guards source = some other :=
    (Function.update_of_ne hNe.symm ..).trans hSource
  simp only [remove]
  split
  · exact ⟨rfl, hNe, other, hPut⟩
  · exact moveProgress_afterRemoval hPut

theorem moveProgress_perform {operation : GuardOperation}
    (hMoves : operation.MovesFrom source) (h : w.perform operation = some w') :
    MoveProgress source w' w'.stage := by
  cases operation with
  | moveConstruct address other =>
      obtain rfl : other = source := hMoves
      simp only [perform] at h
      split at h
      · next hFree =>
          cases h
          obtain ⟨guard, hGuard⟩ := Option.isSome_iff_exists.mp hFree.2
          have hNe : address ≠ other := by
            rintro rfl
            rw [hFree.1] at hGuard
            cases hGuard
          exact moveProgress_remove hNe ((Function.update_of_ne hNe.symm ..).trans hGuard)
      · cases h
  | moveAssign address other =>
      obtain ⟨rfl, hNe⟩ : other = source ∧ address ≠ source := hMoves
      obtain ⟨guard, -, h⟩ := Option.bind_eq_some_iff.mp h
      rw [if_neg hNe] at h
      split at h
      · next hSome =>
          cases h
          obtain ⟨other, hOther⟩ := Option.isSome_iff_exists.mp hSome
          exact moveProgress_remove hNe hOther
      · cases h
  | _ => exact hMoves.elim

theorem Removes.moveProgress {directory : Identity} {next : Removal} {other : SocketNodeGuard}
    (hStep : Removes w address guard directory (.assign source) next w') (hNe : address ≠ source)
    (hSource : w.guards source = some other) : MoveProgress source w' w'.stage := by
  cases hStep with
  | stopped => exact moveProgress_afterRemoval hSource
  | unlinked => exact moveProgress_afterRemoval hSource
  | _ => exact ⟨rfl, hNe, other, hSource⟩

theorem Step.moveProgress [Kernel] (hStep : Step w w') (hBusy : w.stage ≠ .idle)
    (hProgress : MoveProgress source w w.stage) : MoveProgress source w' w'.stage := by
  cases hStep with
  | process choice hStep =>
      simp only [step] at hStep
      split at hStep
      · next hStage => exact absurd hStage hBusy
      · next hStage =>
          rw [hStage] at hProgress
          exact hProgress.elim
      · next hStage =>
          rw [hStage] at hProgress
          exact hProgress.elim
      · next address next after hStage =>
          rw [hStage] at hProgress
          obtain ⟨rfl, hNe, other, hSource⟩ := hProgress
          obtain ⟨guard, hGuard, hStep⟩ := Option.bind_eq_some_iff.mp hStep
          obtain ⟨directory, hDirectory, rfl⟩ := Option.map_eq_some_iff.mp hStep
          exact (removes_of_step ..).moveProgress hNe hSource
  | others hWindow hEvolves => exact hProgress

end

theorem moved_from_empty [Kernel] {source : Nat} {operation : GuardOperation}
    {w'' : SocketWorld} (hMoves : operation.MovesFrom source)
    (hStart : w.perform operation = some w') (hCall : InCall w' w'') (hIdle : w''.stage = .idle) :
    ∃ guard, w''.guards source = some guard ∧ guard.state = .empty := by
  have hProgress : MoveProgress source w'' w''.stage := by
    clear hIdle
    induction hCall with
    | refl => exact moveProgress_perform hMoves hStart
    | tail _ hStep ih => exact hStep.2.moveProgress hStep.1 ih
  rw [hIdle] at hProgress
  exact hProgress

theorem perform_disarmed {operation : GuardOperation} (hStage : w.stage = .idle)
    (hOperation : operation.creates = false)
    (hState : ∀ {address guard}, operation.cleans = some address →
      w.guards address = some guard → guard.state ≠ .armed)
    (h : w.perform operation = some w') : w'.stage = .idle := by
  cases operation with
  | construct address =>
      simp only [perform] at h
      split at h <;> cases h
      exact hStage
  | moveConstruct address source =>
      simp only [perform] at h
      split at h <;> cases h
      exact remove_disarmed_stage (by simp) _
  | moveAssign address source =>
      obtain ⟨guard, hGuard, h⟩ := Option.bind_eq_some_iff.mp h
      split at h
      · cases h
        exact hStage
      · split at h <;> cases h
        exact remove_disarmed_stage (hState rfl hGuard) _
  | arm address identity =>
      obtain ⟨guard, -, rfl⟩ := Option.map_eq_some_iff.mp h
      exact hStage
  | abandonUnverifiedBind address =>
      obtain ⟨guard, -, rfl⟩ := Option.map_eq_some_iff.mp h
      exact hStage
  | remove address =>
      obtain ⟨guard, hGuard, rfl⟩ := Option.map_eq_some_iff.mp h
      exact remove_disarmed_stage (hState rfl hGuard) _
  | destroy address =>
      obtain ⟨guard, hGuard, rfl⟩ := Option.map_eq_some_iff.mp h
      exact remove_disarmed_stage (hState rfl hGuard) _
  | createUnixListener frame path backlog => cases hOperation

/-- Two generations have two identities. -/
theorem Kept.unlinks_identities (h : Kept w) :
    ((unlinks w.log).map SocketNode.identity).Nodup := by
  refine h.once.map_on ?_
  intro node hNode other hOther hEq
  exact List.inj_on_of_nodup_map h.identities (h.mem_bindings_of_unlinks hNode)
    (h.mem_bindings_of_unlinks hOther) hEq

/-! ## All that happens to socket nodes -/

/-- What is true in a state of the process and of whatever it does next. -/
structure OwnNodesOnly [Kernel] (w : SocketWorld) : Prop where
  /-- Only entries that the process has bound and captured are unlinked. -/
  effect : ∀ {choice w'}, w.step choice = some w' → Effect w w' ∧ Looks w w'
  /-- No generation is unlinked twice. -/
  once : ((unlinks w.log).map SocketNode.identity).Nodup
  /-- A guard that is not armed removes nothing. -/
  disarmed : ∀ {operation w'}, w.stage = .idle → operation.creates = false →
    (∀ {address guard}, operation.cleans = some address → w.guards address = some guard →
      guard.state ≠ .armed) →
    w.step (.start operation) = some w' → Quiet w w' ∧ w'.stage = .idle
  /-- No guard can be armed from outside. -/
  unarmed : ∀ {address identity w'}, w.stage = .idle →
    w.step (.start (.arm address identity)) = some w' → w' = w
  /-- A moved-from guard is not armed. -/
  moved : ∀ {operation source w₁ w₂}, w.stage = .idle → operation.MovesFrom source →
    w.step (.start operation) = some w₁ → InCall w₁ w₂ → w₂.stage = .idle →
    ∃ guard, w₂.guards source = some guard ∧ guard.state = .empty
  /-- A creation that fails before or at `bind` makes and removes nothing. -/
  unbound : ∀ {frame path backlog w₁ w₂}, w.stage = .preparing frame (.validate path backlog) →
    InCall w w₁ → w₁.stage.unbound = true → Step w₁ w₂ → w₂.stage = .idle →
    effects w₂.log = effects w.log
  /-- All that a creation does. -/
  creation : ∀ {frame path backlog w'}, w.stage = .preparing frame (.validate path backlog) →
    InCall w w' → w'.stage = .idle → CreationEnd (effects w.log) w'
  /-- A creation that fails after the capture takes its node away if nobody interferes: it
  cannot get stuck, it comes nearer to the end with every step, and at the end the node is
  gone. -/
  cleanup : ∀ {frame identity choice w₁},
    w.stage = .listening frame (.confirmParent identity) → w.step choice = some w₁ →
    w₁.stage = .listening frame .listen →
    ∃ node, (bindings w.log).getLast? = some node ∧
      ∀ {w₂}, Relation.ReflTransGen (Calm node) w₁ w₂ →
        (w₂.stage = .idle → TakenAway (effects w₁.log) node w₂) ∧
        (w₂.stage ≠ .idle → (∃ w₃, Cleans w₂ w₃) ∧
          ∀ {w₃}, Cleans w₂ w₃ → w₃.stage.callsLeft < w₂.stage.callsLeft)

theorem step_idle [Kernel] (hStage : w.stage = .idle) (operation : GuardOperation) :
    w.step (.start operation) = w.perform operation := by
  simp only [step, hStage]

theorem perform_arm (h : Sound w) (hStage : w.stage = .idle) {identity : Identity}
    (hStep : w.perform (.arm address identity) = some w') : w' = w := by
  have hUnprepared := h.stage
  rw [hStage] at hUnprepared
  obtain ⟨guard, hGuard, rfl⟩ := Option.map_eq_some_iff.mp hStep
  have hState : guard.state ≠ .prepared := fun hPrepared =>
    absurd (hUnprepared hGuard hPrepared) (by simp)
  rw [SocketNodeGuard.arm, if_neg hState, put, ← hGuard, Function.update_eq_self]

/-- **The daemon removes only its own socket node, at most once**, whatever other processes do
outside the two windows. -/
theorem reachable_ownNodesOnly [Kernel] (h : Reachable w) : OwnNodesOnly w where
  effect := effect_step h.sound
  once := h.sound.toKept.unlinks_identities
  disarmed := by
    intro operation w' hStage hOperation hState hStep
    rw [step_idle hStage] at hStep
    exact ⟨(silent_perform hStep).toQuiet, perform_disarmed hStage hOperation hState hStep⟩
  unarmed := by
    intro address identity w' hStage hStep
    rw [step_idle hStage] at hStep
    exact perform_arm h.sound hStage hStep
  moved := by
    intro operation source w₁ w₂ hStage hMoves hStep hCall hIdle
    rw [step_idle hStage] at hStep
    exact moved_from_empty hMoves hStep hCall hIdle
  unbound := by
    intro frame path backlog w₁ w₂ hStage hCall hUnbound hStep hIdle
    have hProgress := (hCall.progress h.sound (creationProgress_start hStage)).2
    exact (hStep.unbound hUnbound hIdle).trans (hProgress.unbound hUnbound)
  creation := createUnixListener_end h.sound
  cleanup := by
    intro frame identity choice w₁ hStage hStep hNext
    obtain ⟨node, hNode, hProgress⟩ := confirmed_inPlace h.sound hStage hStep hNext
    refine ⟨node, hNode, ?_⟩
    intro w₂ hRun
    obtain ⟨hSound, hLeft⟩ := calm_run hRun (step_sound h.sound hStep) hProgress
    refine ⟨?_, ?_⟩
    · intro hIdle
      rw [hIdle] at hLeft
      exact hLeft
    · intro hBusy
      exact ⟨hLeft.exists_cleans hBusy, fun hCleans => (hCleans.progress hSound hLeft).2⟩

/-! ### A listener that is moved and removed twice -/

/-- The steps of the process when the others do nothing. -/
def run [Kernel] (w : SocketWorld) (choices : List SocketChoice) : Option SocketWorld :=
  choices.foldlM step w

theorem Reachable.run [Kernel] (h : Reachable w) {choices : List SocketChoice}
    (hRun : w.run choices = some w') : Reachable w' := by
  induction choices generalizing w with
  | nil =>
      cases hRun
      exact h
  | cons choice choices ih =>
      obtain ⟨next, hStep, hRest⟩ := Option.bind_eq_some_iff.mp hRun
      obtain ⟨fs, hRun⟩ := h
      exact ih ⟨fs, hRun.tail (.process choice hStep)⟩ hRest

/-- A working directory without entries. -/
def emptyDirectory : FileSystem Bytes Bytes where
  kind := Function.update (fun _ => none) ⟨1, 2⟩ (some .directory)
  entry := fun _ _ => none
  directoryAt := fun path => if path = ascii "." then some ⟨1, 2⟩ else none
  entry_known := by
    intro directory name identity hEntry
    cases hEntry
  directoryAt_kind := by
    intro path directory hDirectory
    split at hDirectory
    · cases hDirectory
      exact Function.update_self ..
    · cases hDirectory

/-- The listener of the path `s` is moved to another guard, which is removed two times. -/
def movedListener : List SocketChoice :=
  [.start (.createUnixListener ⟨0, 1⟩ (ascii "s") 1), .succeeds, .succeeds, .succeeds, .succeeds,
    .absent, .succeeds, .creates ⟨1, 3⟩, .succeeds, .succeeds, .succeeds,
    .start (.moveConstruct 2 1), .start (.destroy 1),
    .start (.remove 2), .succeeds, .succeeds, .succeeds, .succeeds, .start (.remove 2)]

theorem moved_listener_ownNodesOnly :
    ∃ w : SocketWorld, unlinks w.log = [⟨ascii ".", ⟨1, 2⟩, ascii "s", ⟨1, 3⟩⟩] ∧
      @OwnNodesOnly sampleKernel w := by
  have hRun : (@run sampleKernel (initial emptyDirectory) movedListener).any (fun w =>
      unlinks w.log = [⟨ascii ".", ⟨1, 2⟩, ascii "s", ⟨1, 3⟩⟩]) = true := by
    decide +kernel
  obtain ⟨w, hRun, hUnlinks⟩ := (Option.any_eq_true _ _).mp hRun
  have hInitial : @Reachable sampleKernel (initial emptyDirectory) := ⟨_, .refl⟩
  exact ⟨w, of_decide_eq_true hUnlinks,
    @reachable_ownNodesOnly w sampleKernel (@Reachable.run _ _ sampleKernel hInitial _ hRun)⟩

end

end SocketWorld

end PhotospiderDaemon.Ipc
