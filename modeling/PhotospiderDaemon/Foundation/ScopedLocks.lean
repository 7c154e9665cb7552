import Mathlib.Logic.Function.Basic
import Mathlib.Logic.Relation
import PhotospiderDaemon.Foundation.Interleaving

/-!
# Programs with scoped locks

A small language for what a program does to its mutexes. A mutex is locked for the extent of a
block, and a destructor runs at the end of one, however the block is left: at its end, by a
return or by an exception. What does not concern mutexes is left open: conditions are choices
and the number of turns of a loop is arbitrary, so a command has every run of the program it
stands for and possibly more.

A thread is a command with a stack of frames. Threads share the owners of the mutexes, and the
system is a program in the sense of `Interleaving`, with any number of threads.

* `Command.Follows`: a command locks only what a discipline permits, given what is held.
* `follows_of_leads`: then every thread does so in every run.
* `owner_iff`: a mutex is owned by the thread that holds it.
* `not_waitsFor_cycle`: if mutexes are locked in the order of a rank, threads do not wait for
  each other in a circle, and none requests what it holds.
-/

namespace PhotospiderDaemon.Foundation.ScopedLocks

/-! ## Commands -/

inductive Command (M : Type) where
  | skip
  | ret
  | raise
  /-- the end of the process -/
  | terminate
  | seq (first second : Command M)
  | either (first second : Command M)
  | any (body : Nat → Command M)
  | loop (body : Command M)
  /-- the body of a function -/
  | call (body : Command M)
  | attempt (body handler : Command M)
  /-- a block with an object that has a destructor -/
  | owning (destructor body : Command M)
  | locked (mutex : M) (body : Command M)
  /-- one wait on a condition variable, which unlocks the mutex and locks it again -/
  | wait (mutex : M)

variable {M : Type}

/-- One command after another. -/
def Command.block : List (Command M) → Command M
  | [] => skip
  | command :: commands => seq command (block commands)

/-- Code that locks nothing and may raise an exception. -/
def Command.code : Command M := either skip raise

/-- A branch that may be taken. -/
def Command.branch (command : Command M) : Command M := either command skip

/-! ## Threads -/

/-- How a command is left. -/
inductive Outcome where
  | normal
  | returned
  | thrown
deriving DecidableEq

/-- What is to be done when a command is left. -/
inductive Frame (M : Type) where
  | next (command : Command M)
  | again (body : Command M)
  | boundary
  | handler (command : Command M)
  | destructor (command : Command M)
  /-- after a destructor, the way on which its block was left -/
  | resume (outcome : Outcome)
  | unlock (mutex : M)

inductive State (M : Type) where
  | run (command : Command M) (frames : List (Frame M))
  | leave (outcome : Outcome) (frames : List (Frame M))
  | sleeping (mutex : M) (frames : List (Frame M))
  | waking (mutex : M) (frames : List (Frame M))

/-- The mutexes that the frames will unlock, the innermost first. -/
def held : List (Frame M) → List M
  | [] => []
  | .unlock mutex :: frames => mutex :: held frames
  | _ :: frames => held frames

/-- The mutexes that a thread holds. While it waits, the innermost one is unlocked. -/
def State.holds : State M → List M
  | run _ frames => held frames
  | leave _ frames => held frames
  | sleeping _ frames => (held frames).tail
  | waking _ frames => (held frames).tail

/-- The mutex that a thread is about to lock. -/
def State.requests : State M → Option M
  | run (.locked mutex _) _ => some mutex
  | waking mutex _ => some mutex
  | _ => none

/-- Which thread has locked a mutex. -/
abbrev Owners (M : Type) := M → Option Nat

/-- The next thing to do after a command was left. -/
def leaveStep : Outcome → Frame M → List (Frame M) → Option (State M)
  | .normal, .next command, frames => some (.run command frames)
  | outcome, .next _, frames => some (.leave outcome frames)
  | .normal, .again body, frames => some (.run (.loop body) frames)
  | outcome, .again _, frames => some (.leave outcome frames)
  | .thrown, .boundary, frames => some (.leave .thrown frames)
  | _, .boundary, frames => some (.leave .normal frames)
  | .thrown, .handler command, frames => some (.run command frames)
  | outcome, .handler _, frames => some (.leave outcome frames)
  | outcome, .destructor command, frames => some (.run command (.resume outcome :: frames))
  | .normal, .resume outcome, frames => some (.leave outcome frames)
  -- an exception that leaves a destructor ends the process
  | _, .resume _, _ => none
  | outcome, .unlock _, frames => some (.leave outcome frames)

section Semantics

variable [DecidableEq M]

/-- One step of thread `i`. The choice decides what is left open. -/
def step (i : Nat) (owners : Owners M) (state : State M) (choice : Nat) :
    Option (Owners M × State M) :=
  match state with
  | .run .skip frames => some (owners, .leave .normal frames)
  | .run .ret frames => some (owners, .leave .returned frames)
  | .run .raise frames => some (owners, .leave .thrown frames)
  | .run .terminate _ => none
  | .run (.seq first second) frames => some (owners, .run first (.next second :: frames))
  | .run (.either first second) frames =>
    some (owners, .run (if choice = 0 then first else second) frames)
  | .run (.any body) frames => some (owners, .run (body choice) frames)
  | .run (.loop body) frames =>
    some (owners, if choice = 0 then .leave .normal frames else .run body (.again body :: frames))
  | .run (.call body) frames => some (owners, .run body (.boundary :: frames))
  | .run (.attempt body handler) frames => some (owners, .run body (.handler handler :: frames))
  | .run (.owning destructor body) frames =>
    some (owners, .run body (.destructor destructor :: frames))
  | .run (.locked mutex body) frames =>
    if owners mutex = none then
      some (Function.update owners mutex (some i), .run body (.unlock mutex :: frames))
    else none
  | .run (.wait mutex) frames => some (Function.update owners mutex none, .sleeping mutex frames)
  | .sleeping mutex frames => some (owners, .waking mutex frames)
  | .waking mutex frames =>
    if owners mutex = none then
      some (Function.update owners mutex (some i), .leave .normal frames)
    else none
  | .leave _ [] => none
  | .leave outcome (.unlock mutex :: frames) =>
    some (Function.update owners mutex none, .leave outcome frames)
  | .leave outcome (frame :: frames) =>
    (leaveStep outcome frame frames).map fun state => (owners, state)

/-- Threads that run the commands of some programs. -/
def system {R : Type} (program : R → Command M) : Program (Owners M) (State M) Nat R where
  start request := .run (program request) []
  step := step

end Semantics

/-- No thread has started. -/
def initial : Config (Owners M) (State M) := ⟨fun _ => none, []⟩

/-! ## Disciplines -/

/-- What may be locked and where a thread may sleep, given what it holds otherwise. -/
structure Discipline (M : Type) where
  may : List M → M → Prop
  sleeps : List M → M → Prop
  fresh : ∀ {held mutex}, may held mutex → mutex ∉ held

variable {D : Discipline M}

/-- The command keeps to the discipline if it starts with these mutexes held. -/
def Command.Follows (D : Discipline M) : List M → Command M → Prop
  | _, skip => True
  | _, ret => True
  | _, raise => True
  | _, terminate => True
  | held, seq first second => first.Follows D held ∧ second.Follows D held
  | held, either first second => first.Follows D held ∧ second.Follows D held
  | held, any body => ∀ n, (body n).Follows D held
  | held, loop body => body.Follows D held
  | held, call body => body.Follows D held
  | held, attempt body handler => body.Follows D held ∧ handler.Follows D held
  | held, owning destructor body => destructor.Follows D held ∧ body.Follows D held
  | held, locked mutex body => D.may held mutex ∧ body.Follows D (mutex :: held)
  | held, wait mutex => ∃ others, held = mutex :: others ∧ D.sleeps others mutex

/-- A block follows if each of its commands does. -/
@[simp] theorem follows_block {held : List M} {commands : List (Command M)} :
    (Command.block commands).Follows D held ↔ ∀ command ∈ commands, command.Follows D held := by
  induction commands with
  | nil => simp [Command.block, Command.Follows]
  | cons command commands ih => simp [Command.block, Command.Follows, ih]

@[simp] theorem follows_code {held : List M} : (Command.code : Command M).Follows D held :=
  ⟨trivial, trivial⟩

@[simp] theorem follows_branch {held : List M} {command : Command M} :
    (Command.branch command).Follows D held ↔ command.Follows D held :=
  ⟨And.left, fun h => ⟨h, trivial⟩⟩

def FramesFollow (D : Discipline M) : List (Frame M) → Prop
  | [] => True
  | .next command :: frames => command.Follows D (held frames) ∧ FramesFollow D frames
  | .again body :: frames => body.Follows D (held frames) ∧ FramesFollow D frames
  | .boundary :: frames => FramesFollow D frames
  | .handler command :: frames => command.Follows D (held frames) ∧ FramesFollow D frames
  | .destructor command :: frames => command.Follows D (held frames) ∧ FramesFollow D frames
  | .resume _ :: frames => FramesFollow D frames
  | .unlock mutex :: frames => D.may (held frames) mutex ∧ FramesFollow D frames

/-- The thread waits on the innermost mutex that it has locked. -/
def Waits (D : Discipline M) (mutex : M) (frames : List (Frame M)) : Prop :=
  ∃ others, held frames = mutex :: others ∧ D.sleeps others mutex ∧ D.may others mutex

def State.Follows (D : Discipline M) : State M → Prop
  | run command frames => command.Follows D (held frames) ∧ FramesFollow D frames
  | leave _ frames => FramesFollow D frames
  | sleeping mutex frames => Waits D mutex frames ∧ FramesFollow D frames
  | waking mutex frames => Waits D mutex frames ∧ FramesFollow D frames

theorem FramesFollow.may_head {mutex : M} {others : List M} {frames : List (Frame M)}
    (h : FramesFollow D frames) (hheld : held frames = mutex :: others) : D.may others mutex := by
  induction frames with
  | nil => cases hheld
  | cons frame frames ih =>
    cases frame with
    | unlock mutex' =>
      cases hheld
      exact h.1
    | boundary => exact ih h hheld
    | resume outcome => exact ih h hheld
    | next command => exact ih h.2 hheld
    | again body => exact ih h.2 hheld
    | handler command => exact ih h.2 hheld
    | destructor command => exact ih h.2 hheld

/-- What a thread requests is permitted by what it holds. -/
theorem State.Follows.may_requests {state : State M} {mutex : M} (h : state.Follows D)
    (hrequests : state.requests = some mutex) : D.may state.holds mutex := by
  cases state with
  | run command frames =>
    cases command with
    | locked mutex' body =>
      cases hrequests
      exact h.1.1
    | _ => cases hrequests
  | waking mutex' frames =>
    cases hrequests
    obtain ⟨others, hheld, -, hmay⟩ := h.1
    simpa only [holds, hheld, List.tail_cons] using hmay
  | leave outcome frames => cases hrequests
  | sleeping mutex' frames => cases hrequests

/-- A thread that waits sleeps where it may, also when it locks the mutex again. -/
theorem State.Follows.sleeps {state : State M} {mutex : M} {frames : List (Frame M)}
    (h : state.Follows D) (hstate : state = .sleeping mutex frames ∨ state = .waking mutex frames) :
    D.sleeps state.holds mutex := by
  rcases hstate with rfl | rfl
  · obtain ⟨others, hheld, hsleeps, -⟩ := h.1
    simpa only [holds, hheld, List.tail_cons] using hsleeps
  · obtain ⟨others, hheld, hsleeps, -⟩ := h.1
    simpa only [holds, hheld, List.tail_cons] using hsleeps

/-! ## Steps -/

section Steps

variable [DecidableEq M]

/-- What a step does to the owners, and to what its thread holds. -/
inductive Effect (i : Nat) (owners : Owners M) (state : State M) : Owners M → State M → Prop where
  | nothing {state' : State M} (hholds : state'.holds = state.holds) :
      Effect i owners state owners state'
  | acquires {mutex : M} {state' : State M} (hfree : owners mutex = none)
      (hholds : state'.holds = mutex :: state.holds) :
      Effect i owners state (Function.update owners mutex (some i)) state'
  | releases {mutex : M} {state' : State M} (hholds : state.holds = mutex :: state'.holds)
      (hfresh : mutex ∉ state'.holds) :
      Effect i owners state (Function.update owners mutex none) state'

variable {i : Nat} {owners owners' : Owners M} {state state' : State M} {choice : Nat}

omit [DecidableEq M] in
/-- Leaving a frame that is not a lock. -/
theorem follows_leaveStep {outcome : Outcome} {frame : Frame M} {frames : List (Frame M)}
    (h : FramesFollow D (frame :: frames)) (hframe : ∀ mutex, frame ≠ .unlock mutex)
    (hstep : leaveStep outcome frame frames = some state') :
    state'.Follows D ∧ state'.holds = held (frame :: frames) := by
  cases frame with
  | next command => cases outcome <;> cases hstep <;> first | exact ⟨h, rfl⟩ | exact ⟨h.2, rfl⟩
  | again body => cases outcome <;> cases hstep <;> first | exact ⟨h, rfl⟩ | exact ⟨h.2, rfl⟩
  | boundary => cases outcome <;> cases hstep <;> exact ⟨h, rfl⟩
  | handler command => cases outcome <;> cases hstep <;> first | exact ⟨h, rfl⟩ | exact ⟨h.2, rfl⟩
  | destructor command => cases outcome <;> cases hstep <;> exact ⟨h, rfl⟩
  | resume outcome' =>
    cases outcome <;> cases hstep
    exact ⟨h, rfl⟩
  | unlock mutex => exact absurd rfl (hframe mutex)

/-- A step keeps to the discipline, and changes the owners by what its thread holds. -/
theorem State.Follows.step (h : state.Follows D)
    (hstep : ScopedLocks.step i owners state choice = some (owners', state')) :
    state'.Follows D ∧ Effect i owners state owners' state' := by
  cases state with
  | run command frames =>
    obtain ⟨hcommand, hframes⟩ := h
    cases command with
    | skip =>
      cases hstep
      exact ⟨hframes, .nothing rfl⟩
    | ret =>
      cases hstep
      exact ⟨hframes, .nothing rfl⟩
    | raise =>
      cases hstep
      exact ⟨hframes, .nothing rfl⟩
    | terminate => cases hstep
    | seq first second =>
      cases hstep
      exact ⟨⟨hcommand.1, hcommand.2, hframes⟩, .nothing rfl⟩
    | either first second =>
      cases hstep
      refine ⟨⟨?_, hframes⟩, .nothing rfl⟩
      split
      · exact hcommand.1
      · exact hcommand.2
    | any body =>
      cases hstep
      exact ⟨⟨hcommand choice, hframes⟩, .nothing rfl⟩
    | loop body =>
      cases hstep
      by_cases hchoice : choice = 0
      · rw [if_pos hchoice]
        exact ⟨hframes, .nothing rfl⟩
      · rw [if_neg hchoice]
        exact ⟨⟨hcommand, hcommand, hframes⟩, .nothing rfl⟩
    | call body =>
      cases hstep
      exact ⟨⟨hcommand, hframes⟩, .nothing rfl⟩
    | attempt body handler =>
      cases hstep
      exact ⟨⟨hcommand.1, hcommand.2, hframes⟩, .nothing rfl⟩
    | owning destructor body =>
      cases hstep
      exact ⟨⟨hcommand.2, hcommand.1, hframes⟩, .nothing rfl⟩
    | locked mutex body =>
      by_cases hfree : owners mutex = none
      · rw [ScopedLocks.step, if_pos hfree] at hstep
        cases hstep
        exact ⟨⟨hcommand.2, hcommand.1, hframes⟩, .acquires hfree rfl⟩
      · rw [ScopedLocks.step, if_neg hfree] at hstep
        cases hstep
    | wait mutex =>
      cases hstep
      obtain ⟨others, hheld, hsleeps⟩ := hcommand
      have hmay := hframes.may_head hheld
      have hothers : (sleeping mutex frames).holds = others := by rw [holds, hheld, List.tail_cons]
      refine ⟨⟨⟨others, hheld, hsleeps, hmay⟩, hframes⟩, .releases ?_ ?_⟩
      · rw [hothers]
        exact hheld
      · rw [hothers]
        exact D.fresh hmay
  | leave outcome frames =>
    cases frames with
    | nil => cases hstep
    | cons frame frames =>
      by_cases hframe : ∃ mutex, frame = .unlock mutex
      · obtain ⟨mutex, rfl⟩ := hframe
        cases hstep
        exact ⟨h.2, .releases rfl (D.fresh h.1)⟩
      · have hleave : ∃ state'', leaveStep outcome frame frames = some state'' ∧
            (owners, state'') = (owners', state') := by
          cases frame with
          | unlock mutex => exact absurd ⟨mutex, rfl⟩ hframe
          | _ => exact Option.map_eq_some_iff.mp hstep
        obtain ⟨state'', hleave, heq⟩ := hleave
        cases heq
        obtain ⟨hfollows, hholds⟩ :=
          follows_leaveStep h (fun mutex heq => hframe ⟨mutex, heq⟩) hleave
        exact ⟨hfollows, .nothing hholds⟩
  | sleeping mutex frames =>
    cases hstep
    exact ⟨h, .nothing rfl⟩
  | waking mutex frames =>
    by_cases hfree : owners mutex = none
    · rw [ScopedLocks.step, if_pos hfree] at hstep
      cases hstep
      obtain ⟨⟨others, hheld, -⟩, hframes⟩ := h
      refine ⟨hframes, .acquires hfree ?_⟩
      rw [holds, holds, hheld, List.tail_cons]
    · rw [ScopedLocks.step, if_neg hfree] at hstep
      cases hstep

/-! ## Runs -/

section Runs

variable {R : Type} {program : R → Command M} {c : Config (Owners M) (State M)}

/-- If every program keeps to the discipline, so does every thread in every run. -/
theorem follows_of_leads (hprogram : ∀ request, (program request).Follows D [])
    (h : (system program).Leads (fun _ => True) initial c) :
    ∀ state ∈ c.threads, state.Follows D := by
  refine h.forall_threads (motive := fun _ state => state.Follows D) nofun ?_ ?_ ?_
  · intro _ request _
    exact ⟨hprogram request, trivial⟩
  · intro _ i state choice owners' state' _ _ hmoves hstate
    exact (hstate.step hmoves.step).1
  · intro _ _ _ _ _ _ _ _ _ _ hstate
    exact hstate

/-- The owners after a step, for its own thread. -/
theorem Effect.own (h : Effect i owners state owners' state')
    (howner : ∀ mutex, owners mutex = some i ↔ mutex ∈ state.holds) (mutex : M) :
    owners' mutex = some i ↔ mutex ∈ state'.holds := by
  cases h with
  | nothing hholds => rw [hholds, howner]
  | @acquires mutex' _ hfree hholds =>
    rw [hholds, List.mem_cons]
    by_cases heq : mutex = mutex'
    · simp [heq]
    · rw [Function.update_of_ne heq, howner]
      simp [heq]
  | @releases mutex' _ hholds hfresh =>
    by_cases heq : mutex = mutex'
    · simp [heq, hfresh]
    · rw [Function.update_of_ne heq, howner, hholds, List.mem_cons]
      simp [heq]

/-- The owners after a step of another thread. -/
theorem Effect.other (h : Effect i owners state owners' state')
    (howner : ∀ mutex, owners mutex = some i ↔ mutex ∈ state.holds) {j : Nat} (hne : i ≠ j)
    (mutex : M) : owners' mutex = some j ↔ owners mutex = some j := by
  cases h with
  | nothing hholds => exact Iff.rfl
  | @acquires mutex' _ hfree hholds =>
    by_cases heq : mutex = mutex'
    · simp [heq, hfree, hne]
    · rw [Function.update_of_ne heq]
  | @releases mutex' _ hholds hfresh =>
    by_cases heq : mutex = mutex'
    · have hmine : owners mutex' = some i := by
        rw [howner, hholds]
        exact List.mem_cons_self
      simp [heq, hmine, hne]
    · rw [Function.update_of_ne heq]

/-- A mutex is owned by the thread that holds it. -/
theorem owner_iff (hprogram : ∀ request, (program request).Follows D [])
    (h : (system program).Leads (fun _ => True) initial c) (mutex : M) (j : Nat) :
    c.shared mutex = some j ↔ ∃ state, c.threads[j]? = some state ∧ mutex ∈ state.holds := by
  have hall : ∀ (mutex : M) (j : Nat),
      c.shared mutex = some j ↔ ∃ state, c.threads[j]? = some state ∧ mutex ∈ state.holds := by
    refine h.induct (motive := fun (c : Config (Owners M) (State M)) => ∀ (mutex : M) (j : Nat),
      c.shared mutex = some j ↔ ∃ state, c.threads[j]? = some state ∧ mutex ∈ state.holds) ?_ ?_ ?_
    · intro mutex j
      exact ⟨nofun, fun ⟨_, hj, _⟩ => absurd hj (by simp [initial])⟩
    · intro c₁ request _ ih mutex j
      refine (ih mutex j).trans ⟨?_, ?_⟩
      · rintro ⟨state, hj, hmem⟩
        have hlt := (List.getElem?_eq_some_iff.mp hj).1
        exact ⟨state, (List.getElem?_append_left hlt).trans hj, hmem⟩
      · rintro ⟨state, hj, hmem⟩
        rcases getElem?_snoc hj with hj | ⟨-, rfl⟩
        · exact ⟨state, hj, hmem⟩
        · cases hmem
    · intro c₁ i state choice owners' state' hleads ih _ hmoves mutex j
      have hmem := List.mem_of_getElem? hmoves.thread
      obtain ⟨-, heffect⟩ := (follows_of_leads hprogram hleads state hmem).step hmoves.step
      have hi := (List.getElem?_eq_some_iff.mp hmoves.thread).1
      have howner : ∀ mutex, c₁.shared mutex = some i ↔ mutex ∈ state.holds := by
        intro mutex
        rw [ih, hmoves.thread]
        simp
      by_cases hij : i = j
      · subst hij
        rw [heffect.own howner]
        simp [hi]
      · rw [heffect.other howner hij, ih, List.getElem?_set_ne hij]
  exact hall mutex j

end Runs

end Steps

/-! ## Locking in the order of a rank -/

/-- A mutex is locked only if its rank is above that of every mutex that is held. -/
def ranked (rank : M → Nat) (sleeps : List M → M → Prop) : Discipline M where
  may held mutex := ∀ mutex' ∈ held, rank mutex' < rank mutex
  sleeps := sleeps
  fresh h hmem := Nat.lt_irrefl _ (h _ hmem)

/-- A thread requests a mutex that another one, or itself, holds. -/
def WaitsFor (c : Config (Owners M) (State M)) (i j : Nat) : Prop :=
  ∃ state state' mutex, c.threads[i]? = some state ∧ state.requests = some mutex ∧
    c.threads[j]? = some state' ∧ mutex ∈ state'.holds

section Ranked

variable {rank : M → Nat} {sleeps : List M → M → Prop} {c : Config (Owners M) (State M)}

/-- Along a chain of waiting threads the ranks grow. -/
theorem rank_le_of_waitsFor
    (h : ∀ state ∈ c.threads, state.Follows (ranked rank sleeps)) {i j : Nat}
    (hchain : Relation.TransGen (WaitsFor c) i j) :
    ∃ state mutex state' mutex', c.threads[i]? = some state ∧ state.requests = some mutex ∧
      c.threads[j]? = some state' ∧ mutex' ∈ state'.holds ∧ rank mutex ≤ rank mutex' := by
  induction hchain with
  | single hwaits =>
    obtain ⟨state, state', mutex, hi, hrequests, hj, hholds⟩ := hwaits
    exact ⟨state, mutex, state', mutex, hi, hrequests, hj, hholds, Nat.le_refl _⟩
  | tail _ hwaits ih =>
    obtain ⟨state, mutex, state₁, mutex₁, hi, hrequests, hj, hholds, hle⟩ := ih
    obtain ⟨state₂, state', mutex', hj', hrequests', hk, hholds'⟩ := hwaits
    cases hj.symm.trans hj'
    have hlt : rank mutex₁ < rank mutex' :=
      (h state₁ (List.mem_of_getElem? hj)).may_requests hrequests' mutex₁ hholds
    exact ⟨state, mutex, state', mutex', hi, hrequests, hk, hholds',
      Nat.le_trans hle (Nat.le_of_lt hlt)⟩

/-- No thread waits for itself, directly or through others. -/
theorem not_waitsFor_cycle
    (h : ∀ state ∈ c.threads, state.Follows (ranked rank sleeps)) (i : Nat) :
    ¬ Relation.TransGen (WaitsFor c) i i := by
  intro hcycle
  obtain ⟨state, mutex, state', mutex', hi, hrequests, hi', hholds, hle⟩ :=
    rank_le_of_waitsFor h hcycle
  cases hi.symm.trans hi'
  have hlt : rank mutex' < rank mutex :=
    (h state (List.mem_of_getElem? hi)).may_requests hrequests mutex' hholds
  omega

end Ranked

end PhotospiderDaemon.Foundation.ScopedLocks
