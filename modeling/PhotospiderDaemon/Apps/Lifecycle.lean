import PhotospiderDaemon.Apps.Signals
import PhotospiderDaemon.Foundation.ConditionVariables

/-!
# From the start of the daemon to its end

What holds of the process at every stage of `main` and of the waiter, whatever comes from outside
and whenever.

* `Guarded`: the masks, and how long the threads live.
* `Answered`: what becomes of a signal.
* `Accounted`: what `main` knows of its exit code, which `Verdict` determines.
* `work`: a measure that every step decreases, so that the daemon comes to a stop; `Stuck.cases`
  says where.
-/

namespace PhotospiderDaemon.Apps

open Foundation Ipc

variable [Kernel]

/-! ## The stages -/

namespace MainStage

/-- The guard is constructed, and the mask not yet restored. -/
def guarded : MainStage → Bool
  | entered _ | blocking _ | leaving _ | exited _ => false
  | _ => true

/-- There may be handlers. -/
def handles : MainStage → Bool
  | running | closing _ | completing _ | waking _ | joining _ | reporting _ | destroying _
  | emptying _ => true
  | _ => false

/-- There may be workers. -/
def works : MainStage → Bool
  | starting | retiring _ => true
  | stage => stage.handles

/-- The thread of the waiter is started, and not yet joined. -/
def attended : MainStage → Bool
  | running | closing _ | completing _ | waking _ | joining _ => true
  | _ => false

/-- The thread of the waiter is not yet started. -/
def early : MainStage → Bool
  | entered _ | blocking _ | constructing _ | starting => true
  | _ => false

/-- The loop of `run()` has not yet been left. -/
def ahead : MainStage → Bool
  | running => true
  | stage => stage.early

/-- `complete_` is not yet set. -/
def incomplete : MainStage → Bool
  | closing _ | completing _ => true
  | stage => stage.ahead

/-- `complete_` is set, and the waiter not yet joined. -/
def finishing : MainStage → Bool
  | waking _ | joining _ => true
  | _ => false

def joins : MainStage → Bool
  | joining _ => true
  | _ => false

/-- The handlers are joined. -/
def empties : MainStage → Bool
  | closing _ | emptying _ => true
  | _ => false

/-- The workers are joined. -/
def retires : MainStage → Bool
  | retiring _ => true
  | _ => false

def drains : MainStage → Bool
  | draining _ => true
  | _ => false

/-- In front of the `pthread_sigmask` of `restore()`. -/
def restores : MainStage → Bool
  | unblocking _ => true
  | _ => false

end MainStage

section Main

variable {p p' : Process} {m m' : MainStage} {w : WaiterStage}

/-- No step of `main` goes back behind one of these points. -/
theorem MainMove.onward (h : MainMove p m p' m') :
    (m'.early = true → m.early = true) ∧ (m'.ahead = true → m.ahead = true) ∧
      (m'.incomplete = true → m.incomplete = true) := by
  refine ⟨fun hlater => ?_, fun hlater => ?_, fun hlater => ?_⟩
  all_goals
    cases h with
    | advance hadvance => cases hadvance <;> first | rfl | cases hlater
    | _ => first | rfl | cases hlater

/-- What `main` never does. -/
theorem MainMove.frame (h : MainMove p m p' m') :
    p'.exited = p.exited ∧ p'.asked = p.asked ∧ (p.stopping = true → p'.stopping = true) ∧
      (p.complete = true → p'.complete = true) := by
  cases h <;> exact ⟨rfl, rfl, fun h => by first | exact h | rfl, fun h => by first | exact h | rfl⟩

/-- The waiter is joined when it has exited. -/
theorem MainMove.attended (h : MainMove p m p' m') :
    m'.attended = m.attended ∧ p'.waiterMask = p.waiterMask ∨
      m.early = true ∧ m.guarded = true ∧ m'.attended = true ∧ p'.waiterMask = some p.mask ∨
      m.attended = true ∧ m'.attended = false ∧ p'.waiterMask = p.waiterMask ∧ p.exited = true := by
  cases h with
  | advance hadvance =>
    cases hadvance with
    | joined hexited => exact Or.inr (Or.inr ⟨rfl, rfl, rfl, hexited⟩)
    | joinedRaised hexited => exact Or.inr (Or.inr ⟨rfl, rfl, rfl, hexited⟩)
    | _ => exact Or.inl ⟨rfl, rfl⟩
  | start => exact Or.inr (Or.inl ⟨rfl, rfl, rfl, rfl⟩)
  | _ => exact Or.inl ⟨rfl, rfl⟩

/-- A stage without handlers is reached when they are joined. -/
theorem MainMove.handlers (h : MainMove p m p' m') (hlater : m'.handles = false) :
    m.handles = false ∧ p'.handlers = p.handlers ∨ p'.handlers = 0 := by
  cases h with
  | advance hadvance => cases hadvance <;> first | exact Or.inl ⟨rfl, rfl⟩ | cases hlater
  | empty hhandlers => exact Or.inr hhandlers
  | _ => first | exact Or.inl ⟨rfl, rfl⟩ | cases hlater

/-- A stage without workers is reached when they are joined. -/
theorem MainMove.workers (h : MainMove p m p' m') (hlater : m'.works = false) :
    m.works = false ∧ p'.workers = p.workers ∨ p'.workers = 0 := by
  cases h with
  | advance hadvance =>
    cases hadvance with
    | retired hworkers => exact Or.inr hworkers
    | retiredRaised hworkers => exact Or.inr hworkers
    | _ => first | exact Or.inl ⟨rfl, rfl⟩ | cases hlater
  | _ => first | exact Or.inl ⟨rfl, rfl⟩ | cases hlater

/-- The threads of the server inherit the mask of `main`. -/
theorem MainMove.serverMask (h : MainMove p m p' m') (hlater : m'.works = true) :
    m.works = true ∧ p'.serverMask = p.serverMask ∨ m.guarded = true ∧ p'.serverMask = p.mask ∨
      m.works = true ∧ m.guarded = true ∧
        p'.serverMask = fun signal => p.serverMask signal && p.mask signal := by
  cases h with
  | advance hadvance => cases hadvance <;> first | exact Or.inl ⟨rfl, rfl⟩ | cases hlater
  | unconstructed => exact Or.inr (Or.inl ⟨rfl, rfl⟩)
  | construct => exact Or.inr (Or.inl ⟨rfl, rfl⟩)
  | accept => exact Or.inr (Or.inr ⟨rfl, rfl, rfl⟩)
  | _ => first | exact Or.inl ⟨rfl, rfl⟩ | cases hlater

end Main

/-! ## Masks and threads -/

/-- As long as the guard exists all threads block the signals. The waiter and the threads of the
server live from their start to their join. -/
structure Guarded (p : Process) (m : MainStage) (w : WaiterStage) : Prop where
  mask : m.guarded = true → p.mask = SignalSet.all
  outcome : m.guarded = true → p.outcome = none
  exits : ∀ code, p.outcome = some (.exit code) ↔ m = .exited code
  serverMask : m.works = true → p.serverMask = SignalSet.all
  handlers : m.handles = false → p.handlers = 0
  workers : m.works = false → p.workers = 0
  waiterMask : p.waiterMask = if m.attended ∧ w ≠ .ended then some SignalSet.all else none
  early : m.early = true → w = .unstarted
  settled : m.attended = false → w = .unstarted ∨ w = .ended
  exited : p.exited = true ↔ w = .ended

omit [Kernel] in
theorem Guarded.initial (argv : List Bytes) (mask pending : SignalSet) :
    Guarded (.initial mask pending) (.entered argv) .unstarted where
  mask := nofun
  outcome := nofun
  exits := by simp [Process.initial]
  serverMask := nofun
  handlers _ := rfl
  workers _ := rfl
  waiterMask := rfl
  early _ := rfl
  settled _ := Or.inl rfl
  exited := by simp [Process.initial]

namespace Guarded

variable {p p' : Process} {m m' : MainStage} {w w' : WaiterStage}

theorem mask_main (h : Guarded p m w) (hmove : MainMove p m p' m') (hguarded : m'.guarded = true) :
    p'.mask = SignalSet.all := by
  cases hmove with
  | advance hadvance =>
    have hbefore : m.guarded = true := by cases hadvance <;> first | rfl | cases hguarded
    exact h.mask hbefore
  | block => rfl
  | _ => first | exact h.mask rfl | cases hguarded

/-- `main` ends the process by its return, or by a signal that it unblocks. -/
theorem outcome_main (houtcome : p.outcome = none) (hmove : MainMove p m p' m') :
    (p'.outcome = none ∧ ∀ code, m' ≠ .exited code) ∨
      (∃ code, p'.outcome = some (.exit code) ∧ m' = .exited code) ∨
      ∃ signal code, p'.outcome = some (.killed signal) ∧ m' = .leaving code := by
  have hunblock : ∀ code,
      (p.unblock.outcome = none ∧ ∀ code', MainStage.leaving code ≠ .exited code') ∨
      (∃ code', p.unblock.outcome = some (.exit code') ∧ MainStage.leaving code = .exited code') ∨
      ∃ signal code', p.unblock.outcome = some (.killed signal) ∧
        MainStage.leaving code = .leaving code' := by
    intro code
    cases hfirst : SignalSet.first fun signal => p.pending signal && !p.previousMask signal with
    | none => exact Or.inl ⟨by simp [Process.unblock, hfirst], nofun⟩
    | some signal => exact Or.inr (Or.inr ⟨signal, code, by simp [Process.unblock, hfirst], rfl⟩)
  cases hmove with
  | advance hadvance => exact Or.inl ⟨houtcome, by cases hadvance <;> nofun⟩
  | misused => exact Or.inr (Or.inl ⟨_, rfl, rfl⟩)
  | helped => exact Or.inr (Or.inl ⟨_, rfl, rfl⟩)
  | unblocked => exact Or.inr (Or.inl ⟨_, rfl, rfl⟩)
  | leave => exact Or.inr (Or.inl ⟨_, rfl, rfl⟩)
  | restore => exact hunblock _
  | unmask => exact hunblock _
  | _ => exact Or.inl ⟨houtcome, nofun⟩

theorem main (h : Guarded p m w) (houtcome : p.outcome = none) (hmove : MainMove p m p' m') :
    Guarded p' m' w := by
  obtain ⟨hearly, -, -⟩ := hmove.onward
  obtain ⟨hexited, -, -, -⟩ := hmove.frame
  refine
    { mask := h.mask_main hmove, outcome := ?_, exits := ?_, serverMask := ?_, handlers := ?_
      workers := ?_, waiterMask := ?_, early := fun hlater => h.early (hearly hlater)
      settled := ?_, exited := by rw [hexited, h.exited] }
  · intro hguarded
    rcases outcome_main houtcome hmove with ⟨hnone, -⟩ | ⟨code, -, rfl⟩ | ⟨signal, code, -, rfl⟩
    · exact hnone
    · cases hguarded
    · cases hguarded
  · intro code
    rcases outcome_main houtcome hmove with ⟨hnone, hstage⟩ | ⟨code', hexit, rfl⟩ |
      ⟨signal, code', hkilled, rfl⟩
    · simp [hnone, hstage]
    · simp [hexit]
    · simp [hkilled]
  · intro hlater
    rcases hmove.serverMask hlater with ⟨hworks, hmask⟩ | ⟨hguarded, hmask⟩ |
      ⟨hworks, hguarded, hmask⟩
    · rw [hmask, h.serverMask hworks]
    · rw [hmask, h.mask hguarded]
    · rw [hmask, h.serverMask hworks, h.mask hguarded]
      rfl
  · intro hlater
    rcases hmove.handlers hlater with ⟨hbefore, hkept⟩ | hnone
    · rw [hkept, h.handlers hbefore]
    · exact hnone
  · intro hlater
    rcases hmove.workers hlater with ⟨hbefore, hkept⟩ | hnone
    · rw [hkept, h.workers hbefore]
    · exact hnone
  · rcases hmove.attended with ⟨hattended, hmask⟩ | ⟨hearly, hguarded, hattended, hmask⟩ |
      ⟨-, hattended, hmask, hexited⟩
    · rw [hmask, hattended, h.waiterMask]
    · rw [hmask, h.mask hguarded, h.early hearly, hattended]
      rfl
    · rw [hmask, hattended, h.waiterMask, if_neg (fun hlive => hlive.2 (h.exited.mp hexited))]
      rfl
  · intro hlater
    rcases hmove.attended with ⟨hattended, -⟩ | ⟨-, -, hattended, -⟩ | ⟨-, -, -, hexited⟩
    · exact h.settled (hattended.symm.trans hlater)
    · cases hattended.symm.trans hlater
    · exact Or.inr (h.exited.mp hexited)

omit [Kernel] in
theorem attended_of_moves (h : Guarded p m w) (hmove : WaiterMove p w p' w') :
    m.attended = true := by
  rw [← Bool.not_eq_false]
  intro hattended
  rcases h.settled hattended with rfl | rfl
  · cases hmove with
    | begin hstarted =>
      rw [h.waiterMask, hattended] at hstarted
      cases hstarted
  · cases hmove

omit [Kernel] in
theorem waiter (h : Guarded p m w) (hmove : WaiterMove p w p' w') : Guarded p' m w' := by
  have hattended := h.attended_of_moves hmove
  have hearly : m.early = false := by cases m <;> first | rfl | cases hattended
  have hsettled : m.attended = false → w' = .unstarted ∨ w' = .ended :=
    fun hsettled => nomatch hattended.symm.trans hsettled
  have hmask : m.attended = true ∧ w ≠ .ended := ⟨hattended, by rintro rfl; cases hmove⟩
  have hbefore := h.waiterMask
  rw [if_pos hmask] at hbefore
  have hexited := h.exited
  cases hmove with
  | exit =>
    exact
      { h with
        waiterMask := by simp
        early := fun hlater => nomatch hearly.symm.trans hlater
        settled := hsettled
        exited := by simp }
  | _ =>
    exact
      { h with
        waiterMask := by rw [if_pos ⟨hattended, nofun⟩]; exact hbefore
        early := fun hlater => nomatch hearly.symm.trans hlater
        settled := hsettled
        exited := by simpa using hexited }

omit [Kernel] in
/-- No signal is delivered while the guard exists. -/
theorem accepts_eq_false (h : Guarded p m w) (hguarded : m.guarded = true) (signal : Signal) :
    p.accepts signal = false := by
  have hserver : (p.handlers + p.workers ≠ 0 && !p.serverMask signal) = false := by
    by_cases hworks : m.works = true
    · simp [h.serverMask hworks, SignalSet.all]
    · have hhandles : m.handles = false := by cases m <;> first | rfl | exact absurd rfl hworks
      simp [h.handlers hhandles, h.workers (Bool.eq_false_iff.mpr hworks)]
  rw [Process.accepts, hserver, h.mask hguarded, h.waiterMask]
  split <;> rfl

omit [Kernel] in
theorem send (h : Guarded p m w) (houtcome : p.outcome = none) (signal : Signal) :
    Guarded (p.send signal) m w := by
  by_cases haccepts : p.accepts signal = true
  · have hguarded : m.guarded = false := by
      by_contra hguarded
      rw [h.accepts_eq_false (Bool.not_eq_false _ ▸ hguarded) signal] at haccepts
      cases haccepts
    rw [Process.send, if_pos haccepts]
    have houtcome' : m.guarded = true → some (Outcome.killed signal) = none :=
      fun hguarded' => nomatch hguarded.symm.trans hguarded'
    refine { h with outcome := houtcome', exits := fun code => ?_ }
    have hstage := h.exits code
    rw [houtcome] at hstage
    exact ⟨nofun, fun heq => nomatch hstage.mpr heq⟩
  · rw [Process.send, if_neg haccepts]
    exact { h with }

omit [Kernel] in
theorem event (h : Guarded p m w) (houtcome : p.outcome = none) (hmove : EventMove p p') :
    Guarded p' m w := by
  cases hmove with
  | signal => exact h.send houtcome _
  | shutdown => exact { h with }
  | connect => exact { h with }
  | handlerEnds => exact { h with handlers := fun hlater => by simp [h.handlers hlater] }
  | workerEnds => exact { h with workers := fun hlater => by simp [h.workers hlater] }

end Guarded

/-! ## What becomes of a signal -/

/-- A stop signal that has come is pending, or the waiter has it, or the server is stopping. The
waiter quits for no other reason, and is woken when it has to. Handlers are joined when the server
is stopping, workers when the registry is. -/
structure Answered (p : Process) (m : MainStage) (w : WaiterStage) : Prop where
  quit : w = .exiting ∨ w = .ended → p.stopping = true ∨ p.complete = true
  incomplete : m.incomplete = true → p.complete = false
  complete : m.finishing = true → p.complete = true
  asked : m.ahead = true → p.asked = true → p.pending .interrupt = true ∨
    p.pending .terminate = true ∨ w = .requesting ∨ p.stopping = true
  roused : m.joins = true → w = .unstarted ∨ w = .waiting → p.directed = true ∨ p.unwoken = true
  stops : m.empties = true → p.stopping = true
  retires : m.retires = true → p.retiring = true
  pending : m.drains = true → p.pending.first.isSome = true
  fresh : m.restores = true → ∀ signal, p.pending signal = true → p.fresh signal = true

omit [Kernel] in
theorem Answered.initial (argv : List Bytes) (mask pending : SignalSet) :
    Answered (.initial mask pending) (.entered argv) .unstarted where
  quit := by simp
  incomplete _ := rfl
  complete := nofun
  asked := by
    intro _ hasked
    rcases Bool.or_eq_true_iff.mp hasked with hinterrupt | hterminate
    · exact Or.inl hinterrupt
    · exact Or.inr (Or.inl hterminate)
  roused := nofun
  stops := nofun
  retires := nofun
  pending := nofun
  fresh := nofun

namespace Answered

variable {p p' : Process} {m m' : MainStage} {w w' : WaiterStage}

theorem main (h : Answered p m w) (hguarded : Guarded p m w) (hmove : MainMove p m p' m') :
    Answered p' m' w := by
  obtain ⟨-, hahead, hincomplete⟩ := hmove.onward
  obtain ⟨-, hasked, hstopping, hcomplete⟩ := hmove.frame
  refine
    { quit := fun hquit => (h.quit hquit).imp hstopping hcomplete, incomplete := ?_, complete := ?_
      asked := ?_, roused := ?_, stops := ?_, retires := ?_, pending := ?_, fresh := ?_ }
  · intro hlater
    have hbefore := h.incomplete (hincomplete hlater)
    cases hmove with
    | complete => cases hlater
    | _ => exact hbefore
  · intro hlater
    cases hmove with
    | advance hadvance => cases hadvance <;> cases hlater
    | complete => rfl
    | _ => first | exact h.complete rfl | cases hlater
  · intro hlater hasked'
    rw [hasked] at hasked'
    have hkept := h.asked (hahead hlater) hasked'
    have hpending : p'.pending = p.pending := by
      cases hmove with
      | drain => cases hlater
      | _ => rfl
    rw [hpending]
    exact hkept.imp_right (Or.imp_right (Or.imp_right hstopping))
  · intro hlater hw
    have hlive : p.exited = false := by
      rw [Bool.eq_false_iff]
      intro hexited
      rcases hw with hw | hw
      · cases hw.symm.trans (hguarded.exited.mp hexited)
      · cases hw.symm.trans (hguarded.exited.mp hexited)
    cases hmove with
    | advance hadvance => cases hadvance <;> cases hlater
    | wake => exact Or.inl (by simp [hlive])
    | gone hexited => cases hlive.symm.trans hexited
    | unwoken => exact Or.inr rfl
    | _ => cases hlater
  · intro hlater
    cases hmove with
    | advance hadvance =>
      cases hadvance with
      | stopped hstops => exact hstops
      | _ => cases hlater
    | _ => first | rfl | cases hlater
  · intro hlater
    cases hmove with
    | advance hadvance => cases hadvance <;> cases hlater
    | _ => first | rfl | cases hlater
  · intro hlater
    cases hmove with
    | advance hadvance => cases hadvance <;> cases hlater
    | inspect hpending => exact hpending
    | _ => cases hlater
  · intro hlater signal hsignal
    cases hmove with
    | advance hadvance => cases hadvance <;> cases hlater
    | clear hnone =>
      have hsome := (SignalSet.isSome_first_iff p.pending).mpr ⟨signal, hsignal⟩
      cases hnone.symm.trans hsome
    | _ => cases hlater

omit [Kernel] in
theorem waiter (h : Answered p m w) (hguarded : Guarded p m w) (hmove : WaiterMove p w p' w') :
    Answered p' m w' := by
  have hattended := hguarded.attended_of_moves hmove
  have hdrains : m.drains = false := by cases m <;> first | rfl | cases hattended
  have hrestores : m.restores = false := by cases m <;> first | rfl | cases hattended
  have hcomplete : p'.complete = p.complete := by cases hmove <;> rfl
  have hretiring : p'.retiring = p.retiring := by cases hmove <;> rfl
  have hstopping : p.stopping = true → p'.stopping = true := by
    intro hstops
    cases hmove <;> first | exact hstops | rfl
  refine
    { quit := ?_
      incomplete := fun hlater => hcomplete.trans (h.incomplete hlater)
      complete := fun hlater => hcomplete.trans (h.complete hlater)
      asked := ?_
      roused := ?_
      stops := fun hlater => hstopping (h.stops hlater)
      retires := fun hlater => hretiring.trans (h.retires hlater)
      pending := fun hlater => nomatch hdrains.symm.trans hlater
      fresh := fun hlater => nomatch hrestores.symm.trans hlater }
  · intro hquit
    cases hmove with
    | done hdone => exact Or.inr hdone
    | request => exact Or.inl rfl
    | exit => exact h.quit (Or.inl rfl)
    | _ => simp at hquit
  · intro hahead hasked
    cases hmove with
    | begin => simpa using h.asked hahead hasked
    | fail => simp
    | takeDirected => simpa using h.asked hahead hasked
    | takeStop => simp
    | takeWake => simpa using h.asked hahead hasked
    | done => simpa using h.asked hahead hasked
    | again => simpa using h.asked hahead hasked
    | request => simp
    | exit => simpa using h.asked hahead hasked
  · intro hjoins hw
    cases hmove with
    | begin => exact h.roused hjoins (Or.inl rfl)
    | again hincomplete =>
      have hfinishing : m.finishing = true := by cases m <;> first | rfl | cases hjoins
      cases hincomplete.symm.trans (h.complete hfinishing)
    | _ => simp at hw

omit [Kernel] in
theorem send (h : Answered p m w) (signal : Signal) : Answered (p.send signal) m w := by
  unfold Process.send
  split
  · exact { h with }
  · refine { h with asked := ?_, pending := ?_, fresh := ?_ }
    · intro hahead hasked
      rcases Bool.or_eq_true_iff.mp hasked with hbefore | hstops
      · rcases h.asked hahead hbefore with hinterrupt | hterminate | hother
        · exact Or.inl (by simp [hinterrupt])
        · exact Or.inr (Or.inl (by simp [hterminate]))
        · exact Or.inr (Or.inr hother)
      · cases signal with
        | interrupt => exact Or.inl rfl
        | terminate => exact Or.inr (Or.inl rfl)
        | wake => cases hstops
    · intro _
      exact (SignalSet.isSome_first_iff _).mpr ⟨signal, by simp⟩
    · intro hrestores other hother
      rcases Bool.or_eq_true_iff.mp hother with heq | hbefore
      · simp [of_decide_eq_true heq]
      · simp [h.fresh hrestores other hbefore]

omit [Kernel] in
theorem event (h : Answered p m w) (hmove : EventMove p p') : Answered p' m w := by
  cases hmove with
  | signal => exact h.send _
  | shutdown =>
    exact
      { h with
        quit := fun _ => Or.inl rfl
        asked := fun _ _ => Or.inr (Or.inr (Or.inr rfl))
        stops := fun _ => rfl }
  | connect => exact { h with }
  | handlerEnds => exact { h with }
  | workerEnds => exact { h with }

end Answered

/-! ## The exit code -/

namespace Leaving

/-- What `run()` has returned. -/
def result : Leaving → Option Status
  | returned status => some status
  | raised _ => none

def cause : Leaving → Option Cause
  | returned _ => none
  | raised cause => some cause

end Leaving

namespace MainStage

/-- What `run()` has returned. -/
def result : MainStage → Option Status
  | completing exit | waking exit | joining exit | destroying exit | emptying exit
  | retiring exit => exit.result
  | reporting status | inspecting status | draining status | unblocking status => some status
  | _ => none

/-- The exception that is on its way through `main`. -/
def cause : MainStage → Option Cause
  | closing exit | completing exit | waking exit | joining exit | destroying exit | emptying exit
  | retiring exit => exit.cause
  | _ => none

/-- `finish()` has returned. -/
def finished : MainStage → Bool
  | destroying (.returned _) | emptying (.returned _) | retiring (.returned _) | inspecting _
  | draining _ | unblocking _ => true
  | _ => false

/-- The constructor of the server has returned, and no exception has been thrown since. -/
def constructed : MainStage → Bool
  | starting | running | reporting _ | inspecting _ | draining _ | unblocking _ => true
  | closing exit | completing exit | waking exit | joining exit | destroying exit | emptying exit
  | retiring exit => exit.cause.isNone
  | _ => false

/-- The exit code, once it is certain. -/
def code : MainStage → Option Nat
  | unmasking code | leaving code | exited code => some code
  | _ => none

end MainStage

/-- The command line asks for a server with these options. -/
structure Requests (argv : List Bytes) (options : Options) : Prop where
  parsed : parseOptions argv = .ok options
  help : options.help = false

/-- Why `main` returns a code. -/
inductive Verdict (argv : List Bytes) (p : Process) : Nat → Prop where
  | helped {options : Options} (hoptions : parseOptions argv = .ok options)
    (hhelp : options.help = true) : Verdict argv p 0
  | misused {exception : Exception} (hoptions : parseOptions argv = .error exception) :
    Verdict argv p exception.code
  | misconfigured {options : Options} (hoptions : Requests argv options)
    (hinvalid : validConfiguration options = false) (hcause : p.cause = none) : Verdict argv p 2
  /-- `run()` has returned, the waiter has met no error, and nothing has been thrown -/
  | served {options : Options} {status : Status} (hoptions : Requests argv options)
    (hvalid : validConfiguration options = true) (hcause : p.cause = none)
    (hstatus : p.status = some status) (herror : p.error = 0) :
    Verdict argv p (if status.ok then 0 else 1)
  | failed {options : Options} {cause : Cause} (hoptions : Requests argv options)
    (hcause : p.cause = some cause) : Verdict argv p cause.code

namespace Verdict

variable {argv : List Bytes} {p p' : Process} {code code' : Nat}

theorem frame (h : Verdict argv p code) (hstatus : p'.status = p.status)
    (herror : p'.error = p.error) (hcause : p'.cause = p.cause) : Verdict argv p' code := by
  cases h with
  | helped hoptions hhelp => exact .helped hoptions hhelp
  | misused hoptions => exact .misused hoptions
  | misconfigured hoptions hinvalid hnone =>
    exact .misconfigured hoptions hinvalid (hcause.trans hnone)
  | served hoptions hvalid hnone hserved hclean =>
    exact .served hoptions hvalid (hcause.trans hnone) (hstatus.trans hserved)
      (herror.trans hclean)
  | failed hoptions hsome => exact .failed hoptions (hcause.trans hsome)

/-- The command line, what `run()` has returned and what has been thrown determine the code. -/
theorem unique (h : Verdict argv p code) (h' : Verdict argv p code') : code = code' := by
  have hsame : ∀ {options options' : Options}, parseOptions argv = .ok options →
      parseOptions argv = .ok options' → options = options' :=
    fun hparsed hparsed' => Except.ok.inj (hparsed.symm.trans hparsed')
  cases h with
  | helped hoptions hhelp =>
    cases h' with
    | helped => rfl
    | misused hoptions' => cases hoptions.symm.trans hoptions'
    | misconfigured hoptions' | served hoptions' | failed hoptions' =>
      cases hsame hoptions hoptions'.parsed
      cases hhelp.symm.trans hoptions'.help
  | misused hoptions =>
    cases h' with
    | helped hoptions' => cases hoptions.symm.trans hoptions'
    | misused hoptions' =>
      cases hoptions.symm.trans hoptions'
      rfl
    | misconfigured hoptions' | served hoptions' | failed hoptions' =>
      cases hoptions.symm.trans hoptions'.parsed
  | misconfigured hoptions hinvalid hnone =>
    cases h' with
    | helped hoptions' hhelp =>
      cases hsame hoptions' hoptions.parsed
      cases hhelp.symm.trans hoptions.help
    | misused hoptions' => cases hoptions'.symm.trans hoptions.parsed
    | misconfigured => rfl
    | served hoptions' hvalid =>
      cases hsame hoptions.parsed hoptions'.parsed
      cases hinvalid.symm.trans hvalid
    | failed _ hsome => cases hnone.symm.trans hsome
  | served hoptions hvalid hnone hstatus =>
    cases h' with
    | helped hoptions' hhelp =>
      cases hsame hoptions' hoptions.parsed
      cases hhelp.symm.trans hoptions.help
    | misused hoptions' => cases hoptions'.symm.trans hoptions.parsed
    | misconfigured hoptions' hinvalid =>
      cases hsame hoptions.parsed hoptions'.parsed
      cases hinvalid.symm.trans hvalid
    | served _ _ _ hstatus' =>
      cases hstatus.symm.trans hstatus'
      rfl
    | failed _ hsome => cases hnone.symm.trans hsome
  | failed hoptions hsome =>
    cases h' with
    | helped hoptions' hhelp =>
      cases hsame hoptions' hoptions.parsed
      cases hhelp.symm.trans hoptions.help
    | misused hoptions' => cases hoptions'.symm.trans hoptions.parsed
    | misconfigured _ _ hnone => cases hnone.symm.trans hsome
    | served _ _ hnone => cases hnone.symm.trans hsome
    | failed _ hsome' =>
      cases hsome.symm.trans hsome'
      rfl

end Verdict

/-- What `main` knows at its stage. -/
structure Accounted (argv : List Bytes) (p : Process) (m : MainStage) : Prop where
  entered : ∀ argv', m = .entered argv' → argv' = argv
  options : ∀ options, m = .blocking options ∨ m = .constructing options → Requests argv options
  requested : m.guarded = true → ∃ options, Requests argv options
  constructed : m.constructed = true →
    ∃ options, Requests argv options ∧ validConfiguration options = true
  result : ∀ status, m.result = some status → p.status = some status
  cause : m.code = none → p.cause = m.cause
  finished : m.finished = true → p.error = 0
  code : ∀ code, m.code = some code → Verdict argv p code

namespace Accounted

variable {argv : List Bytes} {p p' : Process} {m m' : MainStage} {w w' : WaiterStage}

theorem initial (argv : List Bytes) (mask pending : SignalSet) :
    Accounted argv (.initial mask pending) (.entered argv) where
  entered _ heq := by cases heq; rfl
  options := by simp
  requested := nofun
  constructed := nofun
  result := nofun
  cause _ := rfl
  finished := nofun
  code := nofun

theorem requested_main (h : Accounted argv p m) (hmove : MainMove p m p' m')
    (hguarded : m'.guarded = true) : ∃ options, Requests argv options := by
  cases hmove with
  | advance hadvance => cases hadvance <;> first | exact h.requested rfl | cases hguarded
  | block => exact ⟨_, h.options _ (Or.inl rfl)⟩
  | _ => first | exact h.requested rfl | cases hguarded

theorem constructed_main (h : Accounted argv p m) (hmove : MainMove p m p' m')
    (hconstructed : m'.constructed = true) :
    ∃ options, Requests argv options ∧ validConfiguration options = true := by
  cases hmove with
  | advance hadvance => cases hadvance <;> first | exact h.constructed rfl | cases hconstructed
  | construct hvalid => exact ⟨_, h.options _ (Or.inr rfl), hvalid⟩
  | _ => first | exact h.constructed hconstructed | exact h.constructed rfl

theorem result_main (h : Accounted argv p m) (hmove : MainMove p m p' m') {status : Status}
    (hresult : m'.result = some status) : p'.status = some status := by
  cases hmove with
  | advance hadvance => exact h.result status (by cases hadvance <;> exact hresult)
  | close => exact hresult
  | _ => first | exact h.result status hresult | cases hresult

theorem cause_main (h : Accounted argv p m) (hmove : MainMove p m p' m')
    (hcode : m'.code = none) : p'.cause = m'.cause := by
  cases hmove with
  | advance hadvance => cases hadvance <;> first | exact h.cause rfl | cases hcode
  | _ => first | rfl | exact h.cause rfl | cases hcode

theorem finished_main (h : Accounted argv p m) (hmove : MainMove p m p' m')
    (hfinished : m'.finished = true) : p'.error = 0 := by
  cases hmove with
  | advance hadvance =>
    cases hadvance with
    | reported herror => exact herror
    | retired => exact h.finished rfl
    | _ => cases hfinished
  | destroy => cases ‹Leaving› <;> first | exact h.finished rfl | cases hfinished
  | empty => cases ‹Leaving› <;> first | exact h.finished rfl | cases hfinished
  | _ => first | exact h.finished rfl | cases hfinished

theorem code_main (h : Accounted argv p m) (hmove : MainMove p m p' m') {code : Nat}
    (hcode : m'.code = some code) : Verdict argv p' code := by
  have hfailed : ∀ {p' : Process} (cause : Cause), m.guarded = true → p'.cause = some cause →
      Verdict argv p' cause.code := fun _ hguarded hcause =>
    have ⟨_, hoptions⟩ := h.requested hguarded
    .failed hoptions hcause
  cases hmove with
  | advance hadvance =>
    cases hadvance with
    | misconfigured hinvalid =>
      cases hcode
      exact .misconfigured (h.options _ (Or.inr rfl)) hinvalid (h.cause rfl)
    | retiredRaised =>
      cases hcode
      exact hfailed _ rfl (h.cause rfl)
    | unmasked => exact h.code code hcode
    | _ => cases hcode
  | misused hoptions =>
    cases hcode
    rw [h.entered _ rfl] at hoptions
    exact .misused hoptions
  | helped hoptions hhelp =>
    cases hcode
    rw [h.entered _ rfl] at hoptions
    exact .helped hoptions hhelp
  | unblocked =>
    cases hcode
    have hguard : ({ p with cause := some .guard }.exit 1).cause = some .guard := rfl
    exact .failed (h.options _ (Or.inl rfl)) hguard
  | uninspected => cases hcode; exact hfailed .restore rfl rfl
  | undrained => cases hcode; exact hfailed .restore rfl rfl
  | unrestored => cases hcode; exact hfailed .restore rfl rfl
  | restore =>
    cases hcode
    obtain ⟨options, hoptions, hvalid⟩ := h.constructed rfl
    have hserved := Verdict.served hoptions hvalid (h.cause rfl) (h.result _ rfl) (h.finished rfl)
    exact hserved.frame rfl rfl rfl
  | unmask => exact (h.code code hcode).frame rfl rfl rfl
  | leave => exact (h.code code hcode).frame rfl rfl rfl
  | _ => cases hcode

theorem main (h : Accounted argv p m) (hmove : MainMove p m p' m') : Accounted argv p' m' where
  entered := by
    rintro argv' rfl
    cases hmove with
    | advance hadvance => cases hadvance
  options := by
    intro options hstage
    cases hmove with
    | advance hadvance =>
      cases hadvance with
      | parsed hoptions hhelp =>
        obtain rfl : _ = options := by simpa using hstage
        rw [h.entered _ rfl] at hoptions
        exact ⟨hoptions, hhelp⟩
      | _ => simp at hstage
    | block =>
      obtain rfl : _ = options := by simpa using hstage
      exact h.options _ (Or.inl rfl)
    | _ => simp at hstage
  requested := h.requested_main hmove
  constructed := h.constructed_main hmove
  result _ := h.result_main hmove
  cause := h.cause_main hmove
  finished := h.finished_main hmove
  code _ := h.code_main hmove

theorem waiter (h : Accounted argv p m) (hguarded : Guarded p m w) (hmove : WaiterMove p w p' w') :
    Accounted argv p' m where
  entered := h.entered
  options := h.options
  requested := h.requested
  constructed := h.constructed
  result status hresult := by
    have hstatus : p'.status = p.status := by cases hmove <;> rfl
    exact hstatus.trans (h.result status hresult)
  cause hcode := by
    have hcause : p'.cause = p.cause := by cases hmove <;> rfl
    exact hcause.trans (h.cause hcode)
  finished hfinished := by
    -- The waiter is joined before `finish()` returns.
    have hattended := hguarded.attended_of_moves hmove
    have hunfinished : m.finished = false := by cases m <;> first | rfl | cases hattended
    cases hunfinished.symm.trans hfinished
  code code hcode := by
    have hattended := hguarded.attended_of_moves hmove
    have huncertain : m.code = none := by cases m <;> first | rfl | cases hattended
    cases huncertain.symm.trans hcode

theorem event (h : Accounted argv p m) (hmove : EventMove p p') : Accounted argv p' m := by
  have hframe : p'.status = p.status ∧ p'.error = p.error ∧ p'.cause = p.cause := by
    cases hmove with
    | signal =>
      unfold Process.send
      split <;> exact ⟨rfl, rfl, rfl⟩
    | _ => exact ⟨rfl, rfl, rfl⟩
  obtain ⟨hstatus, herror, hcause⟩ := hframe
  exact
    { h with
      result := fun status hresult => hstatus.trans (h.result status hresult)
      cause := fun hcode => hcause.trans (h.cause hcode)
      finished := fun hfinished => herror.trans (h.finished hfinished)
      code := fun code hcode => (h.code code hcode).frame hstatus herror hcause }

end Accounted

/-! ## Runs -/

/-- A thread that is neither `main` nor the waiter. -/
def Thread.outside : Thread → Bool
  | event _ | past => true
  | _ => false

/-- `main` and the waiter are at the given stages. -/
structure Stands (c : Config Process Thread) (m : MainStage) (w : WaiterStage) : Prop where
  main : c.threads[0]? = some (.main m)
  waiter : c.threads[1]? = some (.waiter w)
  outside : ∀ {i : Nat} {l : Thread}, c.threads[i + 2]? = some l → l.outside = true

section Runs

variable {argv : List Bytes} {mask pending : SignalSet} {c c' : Config Process Thread}
  {m : MainStage} {w : WaiterStage}

omit [Kernel] in
theorem Stands.spawn (h : Stands c m w) (event : Event) :
    Stands ⟨c.shared, c.threads ++ [.event event]⟩ m w where
  main := by rw [List.getElem?_append_left (List.getElem?_eq_some_iff.mp h.main).1, h.main]
  waiter := by rw [List.getElem?_append_left (List.getElem?_eq_some_iff.mp h.waiter).1, h.waiter]
  outside := by
    intro i l hl
    rcases getElem?_snoc hl with hl | ⟨-, rfl⟩
    · exact h.outside hl
    · rfl

/-- What a step of the daemon can be. -/
theorem threadStep_cases {p p' : Process} {l l' : Thread} {choice : Choice}
    (h : threadStep p l choice = some (p', l')) :
    p.outcome = none ∧
      ((∃ m m', l = .main m ∧ l' = .main m' ∧ MainMove p m p' m') ∨
        (∃ w w', l = .waiter w ∧ l' = .waiter w' ∧ WaiterMove p w p' w') ∨
        ∃ event, l = .event event ∧ l' = .past ∧ EventMove p p') := by
  unfold threadStep at h
  split at h
  · cases h
  · refine ⟨by simpa using ‹¬ p.outcome.isSome = true›, ?_⟩
    split at h
    · obtain ⟨⟨p₁, m'⟩, hstep, heq⟩ := Option.map_eq_some_iff.mp h
      cases heq
      exact Or.inl ⟨_, m', rfl, rfl, mainMove hstep⟩
    · obtain ⟨⟨p₁, w'⟩, hstep, heq⟩ := Option.map_eq_some_iff.mp h
      cases heq
      exact Or.inr (Or.inl ⟨_, w', rfl, rfl, waiterMove hstep⟩)
    · obtain ⟨p₁, hstep, heq⟩ := Option.map_eq_some_iff.mp h
      cases heq
      exact Or.inr (Or.inr ⟨_, rfl, rfl, eventMove hstep⟩)
    · cases h

omit [Kernel] in
/-- `main` and the waiter are known by their numbers. -/
theorem Stands.index (h : Stands c m w) {i : Nat} {l : Thread} (hl : c.threads[i]? = some l) :
    i = 0 ∧ l = .main m ∨ i = 1 ∧ l = .waiter w ∨ 2 ≤ i ∧ l.outside = true := by
  rcases i with _ | _ | i
  · exact Or.inl ⟨rfl, Option.some.inj (hl.symm.trans h.main)⟩
  · exact Or.inr (Or.inl ⟨rfl, Option.some.inj (hl.symm.trans h.waiter)⟩)
  · exact Or.inr (Or.inr ⟨by omega, h.outside hl⟩)

theorem Stands.moves (h : Stands c m w) {i : Nat} {l l' : Thread} {choice : Choice} {p' : Process}
    (hmoves : daemon.Moves c i l choice p' l') :
    c.shared.outcome = none ∧
      ((∃ m', MainMove c.shared m p' m' ∧ Stands ⟨p', c.threads.set i l'⟩ m' w) ∨
        (∃ w', WaiterMove c.shared w p' w' ∧ Stands ⟨p', c.threads.set i l'⟩ m w') ∨
        EventMove c.shared p' ∧ Stands ⟨p', c.threads.set i l'⟩ m w) := by
  obtain ⟨houtcome, hcases⟩ := threadStep_cases hmoves.step
  have hi := (List.getElem?_eq_some_iff.mp hmoves.thread).1
  refine ⟨houtcome, ?_⟩
  rcases h.index hmoves.thread with ⟨rfl, rfl⟩ | ⟨rfl, rfl⟩ | ⟨hle, houtside⟩
  · obtain ⟨_, m', heq, rfl, hmove⟩ | ⟨_, _, heq, -⟩ | ⟨_, heq, -⟩ := hcases
    · cases heq
      exact Or.inl ⟨m', hmove, by simp [hi], by simpa using h.waiter,
        fun hl => h.outside (by simpa using hl)⟩
    · cases heq
    · cases heq
  · obtain ⟨_, _, heq, -⟩ | ⟨_, w', heq, rfl, hmove⟩ | ⟨_, heq, -⟩ := hcases
    · cases heq
    · cases heq
      exact Or.inr (Or.inl ⟨w', hmove, by simpa using h.main, by simp [hi],
        fun hl => h.outside (by simpa using hl)⟩)
    · cases heq
  · obtain ⟨_, _, rfl, -⟩ | ⟨_, _, rfl, -⟩ | ⟨event, rfl, rfl, hmove⟩ := hcases
    · cases houtside
    · cases houtside
    · refine Or.inr (Or.inr ⟨hmove, ?_, ?_, ?_⟩)
      · rw [List.getElem?_set_ne (by omega)]
        exact h.main
      · rw [List.getElem?_set_ne (by omega)]
        exact h.waiter
      · intro j l hl
        rcases getElem?_set_some hl with ⟨-, rfl⟩ | ⟨-, hl⟩
        · rfl
        · exact h.outside hl

/-- The three assertions, at the stages where `main` and the waiter stand. -/
theorem Reachable.stands (h : Reachable argv mask pending c) :
    ∃ m w, Stands c m w ∧ Guarded c.shared m w ∧ Answered c.shared m w ∧
      Accounted argv c.shared m := by
  refine Program.Leads.induct (motive := fun c => ∃ m w, Stands c m w ∧ Guarded c.shared m w ∧
    Answered c.shared m w ∧ Accounted argv c.shared m) h ?_ ?_ ?_
  · refine ⟨_, _, ⟨rfl, rfl, ?_⟩, .initial argv mask pending, .initial argv mask pending,
      .initial argv mask pending⟩
    intro i l hl
    cases hl
  · rintro c₁ event - ⟨m, w, hstands, hrest⟩
    exact ⟨m, w, hstands.spawn event, hrest⟩
  · rintro c₁ i l choice p' l' - ⟨m, w, hstands, hguarded, hanswered, haccounted⟩ - hmoves
    obtain ⟨houtcome, ⟨m', hmove, hstands'⟩ | ⟨w', hmove, hstands'⟩ | ⟨hmove, hstands'⟩⟩ :=
      hstands.moves hmoves
    · exact ⟨m', w, hstands', hguarded.main houtcome hmove, hanswered.main hguarded hmove,
        haccounted.main hmove⟩
    · exact ⟨m, w', hstands', hguarded.waiter hmove, hanswered.waiter hguarded hmove,
        haccounted.waiter hguarded hmove⟩
    · exact ⟨m, w, hstands', hguarded.event houtcome hmove, hanswered.event hmove,
        haccounted.event hmove⟩

omit [Kernel] in
def sampleArgv : List Bytes :=
  [ascii "photospiderd", ascii "--socket", ascii "/tmp/socket", ascii "--max-concurrency",
    ascii "1"]

omit [Kernel] in
/-- The server runs with one handler, and the waiter waits, when `SIGTERM` comes. The handler and
the worker are going to end. -/
def sampleSignal : List (Act Choice Event) :=
  [.move 0 .go, .move 0 .go, .move 0 .go, .move 0 .go, .move 1 .go, .spawn .connect, .move 2 .go,
    .move 0 .accept, .spawn (.signal .terminate), .move 3 .go, .spawn .handlerEnds,
    .spawn .workerEnds]

omit [Kernel] in
/-- From there to the end of the process. -/
def sampleEnd : List (Act Choice Event) :=
  [.move 1 (.take .terminate false), .move 1 .go, .move 0 .go, .move 4 .go, .move 0 .go,
    .move 0 .go, .move 0 (.wake .sent), .move 1 .go, .move 0 .go, .move 0 .go, .move 0 .go,
    .move 0 .go, .move 5 .go, .move 0 .go, .move 0 .go, .move 0 .go, .move 0 .go]

theorem reachable_of_run {acts : List (Act Choice Event)}
    (hrun : daemon.run (start argv mask pending) acts = some c) :
    Reachable argv mask pending c := by
  refine ⟨acts, fun act _ => ?_, hrun⟩
  cases act <;> trivial

/-- While the guard exists no signal ends the process. A stop signal that has come before `run()`
returns is pending for a waiter that lives, or is in the hands of the waiter, or the server is
stopping. And `restore()` lifts the mask only over signals that came after it had looked. -/
theorem signals_answered (h : Reachable argv mask pending c) :
    ∃ m w, Stands c m w ∧ (m.guarded = true → c.shared.outcome = none) ∧
      (m = .running → c.shared.asked = true →
        c.shared.stopping = true ∨ w = .requesting ∨
          (c.shared.pending .interrupt = true ∨ c.shared.pending .terminate = true) ∧
            (w = .unstarted ∨ w = .waiting ∨ w = .woken)) ∧
      (m.restores = true → ∀ signal, c.shared.pending signal = true →
        c.shared.fresh signal = true) := by
  obtain ⟨m, w, hstands, hguarded, hanswered, -⟩ := h.stands
  refine ⟨m, w, hstands, hguarded.outcome, ?_, hanswered.fresh⟩
  rintro rfl hasked
  by_cases hstopping : c.shared.stopping = true
  · exact Or.inl hstopping
  have hquit : ¬ (w = .exiting ∨ w = .ended) := by
    intro hquit
    rcases hanswered.quit hquit with hstops | hcomplete
    · exact hstopping hstops
    · cases (hanswered.incomplete rfl).symm.trans hcomplete
  rcases hanswered.asked rfl hasked with hpending | hpending | hrequesting | hstops
  · exact Or.inr (by cases w <;> simp_all)
  · exact Or.inr (by cases w <;> simp_all)
  · exact Or.inr (Or.inl hrequesting)
  · exact absurd hstops hstopping

omit [Kernel] in
/-- A `SIGTERM` has come while the server runs, and the waiter has not yet taken it. -/
theorem signals_answered_terminate :
    ∃ c, @Reachable sampleKernel sampleArgv .none .none c ∧ c.shared.pending .terminate = true ∧
      ∃ m w, Stands c m w ∧ (m.guarded = true → c.shared.outcome = none) := by
  let _ : Kernel := sampleKernel
  have htest : (daemon.run (start sampleArgv .none .none) sampleSignal).any
      (fun c => c.shared.pending .terminate) = true := by decide +kernel
  obtain ⟨c, hrun, hpending⟩ := (Option.any_eq_true _ _).mp htest
  have hreachable : Reachable sampleArgv .none .none c := reachable_of_run hrun
  obtain ⟨m, w, hstands, houtcome, -⟩ := signals_answered hreachable
  exact ⟨c, hreachable, hpending, m, w, hstands, houtcome⟩

/-- When `main` has returned, the command line, what `run()` has returned and what has been thrown
determine its code, and all of its threads have ended. -/
theorem main_returns (h : Reachable argv mask pending c) {code : Nat}
    (hexit : c.shared.outcome = some (.exit code)) :
    (∀ code', Verdict argv c.shared code' ↔ code' = code) ∧
      c.shared.handlers = 0 ∧ c.shared.workers = 0 ∧ c.shared.waiterMask = none ∧
      ∃ w, Stands c (.exited code) w ∧ (w = .unstarted ∨ w = .ended) := by
  obtain ⟨m, w, hstands, hguarded, -, haccounted⟩ := h.stands
  obtain rfl := (hguarded.exits code).mp hexit
  have hverdict := haccounted.code code rfl
  refine ⟨fun code' => ⟨fun hother => hother.unique hverdict, fun heq => heq ▸ hverdict⟩,
    hguarded.handlers rfl, hguarded.workers rfl, hguarded.waiterMask, w, hstands,
    hguarded.settled rfl⟩

omit [Kernel] in
/-- The `SIGTERM` ends the daemon with code zero. -/
theorem main_returns_terminated :
    ∃ c, @Reachable sampleKernel sampleArgv .none .none c ∧
      c.shared.outcome = some (.exit 0) ∧ @Verdict sampleKernel sampleArgv c.shared 0 ∧
      c.shared.handlers = 0 ∧ c.shared.workers = 0 := by
  let _ : Kernel := sampleKernel
  have htest : (daemon.run (start sampleArgv .none .none) (sampleSignal ++ sampleEnd)).any
      (fun c => c.shared.outcome = some (.exit 0)) = true := by decide +kernel
  obtain ⟨c, hrun, hexit⟩ := (Option.any_eq_true _ _).mp htest
  have hreachable : Reachable sampleArgv .none .none c := reachable_of_run hrun
  obtain ⟨hverdict, hhandlers, hworkers, -⟩ := main_returns hreachable (of_decide_eq_true hexit)
  exact ⟨c, hreachable, of_decide_eq_true hexit, (hverdict 0).mpr rfl, hhandlers, hworkers⟩

end Runs

/-! ## Coming to an end -/

/-- How many more steps `main` makes at most, apart from those that take a signal or a
connection. -/
def MainStage.rank : MainStage → Nat
  | entered _ => 20
  | blocking _ => 19
  | constructing _ => 18
  | starting => 17
  | running => 16
  | closing _ => 15
  | completing _ => 14
  | waking _ => 13
  | joining _ => 10
  | reporting _ => 9
  | destroying _ => 8
  | emptying _ => 7
  | retiring _ => 6
  | inspecting _ => 5
  | draining _ => 4
  | unblocking _ => 3
  | unmasking _ => 2
  | leaving _ => 1
  | exited _ => 0

def WaiterStage.rank : WaiterStage → Nat
  | unstarted => 5
  | woken => 4
  | waiting => 3
  | requesting => 2
  | exiting => 1
  | ended => 0

def Thread.rank : Thread → Nat
  | main stage => stage.rank
  | waiter stage => stage.rank
  | event _ => 3
  | past => 0

/-- The signals and the connections that can be taken. A waiter that takes a signal may wait for
the next one, hence the factor. -/
def Process.load (p : Process) : Nat := 2 * (p.pending.size + p.directed.toNat) + p.backlog

def work (c : Config Process Thread) : Nat := (c.threads.map Thread.rank).sum + c.shared.load

section Work

variable {p p' : Process} {m m' : MainStage} {w w' : WaiterStage}

theorem MainMove.rank (h : MainMove p m p' m') : m'.rank + p'.load < m.rank + p.load := by
  cases h with
  | advance hadvance => cases hadvance <;> simp [MainStage.rank]
  | wake =>
    have hle := Bool.toNat_le (p.directed || !p.exited)
    simp only [MainStage.rank, Process.load]
    omega
  | drain hpending =>
    have hsize := SignalSet.size_remove hpending
    simp only [MainStage.rank, Process.load]
    omega
  | accept hbacklog =>
    simp only [Process.load]
    omega
  | reject hbacklog =>
    simp only [Process.load]
    omega
  | _ => simp [MainStage.rank, Process.load, Process.exit, Process.unblock]

omit [Kernel] in
theorem WaiterMove.rank (h : WaiterMove p w p' w') :
    w'.rank + p'.load < w.rank + p.load := by
  cases h with
  | takeDirected hdirected =>
    simp only [WaiterStage.rank, Process.load, hdirected, Bool.toNat_true, Bool.toNat_false]
    omega
  | takeStop hpending =>
    have hsize := SignalSet.size_remove hpending
    simp only [WaiterStage.rank, Process.load]
    omega
  | takeWake hpending =>
    have hsize := SignalSet.size_remove hpending
    simp only [WaiterStage.rank, Process.load]
    omega
  | exit =>
    simp only [WaiterStage.rank, Process.load, Bool.toNat_false]
    omega
  | _ => simp [WaiterStage.rank, Process.load]

omit [Kernel] in
theorem EventMove.load (h : EventMove p p') : p'.load ≤ p.load + 2 := by
  cases h with
  | signal =>
    unfold Process.send
    split
    · exact Nat.le_add_right _ _
    · rename_i signal _
      have hsize := SignalSet.size_add_le p.pending signal
      simp only [Process.load]
      omega
  | connect =>
    simp only [Process.load]
    omega
  | _ => exact Nat.le_add_right _ _

theorem work_step {c : Config Process Thread} {i : Nat} {l l' : Thread} {choice : Choice}
    (hmoves : daemon.Moves c i l choice p' l') : work ⟨p', c.threads.set i l'⟩ < work c := by
  have hsum := sum_set_add Thread.rank l' hmoves.thread
  have hrank : l'.rank + p'.load < l.rank + c.shared.load := by
    obtain ⟨-, ⟨m, m', rfl, rfl, hmove⟩ | ⟨w, w', rfl, rfl, hmove⟩ | ⟨event, rfl, rfl, hmove⟩⟩ :=
      threadStep_cases hmoves.step
    · exact hmove.rank
    · exact hmove.rank
    · have hload := hmove.load
      simp only [Thread.rank]
      omega
  simp only [work]
  omega

end Work

/-- Nobody can make a step. -/
def Stuck (c : Config Process Thread) : Prop :=
  ∀ i choice, daemon.next c (.move i choice) = none

/-- The server runs, nobody has asked it to stop, and no connection waits for it. -/
structure Serving (c : Config Process Thread) : Prop where
  stands : Stands c .running .waiting
  stopping : c.shared.stopping = false
  asked : c.shared.asked = false
  pending : ∀ signal, c.shared.pending signal = false
  backlog : c.shared.backlog = 0

/-- `run()` or the destructor of the server waits for a handler, or the destructor of the registry
for a worker, and none of them is about to end. -/
inductive Joining (c : Config Process Thread) : Prop where
  | handlers {leaving : Leaving} {w : WaiterStage}
    (hstands : Stands c (.closing leaving) w ∨ Stands c (.emptying leaving) w)
    (hstopping : c.shared.stopping = true) (hhandlers : c.shared.handlers ≠ 0)
    (hquiet : .event .handlerEnds ∉ c.threads)
  | workers {leaving : Leaving} {w : WaiterStage} (hstands : Stands c (.retiring leaving) w)
    (hretiring : c.shared.retiring = true) (hworkers : c.shared.workers ≠ 0)
    (hquiet : .event .workerEnds ∉ c.threads)

/-- `finish()` waits for a waiter that `pthread_kill` has failed to wake. -/
structure Hanging (c : Config Process Thread) : Prop where
  stands : ∃ leaving, Stands c (.joining leaving) .waiting
  unwoken : c.shared.unwoken = true

section Stuck

variable {c : Config Process Thread} {m : MainStage} {w : WaiterStage}

theorem Stuck.main (h : Stuck c) (hstands : Stands c m w) (houtcome : c.shared.outcome = none)
    (choice : Choice) : mainStep c.shared m choice = none := by
  have hnone := h 0 choice
  simpa [Program.next, hstands.main, daemon, threadStep, houtcome] using hnone

theorem Stuck.waiter (h : Stuck c) (hstands : Stands c m w) (houtcome : c.shared.outcome = none)
    (choice : Choice) : waiterStep c.shared w choice = none := by
  have hnone := h 1 choice
  simpa [Program.next, hstands.waiter, daemon, threadStep, houtcome] using hnone

theorem Stuck.event (h : Stuck c) (houtcome : c.shared.outcome = none) {event : Event}
    (hmem : .event event ∈ c.threads) : eventStep c.shared event = none := by
  obtain ⟨i, hi⟩ := List.getElem?_of_mem hmem
  have hnone := h i .go
  simpa [Program.next, hi, daemon, threadStep, houtcome] using hnone

/-- A waiter that cannot move has exited, or waits for a signal that does not come. -/
theorem Stuck.waiting (h : Stuck c) (hstands : Stands c m w) (hguarded : Guarded c.shared m w)
    (houtcome : c.shared.outcome = none) (hattended : m.attended = true) (hw : w ≠ .ended) :
    w = .waiting ∧ (∀ signal, c.shared.pending signal = false) ∧ c.shared.directed = false := by
  have hnone := h.waiter hstands houtcome
  cases w with
  | unstarted =>
    have hstarted : c.shared.waiterMask.isSome = true := by
      rw [hguarded.waiterMask, if_pos ⟨hattended, hw⟩]
      rfl
    have hgo := hnone .go
    simp [waiterStep, hstarted] at hgo
  | waiting =>
    refine ⟨rfl, fun signal => ?_, ?_⟩
    · have htake := hnone (.take signal false)
      simpa [waiterStep] using htake
    · have htake := hnone (.take .wake true)
      simpa [waiterStep] using htake
  | woken => cases hnone .go
  | requesting => cases hnone .go
  | exiting => cases hnone .go
  | ended => exact absurd rfl hw

theorem Stuck.serving (h : Stuck c) (hstands : Stands c .running w)
    (hguarded : Guarded c.shared .running w) (hanswered : Answered c.shared .running w) :
    Serving c := by
  have houtcome := hguarded.outcome rfl
  have hstopping : c.shared.stopping = false := by
    have hgo := h.main hstands houtcome .go
    simpa [mainStep] using hgo
  have hw : w ≠ .ended := by
    rintro rfl
    rcases hanswered.quit (Or.inr rfl) with hstops | hcomplete
    · cases hstopping.symm.trans hstops
    · cases (hanswered.incomplete rfl).symm.trans hcomplete
  obtain ⟨rfl, hpending, -⟩ := h.waiting hstands hguarded houtcome rfl hw
  refine ⟨hstands, hstopping, ?_, hpending, ?_⟩
  · rw [Bool.eq_false_iff]
    intro hasked
    have hkept := hanswered.asked rfl hasked
    simp [hpending, hstopping] at hkept
  · have haccept := h.main hstands houtcome .accept
    simpa [mainStep] using haccept

theorem Stuck.hanging (h : Stuck c) {leaving : Leaving} (hstands : Stands c (.joining leaving) w)
    (hguarded : Guarded c.shared (.joining leaving) w)
    (hanswered : Answered c.shared (.joining leaving) w) : Hanging c := by
  have houtcome := hguarded.outcome rfl
  have hexited : c.shared.exited = false := by
    rw [Bool.eq_false_iff]
    intro hexited
    have hgo := h.main hstands houtcome .go
    cases leaving <;> simp [mainStep, hexited] at hgo
  have hw : w ≠ .ended := fun hw => nomatch hexited.symm.trans (hguarded.exited.mpr hw)
  obtain ⟨rfl, -, hdirected⟩ := h.waiting hstands hguarded houtcome rfl hw
  refine ⟨⟨leaving, hstands⟩, ?_⟩
  exact (hanswered.roused rfl (Or.inr rfl)).resolve_left (by simp [hdirected])

/-- A stage in which the handlers are joined. -/
theorem Stuck.handlers (h : Stuck c) {leaving : Leaving}
    (hstands : Stands c (.closing leaving) w ∨ Stands c (.emptying leaving) w)
    (houtcome : c.shared.outcome = none) (hstopping : c.shared.stopping = true) : Joining c := by
  have hhandlers : c.shared.handlers ≠ 0 := by
    intro hnone
    rcases hstands with hstands | hstands
    · have hgo := h.main hstands houtcome .go
      cases leaving <;> simp [mainStep, hnone] at hgo
    · have hgo := h.main hstands houtcome .go
      simp [mainStep, hnone] at hgo
  refine .handlers hstands hstopping hhandlers fun hmem => ?_
  have hends := h.event houtcome hmem
  simp [eventStep, hhandlers] at hends

theorem Stuck.workers (h : Stuck c) {leaving : Leaving} (hstands : Stands c (.retiring leaving) w)
    (houtcome : c.shared.outcome = none) (hretiring : c.shared.retiring = true) : Joining c := by
  have hworkers : c.shared.workers ≠ 0 := by
    intro hnone
    have hgo := h.main hstands houtcome .go
    cases leaving <;> simp [mainStep, hnone] at hgo
  refine .workers hstands hretiring hworkers fun hmem => ?_
  have hends := h.event houtcome hmem
  simp [eventStep, hworkers, hretiring] at hends

theorem Stuck.cases (h : Stuck c) (hstands : Stands c m w) (hguarded : Guarded c.shared m w)
    (hanswered : Answered c.shared m w) :
    c.shared.outcome ≠ none ∨ Serving c ∨ Joining c ∨ Hanging c := by
  by_cases houtcome : c.shared.outcome = none
  · have hnone := h.main hstands houtcome
    cases m with
    | entered argv =>
      have hgo := hnone .go
      simp only [mainStep] at hgo
      split at hgo
      · cases hgo
      · split at hgo <;> cases hgo
    | blocking => cases hnone .go
    | constructing =>
      have hgo := hnone .go
      simp only [mainStep] at hgo
      split at hgo <;> cases hgo
    | starting => cases hnone .go
    | running => exact Or.inr (Or.inl (h.serving hstands hguarded hanswered))
    | closing =>
      exact Or.inr (Or.inr (Or.inl (h.handlers (Or.inl hstands) houtcome (hanswered.stops rfl))))
    | completing => cases hnone .go
    | waking => cases hnone (.wake .sent)
    | joining => exact Or.inr (Or.inr (Or.inr (h.hanging hstands hguarded hanswered)))
    | reporting =>
      have hgo := hnone .go
      simp only [mainStep] at hgo
      split at hgo <;> cases hgo
    | destroying => cases hnone .go
    | emptying =>
      exact Or.inr (Or.inr (Or.inl (h.handlers (Or.inr hstands) houtcome (hanswered.stops rfl))))
    | retiring =>
      exact Or.inr (Or.inr (Or.inl (h.workers hstands houtcome (hanswered.retires rfl))))
    | inspecting => cases hnone .go
    | draining =>
      -- `sigwait` does not wait: nobody else has taken what `sigpending` has found.
      obtain ⟨signal, hsignal⟩ := (SignalSet.isSome_first_iff _).mp (hanswered.pending rfl)
      have htake := hnone (.take signal false)
      simp [mainStep, hsignal] at htake
    | unblocking => cases hnone .go
    | unmasking => cases hnone .go
    | leaving => cases hnone .go
    | exited code => exact absurd ((hguarded.exits code).mpr rfl) (by simp [houtcome])
  · exact Or.inl houtcome

/-- Whatever has come from outside, the daemon makes a bounded number of steps. Where it comes to a
stop the process has ended, or the server runs and nobody has asked it to stop. Or `main` joins a
thread that does not end: a handler or a worker, or, if `pthread_kill` has failed, a waiter that
nobody wakes. -/
theorem daemon_ends {argv : List Bytes} {mask pending : SignalSet} {c' : Config Process Thread}
    (h : Reachable argv mask pending c) {acts : List (Act Choice Event)}
    (hacts : ∀ act ∈ acts, ∃ i choice, act = .move i choice) (hrun : daemon.run c acts = some c') :
    acts.length ≤ work c ∧
      (Stuck c' → c'.shared.outcome ≠ none ∨ Serving c' ∨ Joining c' ∨ Hanging c') := by
  have hbound := Program.length_le_work work hacts hrun work_step
  refine ⟨by omega, fun hstuck => ?_⟩
  have hleads : daemon.Leads (fun _ => True) c c' := by
    refine ⟨acts, fun act hact => ?_, hrun⟩
    obtain ⟨i, choice, rfl⟩ := hacts act hact
    trivial
  obtain ⟨m, w, hstands, hguarded, hanswered, -⟩ := Reachable.stands (Program.Leads.trans h hleads)
  exact hstuck.cases hstands hguarded hanswered

omit [Kernel] in
/-- From the `SIGTERM` to the end of the process. -/
theorem daemon_ends_terminated :
    ∃ c c', @Reachable sampleKernel sampleArgv .none .none c ∧
      (@daemon sampleKernel).run c sampleEnd = some c' ∧
      c'.shared.outcome = some (.exit 0) ∧ sampleEnd.length ≤ work c := by
  let _ : Kernel := sampleKernel
  have htest : ((daemon.run (start sampleArgv .none .none) sampleSignal).bind fun c =>
      daemon.run c sampleEnd).any (fun c => c.shared.outcome = some (.exit 0)) = true := by
    decide +kernel
  obtain ⟨c', hc', hexit⟩ := (Option.any_eq_true _ _).mp htest
  obtain ⟨c, hc, hrun⟩ := Option.bind_eq_some_iff.mp hc'
  have hreachable : Reachable sampleArgv .none .none c := reachable_of_run hc
  have hmoves : ∀ act ∈ sampleEnd, ∃ i choice, act = .move i choice := by simp [sampleEnd]
  exact ⟨c, c', hreachable, hrun, of_decide_eq_true hexit,
    (daemon_ends hreachable hmoves hrun).1⟩

end Stuck

end PhotospiderDaemon.Apps
