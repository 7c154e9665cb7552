import PhotospiderDaemon.Foundation.ConditionVariables
import PhotospiderDaemon.Server.Interruption
import PhotospiderDaemon.Server.Settlement
import Mathlib.Data.Prod.Lex
import Mathlib.Order.WellFounded

/-!
# A server that is stopped comes to rest

Once `stopping` is set, every thread of the server has only finitely many steps left: the accept
loop leaves after at most one more connection, and every handler after at most one more turn. The
walk of `stop()` is as long as `active_connections` is when the lock is taken, so the measure is
lexicographic.

And nobody waits for ever, but inside of a turn or of a write: `connections_mutex` has an owner that
goes on, and the joins wait for handlers that end as soon as their turn is over. A turn may wait for
the peer, and its `dispatch` for a job.

* `remaining_step`: every step decreases the measure.
* `Quiet`: what can still move is a thread inside of a turn or of a write.
* `stop_comes_to_rest`: the result.
-/

namespace PhotospiderDaemon.Server.Connections

open Foundation Ipc Orchestration

/-! ## The measure -/

/-- How far the first `stop()` is from its walk. -/
def StopStage.ahead : StopStage → Nat
  | claimed => 3
  | closing _ => 2
  | locking => 1
  | _ => 0

def StopStage.rank : StopStage → Nat
  | entered => 1
  | walking rest => rest.length + 1
  | _ => 0

def HandlerStage.rank : HandlerStage → Nat
  | registering => 13
  | entered _ => 12
  | serving => 11
  | testing => 9
  | recovering _ _ => 9
  | leaving => 8
  | stopping stage => 6 + stage.rank
  | unregistering => 5
  | refusing _ => 5
  | returning => 4
  | completing => 3
  | settling => 2
  | exiting => 1
  | ended => 0

def RunStage.rank : RunStage → Nat
  | reaping _ _ => 12
  | counting _ => 11
  | admitting _ => 10
  | launching _ => 9
  | loading => 9
  | accepting => 8
  | preparing _ => 7
  | accepted _ => 6
  | rejecting _ => 6
  | entering => 6
  | testing => 5
  | unwinding _ _ _ => 5
  | failing stage => 5 + stage.rank
  | stopping stage _ => 3 + stage.rank
  | joining owned _ => 1 + owned.length
  | thrown => 0
  | ended => 0

def Thread.rank : Thread → Nat
  | run stage => stage.rank
  | destroy stage => stage.rank
  | launched _ => 14
  | handler thread => thread.stage.rank
  | stop stage => stage.rank
  | elsewhere => 0

/-- The records that a pass of `reap_finished_handlers` has still to look at. -/
def RunStage.unvisited (records : Nat) : RunStage → Nat
  | reaping _ index => records - index
  | _ => 0

def Thread.unvisited (records : Nat) : Thread → Nat
  | run stage => stage.unvisited records
  | destroy stage => stage.unvisited records
  | _ => 0

/-- What is left to do. -/
def remaining (c : Config Impl Thread) : ℕ ×ₗ ℕ ×ₗ ℕ :=
  toLex ((c.threads.map fun l => l.grip.stop.ahead).sum,
    toLex ((c.threads.map Thread.rank).sum + 3 * c.shared.handlers.length,
      (c.threads.map (Thread.unvisited c.shared.handlers.length)).sum))

/-- What a step does to the measure of its own thread. -/
inductive Descends (s : Impl) (l : Thread) (s' : Impl) (l' : Thread) : Prop where
  | ahead (h : l'.grip.stop.ahead < l.grip.stop.ahead)
  | rank (hahead : l'.grip.stop.ahead ≤ l.grip.stop.ahead)
    (h : l'.rank + 3 * s'.handlers.length < l.rank + 3 * s.handlers.length)
  | visit (hahead : l'.grip.stop.ahead ≤ l.grip.stop.ahead) (hrank : l'.rank ≤ l.rank)
    (hs : s' = s) (h : l'.unvisited s.handlers.length < l.unvisited s.handlers.length)

section Descent

variable {i : Nat} {s s' : Impl}

theorem stopMove_descends {stage stage' : StopStage} (h : StopMove i s stage s' stage')
    (hstopping : s.stopping = true) :
    s'.handlers = s.handlers ∧ (stage'.ahead < stage.ahead ∨
      stage'.ahead ≤ stage.ahead ∧ stage'.rank < stage.rank) := by
  cases h with
  | late => exact ⟨rfl, Or.inr ⟨Nat.le_refl _, Nat.lt_succ_self _⟩⟩
  | claim hflag => cases hstopping.symm.trans hflag
  | take => exact ⟨rfl, Or.inl (by simp [StopStage.ahead])⟩
  | bare => exact ⟨rfl, Or.inl (by simp [StopStage.ahead])⟩
  | close => exact ⟨rfl, Or.inl (by simp [StopStage.ahead])⟩
  | lock => exact ⟨rfl, Or.inl (by simp [StopStage.ahead])⟩
  | visit => exact ⟨rfl, Or.inr ⟨Nat.le_refl _, by simp [StopStage.rank]⟩⟩
  | unlock => exact ⟨rfl, Or.inr ⟨Nat.le_refl _, by simp [StopStage.rank]⟩⟩

variable [Kernel]

theorem handlerMove_descends {connection : UniqueDescriptor} {handler handler' : Handler}
    {stage stage' : HandlerStage} (h : HandlerMove i s connection handler stage s' handler' stage')
    (hstopping : s.stopping = true) :
    s'.handlers = s.handlers ∧ (stage'.stop.ahead < stage.stop.ahead ∨
      stage'.stop.ahead ≤ stage.stop.ahead ∧ stage'.rank < stage.rank) := by
  cases h with
  | advance hadvance =>
    cases hadvance with
    | serves hflag => cases hstopping.symm.trans hflag
    | _ => exact ⟨rfl, Or.inr ⟨Nat.le_refl _, by simp [HandlerStage.rank, StopStage.rank]⟩⟩
  | stop hmove =>
    obtain ⟨hhandlers, hahead | ⟨hahead, hrank⟩⟩ := stopMove_descends hmove hstopping
    · exact ⟨hhandlers, Or.inl hahead⟩
    · exact ⟨hhandlers, Or.inr ⟨hahead, by simpa [HandlerStage.rank] using hrank⟩⟩
  | _ => exact ⟨rfl, Or.inr ⟨Nat.le_refl _, by simp [HandlerStage.rank]⟩⟩

omit [Kernel] in
theorem runMove_descends {stage stage' : RunStage} (h : RunMove i s stage s' stage')
    (hstopping : s.stopping = true) :
    stage'.stop.ahead < stage.stop.ahead ∨
      stage'.stop.ahead ≤ stage.stop.ahead ∧
        (stage'.rank + 3 * s'.handlers.length < stage.rank + 3 * s.handlers.length ∨
          stage'.rank ≤ stage.rank ∧ s' = s ∧
            stage'.unvisited s.handlers.length < stage.unvisited s.handlers.length) := by
  cases h with
  | advance hadvance =>
    cases hadvance with
    | loads hflag => cases hstopping.symm.trans hflag
    | reaps hflag => cases hstopping.symm.trans hflag
    | rejected hflag => cases hstopping.symm.trans hflag
    | fatal hflag => cases hstopping.symm.trans hflag
    | passes hrecord _ =>
      have hindex := (List.getElem?_eq_some_iff.mp hrecord).1
      refine Or.inr ⟨Nat.le_refl _, Or.inr ⟨Nat.le_refl _, rfl, ?_⟩⟩
      simp only [RunStage.unvisited]
      omega
    | _ =>
      refine Or.inr ⟨by simp [RunStage.stop, StopStage.ahead], Or.inl ?_⟩
      simp [RunStage.rank, StopStage.rank]
  | begin _ hflag => cases hstopping.symm.trans hflag
  | failing hmove =>
    obtain ⟨hhandlers, hahead | ⟨hahead, hrank⟩⟩ := stopMove_descends hmove hstopping
    · exact Or.inl hahead
    · refine Or.inr ⟨hahead, Or.inl ?_⟩
      simp only [RunStage.rank, hhandlers]
      omega
  | stop hmove =>
    obtain ⟨hhandlers, hahead | ⟨hahead, hrank⟩⟩ := stopMove_descends hmove hstopping
    · exact Or.inl hahead
    · refine Or.inr ⟨hahead, Or.inl ?_⟩
      simp only [RunStage.rank, hhandlers]
      omega
  | reap hrecord =>
    have hindex := (List.getElem?_eq_some_iff.mp hrecord).1
    refine Or.inr ⟨Nat.le_refl _, Or.inl ?_⟩
    simp only [RunStage.rank, List.length_eraseIdx, if_pos hindex]
    omega
  | launch =>
    refine Or.inr ⟨Nat.le_refl _, Or.inl ?_⟩
    simp only [RunStage.rank, Impl.launch, List.length_append, List.length_singleton]
    omega
  | swap =>
    refine Or.inr ⟨Nat.le_refl _, Or.inl ?_⟩
    simp only [RunStage.rank, StopStage.rank, List.length_nil]
    omega
  | leave =>
    refine Or.inr ⟨Nat.le_refl _, Or.inl ?_⟩
    rename_i held
    cases held <;> exact Nat.add_lt_add_right (by simp [RunStage.rank]) (3 * s.handlers.length)
  | _ =>
    refine Or.inr ⟨Nat.le_refl _, Or.inl ?_⟩
    exact Nat.add_lt_add_right (by simp [RunStage.rank, StopStage.rank]) (3 * s.handlers.length)

theorem descends_of_moves {c : Config Impl Thread} {l l' : Thread} {choice : Choice}
    (hmoves : server.Moves c i l choice s' l') (hstopping : c.shared.stopping = true)
    (hown : l ≠ .elsewhere) : Descends c.shared l s' l' := by
  cases threadMove hmoves with
  | run hmove =>
    rcases runMove_descends hmove hstopping with hahead | ⟨hahead, hrank | ⟨hrank, hs, hvisit⟩⟩
    · exact .ahead hahead
    · exact .rank hahead hrank
    · exact .visit hahead hrank hs hvisit
  | destroy => exact .rank (Nat.le_refl _) (Nat.add_lt_add_right (by decide) _)
  | destroying _ hmove =>
    rcases runMove_descends hmove hstopping with hahead | ⟨hahead, hrank | ⟨hrank, hs, hvisit⟩⟩
    · exact .ahead hahead
    · exact .rank hahead hrank
    · exact .visit hahead hrank hs hvisit
  | begin => exact .rank (Nat.le_refl _) (Nat.add_lt_add_right (Nat.lt_succ_self 13) _)
  | handler hmove =>
    obtain ⟨hhandlers, hahead | ⟨hahead, hrank⟩⟩ := handlerMove_descends hmove hstopping
    · exact .ahead hahead
    · exact .rank hahead (by rw [hhandlers]; exact Nat.add_lt_add_right hrank _)
  | stop hmove =>
    obtain ⟨hhandlers, hahead | ⟨hahead, hrank⟩⟩ := stopMove_descends hmove hstopping
    · exact .ahead hahead
    · exact .rank hahead (by rw [hhandlers]; exact Nat.add_lt_add_right hrank _)
  | openFile => exact absurd rfl hown
  | closeFile => exact absurd rfl hown

/-- Every step of a server that is stopping leaves less to do. -/
theorem remaining_step {c : Config Impl Thread} {l l' : Thread} {choice : Choice}
    (hmoves : server.Moves c i l choice s' l') (hstopping : c.shared.stopping = true)
    (hown : l ≠ .elsewhere) : remaining ⟨s', c.threads.set i l'⟩ < remaining c := by
  have hahead := sum_set_add (fun l : Thread => l.grip.stop.ahead) l' hmoves.thread
  have hrank := sum_set_add Thread.rank l' hmoves.thread
  simp only [remaining, Prod.Lex.toLex_lt_toLex]
  cases descends_of_moves hmoves hstopping hown with
  | ahead h => omega
  | rank hle h => omega
  | visit hle hle' hs h =>
    subst hs
    have hvisit := sum_set_add (Thread.unvisited c.shared.handlers.length) l' hmoves.thread
    omega

end Descent

/-! ## Waiting -/

def StopStage.Walks (stage : StopStage) : Prop := ∃ rest, stage = .walking rest

/-- The handler is inside of a turn of its loop, where it reads a frame, dispatches the request and
writes the response, or it writes a refusal or a failure. -/
def HandlerStage.engaged : HandlerStage → Bool
  | refusing _ | serving | recovering _ _ => true
  | _ => false

/-- The thread is a handler inside of a turn or of a write, or `run()` writes a refusal. -/
def Thread.engaged : Thread → Bool
  | run (.rejecting _) => true
  | handler thread => thread.stage.engaged
  | _ => false

/-- A started thread exists, and nobody can make a step but those inside of a turn or of a write and
other parts of the process. A pending `accept()` can: the `shutdown` of the listener ends it. -/
structure Quiet [Kernel] (c : Config Impl Thread) : Prop where
  started : ∀ {id : Nat} {accepted : Accepted}, c.shared.connections[id]? = some accepted →
    accepted.owner = .closure → .launched id ∈ c.threads
  stuck : ∀ {i : Nat} {l : Thread}, c.threads[i]? = some l → l.engaged = false → l ≠ .elsewhere →
    ∀ choice, threadStep i c.shared l choice = none

section Mutex

variable {i : Nat} {s s' : Impl}

theorem stopMove_mutex {stage stage' : StopStage} (h : StopMove i s stage s' stage')
    (hmutex : s'.connectionsMutex ≠ none) :
    stage'.Walks ∨ s.connectionsMutex ≠ none ∧ ¬ stage.Walks := by
  cases h with
  | lock => exact Or.inl ⟨_, rfl⟩
  | visit => exact Or.inl ⟨_, rfl⟩
  | unlock => exact absurd rfl hmutex
  | _ => exact Or.inr ⟨hmutex, by rintro ⟨rest, ⟨⟩⟩⟩

variable [Kernel] {c : Config Impl Thread} {listener : Nat} {maximum : UInt32}

omit [Kernel] in
theorem runMove_mutex {stage stage' : RunStage} (h : RunMove i s stage s' stage')
    (hmutex : s'.connectionsMutex ≠ none) :
    stage'.stop.Walks ∨ s.connectionsMutex ≠ none ∧ ¬ stage.stop.Walks := by
  cases h with
  | failing hmove => exact stopMove_mutex hmove hmutex
  | stop hmove => exact stopMove_mutex hmove hmutex
  | advance hadvance =>
    refine Or.inr ⟨hmutex, ?_⟩
    cases hadvance <;> rintro ⟨rest, ⟨⟩⟩
  | leave =>
    rename_i held
    exact Or.inr ⟨by cases held <;> exact hmutex, by rintro ⟨rest, ⟨⟩⟩⟩
  | _ => exact Or.inr ⟨hmutex, by rintro ⟨rest, ⟨⟩⟩⟩

theorem handlerMove_mutex {connection : UniqueDescriptor} {handler handler' : Handler}
    {stage stage' : HandlerStage} (h : HandlerMove i s connection handler stage s' handler' stage')
    (hmutex : s'.connectionsMutex ≠ none) :
    stage'.stop.Walks ∨ s.connectionsMutex ≠ none ∧ ¬ stage.stop.Walks := by
  cases h with
  | stop hmove => exact stopMove_mutex hmove hmutex
  | advance hadvance =>
    refine Or.inr ⟨hmutex, ?_⟩
    cases hadvance <;> rintro ⟨rest, ⟨⟩⟩
  | _ => exact Or.inr ⟨hmutex, by rintro ⟨rest, ⟨⟩⟩⟩

/-- Only a `stop()` that walks has `connections_mutex` from one step to the next. -/
theorem mutex_walks (h : Reachable listener maximum c) (hmutex : c.shared.connectionsMutex ≠ none) :
    ∃ l ∈ c.threads, l.grip.stop.Walks := by
  refine Program.Leads.held h Impl.connectionsMutex ?_ rfl hmutex
  intro c₁ i l choice s' l' hmoves hneed
  cases threadMove hmoves with
  | run hmove => exact runMove_mutex hmove hneed
  | destroying _ hmove => exact runMove_mutex hmove hneed
  | handler hmove => exact handlerMove_mutex hmove hneed
  | stop hmove => exact stopMove_mutex hmove hneed
  | _ => exact Or.inr ⟨hneed, by rintro ⟨rest, ⟨⟩⟩⟩

end Mutex

/-! ## Coming to rest -/

/-- The handler of the connection is inside of a turn or of a write. -/
def Awaits (c : Config Impl Thread) (id : Nat) : Prop :=
  ∃ thread, .handler thread ∈ c.threads ∧ thread.connection.id = id ∧ thread.stage.engaged = true

/-- Where `run()` and the destructor come to rest: they have returned, or cannot begin, or `run()`
writes a refusal, or they wait for a handler inside of a turn or of a write. -/
inductive RunStage.Rests (c : Config Impl Thread) : RunStage → Prop where
  | ended : Rests c .ended
  | thrown : Rests c .thrown
  | entering (hlifetime : c.shared.lifetime ≠ .idle) : Rests c .entering
  | rejecting {connection : UniqueDescriptor} : Rests c (.rejecting connection)
  | joining {record : Nat} {owned : List Nat} {held : Option UniqueDescriptor}
    (h : Awaits c record) : Rests c (.joining (record :: owned) held)
  | reaping {connection : UniqueDescriptor} {index record : Nat}
    (hrecord : c.shared.handlers[index]? = some record) (h : Awaits c record) :
    Rests c (.reaping connection index)

/-- Where a thread comes to rest. -/
def Thread.Rests (c : Config Impl Thread) : Thread → Prop
  | run stage => stage.Rests c
  | destroy stage => stage.Rests c
  | handler thread => thread.stage = .ended ∨ thread.stage.engaged = true
  | stop stage => stage = .returned
  | launched _ | elsewhere => True

/-- `stop()` waits for nothing but the mutex. -/
theorem stopStep_eq_none {i : Nat} {s : Impl} {stage : StopStage} (h : stopStep i s stage = none) :
    stage = .returned ∨ stage = .locking ∧ s.connectionsMutex ≠ none := by
  cases stage with
  | entered =>
    simp only [stopStep] at h
    split at h <;> cases h
  | claimed =>
    simp only [stopStep] at h
    split at h <;> cases h
  | closing => cases h
  | locking =>
    refine Or.inr ⟨rfl, fun hmutex => ?_⟩
    simp [stopStep, locking, hmutex] at h
  | walking rest => cases rest <;> cases h
  | returned => exact Or.inl rfl

section Steps

variable [Kernel] {i : Nat} {s : Impl}

theorem stopStep_of_runStep {stage : RunStage} (h : runStep i s stage .go = none)
    (hstop : stage.stop ≠ .returned) : stopStep i s stage.stop = none := by
  cases stage with
  | failing stage =>
    have heq : runStep i s (.failing stage) .go =
        (stopStep i s stage).map fun result => (result.1, .failing result.2) := by
      cases stage <;> first | rfl | exact absurd rfl hstop
    rwa [heq, Option.map_eq_none_iff] at h
  | stopping stage held =>
    have heq : runStep i s (.stopping stage held) .go =
        (stopStep i s stage).map fun result => (result.1, .stopping result.2 held) := by
      cases stage <;> first | rfl | exact absurd rfl hstop
    rwa [heq, Option.map_eq_none_iff] at h
  | _ => exact absurd rfl hstop

theorem stopStep_of_handlerStep {l : HandlerThread} (h : handlerStep i s l .go = none)
    (hstop : l.stage.stop ≠ .returned) : stopStep i s l.stage.stop = none := by
  obtain ⟨connection, handler, stage⟩ := l
  cases stage with
  | stopping stage =>
    have heq : handlerStep i s ⟨connection, handler, .stopping stage⟩ .go =
        (stopStep i s stage).map fun result =>
          (result.1, ⟨connection, handler, .stopping result.2⟩) := by
      cases stage <;> first | rfl | exact absurd rfl hstop
    rwa [heq, Option.map_eq_none_iff] at h
  | _ => exact absurd rfl hstop

theorem threadStep_destroy {stage : RunStage} (hstage : stage ≠ .entering) (choice : Choice) :
    threadStep i s (.destroy stage) choice =
      (runStep i s stage choice).map fun result => (result.1, .destroy result.2) := by
  cases stage <;> first | rfl | exact absurd rfl hstage

theorem stopStep_of_threadStep {l : Thread} (h : threadStep i s l .go = none)
    (hstop : l.grip.stop ≠ .returned) : stopStep i s l.grip.stop = none := by
  cases l with
  | run stage => exact stopStep_of_runStep (Option.map_eq_none_iff.mp h) hstop
  | destroy stage =>
    have hstage : stage ≠ .entering := by
      rintro rfl
      exact hstop rfl
    rw [threadStep_destroy hstage, Option.map_eq_none_iff] at h
    exact stopStep_of_runStep h hstop
  | handler thread => exact stopStep_of_handlerStep (Option.map_eq_none_iff.mp h) hstop
  | stop stage => exact Option.map_eq_none_iff.mp h
  | launched id => exact absurd rfl hstop
  | elsewhere => exact absurd rfl hstop

/-- A handler that cannot move has ended, or is in a call of `stop()`, or at the mutex. -/
theorem handler_of_stuck {l : HandlerThread} (h : ∀ choice, handlerStep i s l choice = none)
    (hengaged : l.stage.engaged = false) (hstop : l.stage.stop = .returned)
    (hmutex : s.connectionsMutex = none) : l.stage = .ended := by
  obtain ⟨connection, handler, stage⟩ := l
  cases stage with
  | registering =>
    have henter := h (.enter .plain)
    simp [handlerStep, locking, hmutex, Entry.plain] at henter
  | refusing => cases hengaged
  | entered entry =>
    have hgo := h .go
    simp only [handlerStep] at hgo
    split at hgo <;> cases hgo
  | testing => cases h .go
  | serving => cases hengaged
  | recovering => cases hengaged
  | leaving => cases h .go
  | stopping stage =>
    cases hstop
    cases h .go
  | unregistering =>
    have hgo := h .go
    simp [handlerStep, locking, hmutex] at hgo
  | returning => cases h .go
  | completing => cases h .go
  | settling => cases h .go
  | exiting => cases h .go
  | ended => rfl

end Steps

namespace Quiet

variable [Kernel] {c : Config Impl Thread} {listener : Nat} {maximum : UInt32}

/-- A call of `stop()` that has not returned is at the mutex. -/
theorem stop_eq (hquiet : Quiet c) {l : Thread} (hl : l ∈ c.threads) :
    l.grip.stop = .returned ∨ l.grip.stop = .locking ∧ c.shared.connectionsMutex ≠ none := by
  obtain ⟨i, hi⟩ := List.getElem?_of_mem hl
  by_cases hreturned : l.grip.stop = .returned
  · exact Or.inl hreturned
  have hengaged : l.engaged = false := by
    cases l with
    | run stage => cases stage <;> first | rfl | exact absurd rfl hreturned
    | handler thread =>
      obtain ⟨connection, handler, stage⟩ := thread
      cases stage <;> first | rfl | exact absurd rfl hreturned
    | _ => rfl
  have hown : l ≠ .elsewhere := by
    rintro rfl
    exact hreturned rfl
  exact stopStep_eq_none (stopStep_of_threadStep (hquiet.stuck hi hengaged hown .go) hreturned)

theorem unlocked (hquiet : Quiet c) (h : Reachable listener maximum c) :
    c.shared.connectionsMutex = none := by
  by_contra hmutex
  obtain ⟨l, hl, rest, hwalks⟩ := mutex_walks h hmutex
  have hstop := hquiet.stop_eq hl
  simp [hwalks] at hstop

theorem stopped (hquiet : Quiet c) (h : Reachable listener maximum c) {l : Thread}
    (hl : l ∈ c.threads) : l.grip.stop = .returned :=
  (hquiet.stop_eq hl).resolve_right fun hlocking => hlocking.2 (hquiet.unlocked h)

theorem handler (hquiet : Quiet c) (h : Reachable listener maximum c) {thread : HandlerThread}
    (hl : .handler thread ∈ c.threads) : thread.stage = .ended ∨ thread.stage.engaged = true := by
  obtain ⟨i, hi⟩ := List.getElem?_of_mem hl
  by_cases hengaged : thread.stage.engaged = true
  · exact Or.inr hengaged
  rw [Bool.not_eq_true] at hengaged
  refine Or.inl (handler_of_stuck (i := i) (s := c.shared) ?_ hengaged (hquiet.stopped h hl)
    (hquiet.unlocked h))
  intro choice
  exact Option.map_eq_none_iff.mp (hquiet.stuck hi hengaged nofun choice)

/-- A handler that was started has exited, or it is inside of a turn or of a write. -/
theorem awaits (hquiet : Quiet c) (h : Reachable listener maximum c) {id : Nat} {t : Tally}
    (ht : c.shared.ledger.tallies[id]? = some t) (hlaunches : t.launches = 1) :
    id ∈ c.shared.exited ∨ Awaits c id := by
  obtain ⟨accepted, haccepted, rfl⟩ : ∃ accepted, c.shared.connections[id]? = some accepted ∧
      accepted.tally = t := by
    have hmap : (c.shared.connections.map Accepted.tally)[id]? = some t := ht
    rwa [List.getElem?_map, Option.map_eq_some_iff] at hmap
  rcases exists_serves h haccepted hlaunches with hclosure | ⟨i, thread, hi, rfl⟩
  · obtain ⟨i, hi⟩ := List.getElem?_of_mem (hquiet.started haccepted hclosure)
    have hgo := hquiet.stuck hi rfl nofun .go
    simp [threadStep, haccepted, hclosure] at hgo
  · rcases hquiet.handler h (List.mem_of_getElem? hi) with hended | hengaged
    · obtain ⟨t, -, hfits⟩ := ((holds_books h).thread hi).charge rfl
      exact Or.inl (hfits.exited (by rw [hended]; rfl))
    · exact Or.inr ⟨thread, List.mem_of_getElem? hi, rfl, hengaged⟩

/-- `run()` and the destructor wait for nobody else. -/
theorem runStage (hquiet : Quiet c) (h : Reachable listener maximum c) {i : Nat} {stage : RunStage}
    (hstuck : ∀ choice, runStep i c.shared stage choice = none) (hstop : stage.stop = .returned)
    (howned : ∀ {record : Nat} {owned : List Nat}, stage.owned = record :: owned →
      record ∈ c.shared.exited ∨ Awaits c record) : stage.Rests c := by
  cases stage with
  | entering =>
    refine .entering fun hlifetime => ?_
    have hgo := hstuck .go
    simp only [runStep, hlifetime] at hgo
    split at hgo
    · rename_i hne
      exact hne rfl
    · split at hgo <;> cases hgo
  | testing => cases hstuck .go
  | loading => cases hstuck .go
  | accepting => cases hstuck .fail
  | preparing => cases hstuck .go
  | accepted result =>
    cases result with
    | accepted connection =>
      have hgo := hstuck .go
      simp only [runStep] at hgo
      split at hgo <;> cases hgo
    | peerRejected => cases hstuck .go
    | fatalFailure => cases hstuck .go
  | failing stage =>
    cases hstop
    cases hstuck .go
  | reaping connection index =>
    have hgo := hstuck .go
    simp only [runStep] at hgo
    split at hgo
    · cases hgo
    · rename_i record hrecord
      have hsound : c.shared.ledger.Sound := (holds_books h).shared
      obtain ⟨t, ht, hlaunches, -⟩ := hsound.record (List.mem_of_getElem? hrecord)
      split at hgo
      · cases hgo
      · split at hgo
        · cases hgo
        · exact .reaping hrecord ((hquiet.awaits h ht hlaunches).resolve_left ‹_›)
  | counting => cases hstuck .go
  | rejecting => exact .rejecting
  | admitting => cases hstuck .go
  | launching => cases hstuck .go
  | unwinding => cases hstuck .go
  | stopping stage held =>
    cases hstop
    cases hstuck .go
  | joining owned held =>
    cases owned with
    | nil => cases hstuck .go
    | cons record owned =>
      refine .joining ((howned rfl).resolve_left fun hexited => ?_)
      have hgo := hstuck .go
      simp [runStep, hexited] at hgo
  | thrown => exact .thrown
  | ended => exact .ended

theorem rests (hquiet : Quiet c) (h : Reachable listener maximum c) {l : Thread}
    (hl : l ∈ c.threads) : l.Rests c := by
  obtain ⟨i, hi⟩ := List.getElem?_of_mem hl
  have howned : ∀ {record : Nat}, record ∈ l.duty.owned →
      record ∈ c.shared.exited ∨ Awaits c record := by
    intro record hrecord
    obtain ⟨-, t, ht, hlaunches, -⟩ := ((holds_books h).thread hi).owned hrecord
    exact hquiet.awaits h ht hlaunches
  cases l with
  | run stage =>
    by_cases hengaged : (Thread.run stage).engaged = true
    · cases stage with
      | rejecting => exact .rejecting
      | _ => cases hengaged
    · rw [Bool.not_eq_true] at hengaged
      refine hquiet.runStage h (i := i) (fun choice => ?_) (hquiet.stopped h hl) fun heq => ?_
      · exact Option.map_eq_none_iff.mp (hquiet.stuck hi hengaged nofun choice)
      · exact howned (show _ ∈ stage.owned from heq ▸ List.mem_cons_self)
  | destroy stage =>
    have hstuck := hquiet.stuck hi rfl nofun
    by_cases hstage : stage = .entering
    · subst hstage
      refine .entering fun hlifetime => ?_
      have hgo := hstuck .go
      simp [threadStep, hlifetime] at hgo
    · refine hquiet.runStage h (i := i) (fun choice => ?_) (hquiet.stopped h hl) fun heq => ?_
      · exact Option.map_eq_none_iff.mp
          ((threadStep_destroy hstage choice).symm.trans (hstuck choice))
      · exact howned (show _ ∈ stage.owned from heq ▸ List.mem_cons_self)
  | launched id => trivial
  | handler thread => exact hquiet.handler h hl
  | stop stage => exact hquiet.stopped h hl
  | elsewhere => trivial

end Quiet

section Result

variable [Kernel] {c : Config Impl Thread} {listener : Nat} {maximum : UInt32}

/-- A schedule that has begun, in which no thread starts. -/
structure Schedule (c : Config Impl Thread) where
  configs : Nat → Config Impl Thread
  threads : Nat → Thread
  begins : configs 0 = c
  steps : ∀ n, ∃ i choice s' l', server.Moves (configs n) i (threads n) choice s' l' ∧
    configs (n + 1) = ⟨s', (configs n).threads.set i l'⟩

theorem Schedule.reachable (schedule : Schedule c) (h : Reachable listener maximum c)
    (hstopping : c.shared.stopping = true) (n : Nat) :
    Reachable listener maximum (schedule.configs n) ∧
      (schedule.configs n).shared.stopping = true := by
  induction n with
  | zero =>
    rw [schedule.begins]
    exact ⟨h, hstopping⟩
  | succ n ih =>
    obtain ⟨i, choice, s', l', hmoves, heq⟩ := schedule.steps n
    rw [heq]
    exact ⟨Program.Leads.trans ih.1 (Program.Leads.of_moves trivial hmoves),
      (stopping_stays hmoves ih.2 ih.1).1⟩

/-- Other parts of the process change nothing that is measured. -/
theorem remaining_elsewhere {i : Nat} {s' : Impl} {l' : Thread} {choice : Choice}
    (hmoves : server.Moves c i .elsewhere choice s' l') :
    remaining ⟨s', c.threads.set i l'⟩ = remaining c := by
  obtain ⟨rfl, hhandlers⟩ : l' = .elsewhere ∧ s'.handlers = c.shared.handlers := by
    cases threadMove hmoves <;> exact ⟨rfl, rfl⟩
  simp only [remaining, hhandlers, set_self hmoves.thread]

/-- From some point on, only other parts of the process go on. -/
theorem Schedule.comes_to_rest (schedule : Schedule c) (h : Reachable listener maximum c)
    (hstopping : c.shared.stopping = true) : ∃ N, ∀ n, N ≤ n → schedule.threads n = .elsewhere := by
  let left (n : Nat) := remaining (schedule.configs n)
  have hstep : ∀ n, schedule.threads n = .elsewhere ∧ left (n + 1) = left n ∨
      left (n + 1) < left n := by
    intro n
    obtain ⟨i, choice, s', l', hmoves, heq⟩ := schedule.steps n
    have hbefore := schedule.reachable h hstopping n
    simp only [left, heq]
    by_cases hother : schedule.threads n = .elsewhere
    · rw [hother] at hmoves
      exact Or.inl ⟨hother, remaining_elsewhere hmoves⟩
    · exact Or.inr (remaining_step hmoves hbefore.2 hother)
  -- The measure is least somewhere, and stays there.
  obtain ⟨_, ⟨N, rfl⟩, hleast⟩ :=
    wellFounded_lt.has_min (Set.range left) ⟨left 0, Set.mem_range_self 0⟩
  have hconstant : ∀ k, left (N + k) = left N := by
    intro k
    induction k with
    | zero => rfl
    | succ k ih =>
      rcases hstep (N + k) with ⟨-, heq⟩ | hlt
      · exact heq.trans ih
      · exact absurd (ih ▸ hlt) (hleast _ (Set.mem_range_self (N + k + 1)))
  refine ⟨N, fun n hle => ?_⟩
  obtain ⟨k, rfl⟩ := Nat.exists_eq_add_of_le hle
  rcases hstep (N + k) with ⟨hother, -⟩ | hlt
  · exact hother
  · have hsame := (hconstant (k + 1)).trans (hconstant k).symm
    exact absurd hsame (ne_of_lt hlt)

/-- A server that is stopping comes to rest. In every schedule, from some point on, only other
parts of the process make steps. And where nobody can move but those inside of a turn or of a write,
`connections_mutex` is free, every `stop()` has returned, every handler has ended or is inside of a
turn or of a write, and `run()` has returned unless it waits for one of these. -/
theorem stop_comes_to_rest (h : Reachable listener maximum c)
    (hstopping : c.shared.stopping = true) :
    (∀ schedule : Schedule c, ∃ N, ∀ n, N ≤ n → schedule.threads n = .elsewhere) ∧
    (Quiet c → c.shared.connectionsMutex = none ∧ (∀ l ∈ c.threads, l.Rests c) ∧
      ((∀ l ∈ c.threads, l.engaged = false) → ∀ stage, .run stage ∈ c.threads →
        stage = .ended ∨ stage = .thrown ∨ stage = .entering ∧ c.shared.lifetime ≠ .idle)) := by
  refine ⟨fun schedule => schedule.comes_to_rest h hstopping, fun hquiet => ?_⟩
  refine ⟨hquiet.unlocked h, fun l hl => hquiet.rests h hl, fun hsilent stage hl => ?_⟩
  have hawaits : ∀ {id : Nat}, ¬ Awaits c id := by
    rintro id ⟨thread, hmem, -, hengaged⟩
    cases (hsilent _ hmem).symm.trans hengaged
  cases show stage.Rests c from hquiet.rests h hl with
  | ended => exact Or.inl rfl
  | thrown => exact Or.inr (Or.inl rfl)
  | entering hlifetime => exact Or.inr (Or.inr ⟨rfl, hlifetime⟩)
  | rejecting => cases hsilent _ hl
  | joining hrecord => exact absurd hrecord hawaits
  | reaping _ hrecord => exact absurd hrecord hawaits

omit [Kernel] in
/-- The thread has returned. -/
def Thread.over : Thread → Bool
  | run .ended | handler ⟨_, _, .ended⟩ | stop .returned => true
  | _ => false

theorem threadStep_of_over {i : Nat} {s : Impl} {l : Thread} (h : l.over = true)
    (choice : Choice) : threadStep i s l choice = none := by
  unfold Thread.over at h
  split at h
  · cases choice <;> rfl
  · cases choice <;> rfl
  · cases choice <;> rfl
  · cases h

/-- Where everybody has returned, nobody can move. -/
theorem quiet_of_over (hover : c.threads.all Thread.over = true)
    (hbegun : (c.shared.connections.all fun accepted => accepted.owner ≠ .closure) = true) :
    Quiet c where
  started haccepted howner :=
    absurd howner
      (of_decide_eq_true (List.all_eq_true.mp hbegun _ (List.mem_of_getElem? haccepted)))
  stuck hl _ _ choice :=
    threadStep_of_over (List.all_eq_true.mp hover _ (List.mem_of_getElem? hl)) choice

omit [Kernel] in
theorem stop_comes_to_rest_settled :
    letI := sampleKernel
    ∃ c, Reachable 3 1 c ∧ c.shared.stopping = true ∧ Quiet c ∧ 3 ≤ c.threads.length ∧
      c.shared.connectionsMutex = none ∧ ∀ l ∈ c.threads, l.Rests c := by
  let _ : Kernel := sampleKernel
  have hrun : ((server.run (initial 3 1) settledRun).any fun c =>
      (c.shared.stopping && 3 ≤ c.threads.length) && (c.threads.all Thread.over &&
        c.shared.connections.all fun accepted => accepted.owner ≠ .closure)) = true := by
    decide +kernel
  obtain ⟨c, hrun, htest⟩ := (Option.any_eq_true _ _).mp hrun
  simp only [Bool.and_eq_true] at htest
  obtain ⟨⟨hstopping, hlength⟩, hover, hbegun⟩ := htest
  have hreachable : Reachable 3 1 c := by
    refine ⟨settledRun, ?_, hrun⟩
    intro act _
    cases act <;> trivial
  have hquiet := quiet_of_over hover hbegun
  obtain ⟨hunlocked, hrests, -⟩ := (stop_comes_to_rest hreachable hstopping).2 hquiet
  exact ⟨c, hreachable, hstopping, hquiet, of_decide_eq_true hlength, hunlocked, hrests⟩

end Result

end PhotospiderDaemon.Server.Connections
