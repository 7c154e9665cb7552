import PhotospiderDaemon.Orchestration.Closing

/-!
# Failed calls leave no trace

A call that ends in a failure may have reserved a slot or marked a session on the way. What
counts is the sum of its own steps, whatever other threads do in between. Seen from the end of
the call backwards, a call that is going to fail is never in a stage behind the point where it
publishes something, so each of its steps leaves the maps, the queue and the records alone, and
the reservation and the mark are taken back.

* `CallStage.Failing`: the stages from which a call can still fail.
* `untouched_step`, `mark_step`, `nextId_failing`: one step of a call that is going to fail.
* `failed_call_leaves_no_trace`: the result for whole calls.
-/

namespace PhotospiderDaemon.Orchestration

open Foundation Ipc

/-! ## What a trace would be -/

/-- Two states agree on everything that a call publishes. -/
structure Shared.Untouched (before after : Shared) : Prop where
  sessions : after.table.sessions = before.table.sessions
  identities : after.table.records.map SessionRecord.identity =
    before.table.records.map SessionRecord.identity
  nextSessionId : after.table.nextSessionId = before.table.nextSessionId
  jobs : after.registry.jobs = before.registry.jobs
  queue : after.registry.queue = before.registry.queue
  records : after.registry.records = before.registry.records

theorem Shared.Untouched.refl (shared : Shared) : shared.Untouched shared :=
  ⟨rfl, rfl, rfl, rfl, rfl, rfl⟩

/-- `pending_session_creates` as a number that can be summed. -/
def Shared.pending (shared : Shared) : Int := shared.table.pendingSessionCreates

/-- The `closing` flag of a session as a number that can be summed. -/
def Shared.mark (s : SessionRef) (shared : Shared) : Int := if shared.table.closing s then 1 else 0

/-- Some steps publish nothing, and take back what they reserve and mark. -/
structure NoTrace (steps : List (Shared × Shared)) : Prop where
  untouched : ∀ step ∈ steps, step.1.Untouched step.2
  pending : Program.net Shared.pending steps = 0
  closing : ∀ s, Program.net (Shared.mark s) steps = 0

/-! ## Calls that are going to fail -/

/-- The stages from which a call can still end with this failure. -/
def CallStage.Failing (failure : Failure) : CallStage → Prop
  | close stage => stage.detached? = none
  | release (.erasing _) => False
  | ended ending => ending = .failed failure
  | returned ending _ => ending = .failed failure
  | _ => True

def Thread.Failing (failure : Failure) : Thread → Prop
  | worker _ => False
  | call _ stage => stage.Failing failure

theorem Thread.failing_of_ending {failure : Failure} {request : Request} {stage : CallStage}
    (h : stage.ending? = some (.failed failure)) : (Thread.call request stage).Failing failure := by
  cases stage with
  | ended ending => exact Option.some.inj h
  | returned ending response => exact Option.some.inj h
  | _ => cases h

/-- What a thread has reserved. -/
def Thread.reservation (l : Thread) : Int := if l.reserves then 1 else 0

/-- What a thread has marked. -/
def Thread.marking (s : SessionRef) (l : Thread) : Int := if l.closes = some s then 1 else 0

theorem Thread.reservation_of_ending {l : Thread} {ending : Ending} (h : l.ending? = some ending) :
    l.reservation = 0 := by
  cases l with
  | worker stage => cases h
  | call request stage =>
    cases stage with
    | create stage => cases h
    | _ => rfl

theorem Thread.marking_of_ending {l : Thread} {ending : Ending} (s : SessionRef)
    (h : l.ending? = some ending) : l.marking s = 0 := by
  cases l with
  | worker stage => cases h
  | call request stage =>
    cases stage with
    | close stage => cases h
    | _ => rfl

/-! ## One step -/

variable [Kernel] {settings : Settings} {c c' : Config Shared Thread} {i : Nat} {l l' : Thread}
  {choice : Choice} {shared' : Shared} {failure : Failure}

/-- A call that is going to fail was going to fail before. -/
theorem failing_back (hmoves : (service settings).Moves c i l choice shared' l')
    (hfailing : l'.Failing failure) : l.Failing failure := by
  cases threadMove hmoves with
  | worker hmove => cases hfailing
  | call hmove =>
    cases hmove with
    | respond _ => exact hfailing
    | _ => trivial

/-- A call that is going to fail publishes nothing. -/
theorem untouched_step (hmoves : (service settings).Moves c i l choice shared' l')
    (hfailing : l'.Failing failure) : c.shared.Untouched shared' := by
  cases threadMove hmoves with
  | worker hmove => cases hfailing
  | @call request _ _ _ hmove =>
    cases hmove with
    | createReserved _ hreserve =>
      obtain ⟨rfl, -⟩ := SessionTable.reserve_eq_ok hreserve
      exact ⟨rfl, rfl, rfl, rfl, rfl, rfl⟩
    | createRolledBack _ hdrop =>
      obtain ⟨-, rfl⟩ := SessionTable.dropPending_eq_some hdrop
      exact ⟨rfl, rfl, rfl, rfl, rfl, rfl⟩
    | closeMarked _ _ =>
      exact ⟨rfl, SessionTable.identities_setClosing _ _ _, rfl, rfl, rfl, rfl⟩
    | closeReopened _ =>
      have hidentities := SessionTable.identities_reopen c.shared.table request.sessionId
      refine ⟨?_, hidentities _, ?_, rfl, rfl, rfl⟩ <;> dsimp only [SessionTable.reopen] <;>
        split <;> rfl
    | @submitEnded s session fails _ _ =>
      rcases Registry.submit_cases settings c.shared.registry session.id session.graph
        request.submitOptions fails with ⟨failure, heq⟩ | ⟨failure, heq, -⟩ | ⟨heq, -⟩
      · rw [heq]
        exact ⟨rfl, rfl, rfl, rfl, rfl, rfl⟩
      · rw [heq]
        exact ⟨rfl, rfl, rfl, rfl, rfl, rfl⟩
      · rw [heq] at hfailing
        cases hfailing
    | @lookupFinished kind r record fails _ hr =>
      have hsame : (kind.finish record fails).1 = record := by
        cases kind with
        | cancel => cases hfailing
        | _ => rfl
      rw [hsame, Shared.write, Registry.write_self hr]
      exact .refl _
    | _ => first | cases hfailing; done | exact ⟨rfl, rfl, rfl, rfl, rfl, rfl⟩

/-- The identifier of a job is used up in vain only by an exception in a submit. -/
theorem nextId_failing (h : Reachable settings c) {request : Request}
    (hmoves : (service settings).Moves c i l choice shared' l')
    (hl : ∃ stage, l = .call request stage) (hfailing : l'.Failing failure)
    (hnext : shared'.registry.nextId ≠ c.shared.registry.nextId) :
    request.method = .jobSubmit ∧ ∃ exception, failure = .raised exception := by
  obtain ⟨stage, rfl⟩ := hl
  have hrouted := routed_of_reachable h _ (List.mem_of_getElem? hmoves.thread)
  have hsound : c.shared.registry.Sound settings := (registryOutline_holds h).shared
  cases threadMove hmoves with
  | call hmove =>
    cases hmove with
    | @submitEnded s session fails _ _ =>
      refine ⟨hrouted, ?_⟩
      rcases Registry.submit_cases settings c.shared.registry session.id session.graph
        request.submitOptions fails with ⟨failure', heq⟩ | ⟨failure', heq, hfree, hwhy⟩ | ⟨heq, -⟩
      · rw [heq] at hnext
        exact absurd rfl hnext
      · rw [heq] at hfailing
        cases hfailing
        -- The other way to waste an identifier would be a duplicate.
        exact hwhy.resolve_right (not_not.mpr (hsound.find?_nextId hfree))
      · rw [heq] at hfailing
        cases hfailing
    | _ => exact absurd rfl hnext

/-- The counter of reservations changes with what the thread has reserved. -/
theorem reservation_step (h : Reachable settings c)
    (hmoves : (service settings).Moves c i l choice shared' l') :
    shared'.pending - c.shared.pending = l'.reservation - l.reservation := by
  have hpositive : l.reserves = true → 0 < c.shared.table.pendingSessionCreates := by
    intro hreserves
    rw [pending_eq h]
    exact List.countP_pos_iff.mpr ⟨l, List.mem_of_getElem? hmoves.thread, hreserves⟩
  have hstep := pending_step hmoves hpositive
  unfold Shared.pending Thread.reservation
  split <;> split <;> simp_all
  all_goals omega

/-- Of a call that is going to fail, a mark changes with what the call has marked. -/
theorem mark_step (h : Reachable settings c)
    (hmoves : (service settings).Moves c i l choice shared' l') (hfailing : l'.Failing failure)
    (s : SessionRef) : shared'.mark s - c.shared.mark s = l'.marking s - l.marking s := by
  have hsession := sessionOutline_holds h
  have hclaim := hsession.thread hmoves.thread
  -- Most steps neither touch a session record nor change what the call closes.
  have hsame : shared'.table.records = c.shared.table.records → l'.closes = l.closes →
      shared'.mark s - c.shared.mark s = l'.marking s - l.marking s := by
    intro hrecords hcloses
    unfold Shared.mark Thread.marking SessionTable.closing
    rw [hrecords, hcloses, Int.sub_self, Int.sub_self]
  cases threadMove hmoves with
  | worker hmove => cases hfailing
  | @call request _ _ _ hmove =>
    cases hmove with
    | enter => exact hsame rfl (Thread.closes_enter _ _)
    | createReserved _ hreserve =>
      obtain ⟨rfl, -⟩ := SessionTable.reserve_eq_ok hreserve
      exact hsame rfl rfl
    | createRolledBack _ hdrop =>
      obtain ⟨-, rfl⟩ := SessionTable.dropPending_eq_some hdrop
      exact hsame rfl rfl
    | @closeMarked s' _ hfind =>
      obtain ⟨-, record, hs', -, hopen⟩ := hsession.shared.1.findOpen?_at hfind
      unfold Shared.mark Thread.marking
      by_cases hs : s' = s
      · subst hs
        rw [SessionTable.closing_setClosing_self true hs', SessionTable.closing_eq hs', hopen]
        simp [Thread.closes, CloseStage.session?]
      · rw [SessionTable.closing_setClosing_ne true hs]
        simp [Thread.closes, CloseStage.session?, hs]
    | @closeReopened s' exception _ =>
      obtain ⟨hfind, record, hs', -, hclosing⟩ := hclaim s' rfl
      unfold Shared.mark Thread.marking SessionTable.reopen
      rw [if_pos hfind]
      by_cases hs : s' = s
      · subst hs
        rw [SessionTable.closing_setClosing_self false hs', SessionTable.closing_eq hs', hclosing]
        simp [Thread.closes, CloseStage.session?]
      · rw [SessionTable.closing_setClosing_ne false hs]
        simp [Thread.closes, CloseStage.session?, hs]
    | _ => first | cases hfailing; done | exact hsame rfl rfl

/-! ## Whole calls -/

/-- The steps of a call that has failed. -/
theorem noTrace_of_failed {acts : List (Act Choice Request)} {request : Request}
    {stage : CallStage} (h : Reachable settings c)
    (hbegun : c.threads[i]? = some (.call request .begun))
    (hrun : (service settings).run c acts = some c')
    (hend : c'.threads[i]? = some (.call request stage))
    (hfailed : stage.ending? = some (.failed failure)) :
    NoTrace ((service settings).own i c acts) ∧
      ((∃ step ∈ (service settings).own i c acts,
          step.2.registry.nextId ≠ step.1.registry.nextId) →
        request.method = .jobSubmit ∧ ∃ exception, failure = .raised exception) := by
  -- Backwards from the end: the call is going to fail, and the steps it still makes take back
  -- what it holds.
  have hsteps := Program.own_induct (P := service settings)
    (motive := fun l steps => l.Failing failure ∧ (∃ stage, l = .call request stage) ∧
      (∀ step ∈ steps, step.1.Untouched step.2 ∧
        (step.2.registry.nextId ≠ step.1.registry.nextId →
          request.method = .jobSubmit ∧ ∃ exception, failure = .raised exception)) ∧
      Program.net Shared.pending steps = - l.reservation ∧
      ∀ s, Program.net (Shared.mark s) steps = - l.marking s)
    (show ∀ act ∈ acts, act.Allowed fun _ => True from fun act _ => by cases act <;> trivial)
    hrun hbegun hend ?_ ?_
  · obtain ⟨-, -, hsteps, hpending, hmarks⟩ := hsteps
    refine ⟨⟨fun step hstep => (hsteps step hstep).1, hpending, hmarks⟩, ?_⟩
    rintro ⟨step, hstep, hnext⟩
    exact (hsteps step hstep).2 hnext
  · have hreservation := Thread.reservation_of_ending
      (show (Thread.call request stage).ending? = _ from hfailed)
    have hmarking := fun s => Thread.marking_of_ending s
      (show (Thread.call request stage).ending? = _ from hfailed)
    exact ⟨Thread.failing_of_ending hfailed, ⟨stage, rfl⟩, by simp, by simp [hreservation],
      fun s => by simp [hmarking s]⟩
  · rintro c₁ l₁ choice s₂ l₂ steps hc₁ - - hmoves ⟨hfailing, hl₂, hrest, hpending, hmarks⟩
    have hreachable := h.trans hc₁
    have hl₁ : ∃ stage, l₁ = .call request stage := by
      obtain ⟨stage₂, rfl⟩ := hl₂
      cases threadMove hmoves with
      | call hmove => exact ⟨_, rfl⟩
    refine ⟨failing_back hmoves hfailing, hl₁, ?_, ?_, fun s => ?_⟩
    · rw [List.forall_mem_cons]
      exact ⟨⟨untouched_step hmoves hfailing, nextId_failing hreachable hmoves hl₁ hfailing⟩, hrest⟩
    · have hstep := reservation_step hreachable hmoves
      rw [Program.net_cons, hpending]
      omega
    · have hstep := mark_step hreachable hmoves hfailing s
      have hmark := hmarks s
      rw [Program.net_cons, hmark]
      omega

/-- A response that does not report success is not one to a create or submit that succeeded. -/
theorem failed_of_response {request : Request} {ending : Ending} {fails : Fault → Bool}
    (hmethod : request.method = .sessionCreate ∨ request.method = .jobSubmit)
    (hanswers : ending.Answers request.method)
    (hstatus : (respond request ending fails).status.ok = false) :
    ∃ failure, ending = .failed failure := by
  cases ending with
  | failed failure => exact ⟨failure, rfl⟩
  | created id => simp [respond] at hstatus
  | submitted id => simp [respond] at hstatus
  | _ =>
    have hother := hanswers
    simp only [Ending.Answers] at hother
    rcases hmethod with hmethod | hmethod <;> cases hmethod.symm.trans hother

/-- The steps of a call that ends in a failure, be it a status or an exception, add up to
nothing, and only an exception in a submit uses up an identifier. A create or submit whose
response does not report success has published nothing. -/
theorem failed_call_leaves_no_trace {acts : List (Act Choice Request)} {request : Request}
    {stage : CallStage} (h : Reachable settings c)
    (hbegun : c.threads[i]? = some (.call request .begun))
    (hrun : (service settings).run c acts = some c')
    (hend : c'.threads[i]? = some (.call request stage)) :
    (∀ failure, stage.ending? = some (.failed failure) →
      NoTrace ((service settings).own i c acts) ∧
        ((∃ step ∈ (service settings).own i c acts,
            step.2.registry.nextId ≠ step.1.registry.nextId) →
          request.method = .jobSubmit ∧ ∃ exception, failure = .raised exception)) ∧
    ∀ ending response, stage = .returned ending response →
      request.method = .sessionCreate ∨ request.method = .jobSubmit →
      response.status.ok = false → NoTrace ((service settings).own i c acts) := by
  have hfailed := fun (failure : Failure) (hfailure : stage.ending? = some (.failed failure)) =>
    noTrace_of_failed h hbegun hrun hend hfailure
  refine ⟨hfailed, ?_⟩
  rintro ending response rfl hmethod hstatus
  have hreachable := h.trans (leads_of_run acts hrun)
  obtain ⟨hanswers, fails, rfl⟩ := routed_of_reachable hreachable _ (List.mem_of_getElem? hend)
  obtain ⟨failure, rfl⟩ := failed_of_response hmethod hanswers hstatus
  exact (hfailed failure rfl).1

omit [Kernel] in
/-- A submit whose `push_back` fails uses up an identifier and leaves nothing else. -/
theorem failed_call_leaves_no_trace_queue :
    ∃ c acts c', @Reachable sampleKernel sampleSettings c ∧
      (@service sampleKernel sampleSettings).run c acts = some c' ∧
      c.shared.registry.nextId = 2 ∧ c'.shared.registry.nextId = 3 ∧
      NoTrace ((@service sampleKernel sampleSettings).own 4 c acts) := by
  let _ : Kernel := sampleKernel
  have hreachable := reachable_sampleConfig.run [.spawn (sampleRequest .jobSubmit)] rfl
  have htrace := @failed_call_leaves_no_trace _ _ _ _ 4
    [plainMove 4, plainMove 4, .move 4 (.go fun fault => fault = .queue)] _ _ hreachable rfl rfl rfl
  exact ⟨_, _, _, hreachable, rfl, rfl, rfl, (htrace.1 _ rfl).1⟩

end PhotospiderDaemon.Orchestration
