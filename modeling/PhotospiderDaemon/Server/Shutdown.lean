import PhotospiderDaemon.Orchestration.FailedCalls
import PhotospiderDaemon.Server.Connection

/-!
# Accepted shutdowns

A shutdown is accepted in one step of `dispatch` and acted on by the handler that had it
dispatched. Between the two lie the response, its encoding, its write and whatever these can
throw. In the service a whole dispatch is a run in which one thread begins and returns, and its
own steps are what it does to the shared state. In the handler the flag of the last response is
the only trace of the acceptance, so it must be up at the end exactly if some response accepts.

* `Dispatch.refused`: what a call does that begins behind an accepted shutdown.
* `Dispatch.failed_unchanged`: a shutdown that fails changes nothing.
* `serveLoop_accepted`: the flag of a handler and the responses it was given.
* `shutdown_never_lost`: both halves.
-/

namespace PhotospiderDaemon.Server

open Foundation Ipc Orchestration

variable [Kernel]

/-! ## Whole dispatches -/

/-- One call of `dispatch` from its beginning to its return, in a run with choices of one kind. -/
structure Dispatch (settings : Settings) (allowed : Choice → Prop) (i : Nat) (request : Request)
    (acts : List (Act Choice Request)) (c c' : Config Shared Thread) (response : Response) :
    Prop where
  reachable : Reachable settings c
  begun : c.threads[i]? = some (.call request .begun)
  allowed : ∀ act ∈ acts, act.Allowed allowed
  run : (service settings).run c acts = some c'
  returned : ∃ ending, c'.threads[i]? = some (.call request (.returned ending response))

/-- No step changes anything. -/
def Unchanged (steps : List (Shared × Shared)) : Prop := ∀ step ∈ steps, step.2 = step.1

omit [Kernel] in
theorem Unchanged.cons {shared : Shared} {steps : List (Shared × Shared)} (h : Unchanged steps) :
    Unchanged ((shared, shared) :: steps) :=
  List.forall_mem_cons.mpr ⟨rfl, h⟩

/-- Only an accepted shutdown is acted on. -/
theorem eq_shutdownAccepted {request : Request} {ending : Ending} {fails : Fault → Bool}
    (h : (respond request ending fails).shutdownAfterWrite = true) :
    ending = .shutdownAccepted := by
  have hcopied : ∀ response response' : Response, response'.shutdownAfterWrite = false →
      (if fails .copy then fenceResponse response .badAlloc fails
        else response').shutdownAfterWrite = false := by
    intro response response' hresponse'
    split
    · exact fenceResponse_shutdown _ _ _
    · exact hresponse'
  cases ending with
  | shutdownAccepted => rfl
  | observed status => exact absurd (h.symm.trans (hcopied _ _ rfl)) (by decide)
  | produced result => exact absurd (h.symm.trans (hcopied _ _ rfl)) (by decide)
  | failed failure =>
    cases failure with
    | status status => exact absurd (h.symm.trans (hcopied _ _ rfl)) (by decide)
    | raised exception => exact absurd (h.symm.trans (fenceResponse_shutdown _ _ _)) (by decide)
  | _ => cases h

variable {settings : Settings} {allowed : Choice → Prop} {i : Nat} {request : Request}
  {acts : List (Act Choice Request)} {c c' : Config Shared Thread} {response : Response}

theorem shuttingDown_of_leads (h : (service settings).Leads allowed c c')
    (hdown : c.shared.shuttingDown = true) : c'.shared.shuttingDown = true := by
  refine Program.Leads.induct (motive := fun c' => c'.shared.shuttingDown = true) h hdown ?_ ?_
  · intro c₁ request _ ih
    exact ih
  · intro c₁ i l choice shared' l' _ ih _ hmoves
    exact shuttingDown_step hmoves ih

/-- A shutdown is accepted in the step that raises the flag. -/
theorem accepted_step {l l' : Thread} {choice : Choice} {shared' : Shared}
    (hmoves : (service settings).Moves c i l choice shared' l')
    (hending : l'.ending? = some .shutdownAccepted) :
    l.ending? = some .shutdownAccepted ∨ shared' = { c.shared with shuttingDown := true } := by
  cases threadMove hmoves with
  | worker hmove => cases hending
  | @call request _ _ _ hmove =>
    cases hmove with
    | enter => cases hmethod : request.method <;> rw [hmethod] at hending <;> cases hending
    | shutdown => exact Or.inr rfl
    | respond _ => exact Or.inl hending
    | submitEnded _ _ =>
      exact absurd (Option.some.inj hending) (Ending.ofResult_ne nofun nofun)
    | @lookupFinished kind r record fails _ _ =>
      rcases kind.finish_cases record fails with ⟨failure, heq⟩ | ⟨status, -, -, heq⟩ |
        ⟨-, heq⟩ | ⟨result, -, -, heq⟩ <;> rw [heq] at hending <;> cases hending
    | _ => cases hending

/-- A call that has accepted a shutdown has left the flag up. -/
theorem shuttingDown_of_accepted (h : Reachable settings c) :
    ∀ l ∈ c.threads, l.ending? = some .shutdownAccepted → c.shared.shuttingDown = true := by
  refine Program.Leads.forall_threads (motive := fun shared l =>
    l.ending? = some .shutdownAccepted → shared.shuttingDown = true) h ?_ ?_ ?_ ?_
  · intro l hl hending
    obtain ⟨i, hi⟩ := List.getElem?_of_mem hl
    obtain rfl := eq_idle_of_initial hi
    cases hending
  · intro c₁ request _ hending
    cases hending
  · intro c₁ i l choice shared' l' _ _ hmoves hl hending
    rcases accepted_step hmoves hending with hold | hraised
    · exact shuttingDown_step hmoves (hl hold)
    · rw [hraised]
  · intro c₁ i l choice shared' l' m _ _ hmoves hm hending
    exact shuttingDown_step hmoves (hm hending)

/-- A thread that is a call of a request has always been one. -/
theorem call_of_moves {l l' : Thread} {choice : Choice} {shared' : Shared}
    (hmoves : (service settings).Moves c i l choice shared' l')
    (h : ∃ stage, l' = .call request stage) : ∃ stage, l = .call request stage := by
  obtain ⟨stage', rfl⟩ := h
  cases threadMove hmoves with
  | call hmove => exact ⟨_, rfl⟩

/-- The steps of a shutdown that is going to fail. -/
theorem unchanged_step {l l' : Thread} {choice : Choice} {shared' : Shared} {failure : Failure}
    (hmoves : (service settings).Moves c i l choice shared' l') (hrouted : l.Routed)
    (hcall : ∃ stage, l = .call request stage) (hmethod : request.method = .daemonShutdown)
    (hfailing : l'.Failing failure) : shared' = c.shared := by
  obtain ⟨stage, rfl⟩ := hcall
  have hother : ∀ method, method ≠ .daemonShutdown → request.method ≠ method :=
    fun method hne hrouted => hne (hrouted.symm.trans hmethod)
  cases threadMove hmoves with
  | call hmove =>
    cases hmove with
    | shutdown => cases hfailing
    | lookupFinished =>
      rename_i kind _ _ _ _ _
      exact absurd hrouted (hother _ (by cases kind <;> decide))
    | _ => first | rfl | exact absurd hrouted (hother _ (by decide))

namespace Dispatch

theorem leads (h : Dispatch settings allowed i request acts c c' response) :
    (service settings).Leads allowed c c' :=
  ⟨acts, h.allowed, h.run⟩

theorem reachable' (h : Dispatch settings allowed i request acts c c' response) :
    Reachable settings c' :=
  h.reachable.trans (h.leads.mono fun _ _ => trivial)

/-- How a dispatch has come to its response. -/
theorem responds (h : Dispatch settings allowed i request acts c c' response) :
    ∃ ending fails, c'.threads[i]? = some (.call request (.returned ending response)) ∧
      ending.Answers request.method ∧ response = respond request ending fails := by
  obtain ⟨ending, hreturned⟩ := h.returned
  obtain ⟨hanswers, fails, hresponse⟩ :=
    routed_of_reachable h.reachable' _ (List.mem_of_getElem? hreturned)
  exact ⟨ending, fails, hreturned, hanswers, hresponse⟩

/-- A response that is acted on comes from a shutdown that has raised the flag. -/
theorem accepted (h : Dispatch settings allowed i request acts c c' response)
    (hafter : response.shutdownAfterWrite = true) :
    request.method = .daemonShutdown ∧ response.status = Status.success ∧
      (∃ step ∈ (service settings).own i c acts, step.2 = { step.1 with shuttingDown := true }) ∧
      c'.shared.shuttingDown = true := by
  obtain ⟨ending, fails, hreturned, hanswers, rfl⟩ := h.responds
  obtain rfl := eq_shutdownAccepted hafter
  have hown := Program.own_induct (motive := fun l steps => l.ending? = some .shutdownAccepted ∨
      ∃ step ∈ steps, step.2 = { step.1 with shuttingDown := true }) h.allowed h.run h.begun
    hreturned (Or.inl rfl) (by
      intro c₁ l₁ choice shared₂ l₂ steps _ _ _ hmoves hlater
      rcases hlater with hending | ⟨step, hstep, hraises⟩
      · refine (accepted_step hmoves hending).imp_right fun hraised => ?_
        exact ⟨_, List.mem_cons_self .., hraised⟩
      · exact Or.inr ⟨step, List.mem_cons_of_mem _ hstep, hraises⟩)
  refine ⟨hanswers, rfl, hown.resolve_left nofun, ?_⟩
  exact shuttingDown_of_accepted h.reachable' _ (List.mem_of_getElem? hreturned) rfl

/-- A shutdown that fails changes nothing. -/
theorem failed_unchanged (h : Dispatch settings allowed i request acts c c' response)
    (hmethod : request.method = .daemonShutdown) (hfailed : response.status.ok = false) :
    Unchanged ((service settings).own i c acts) := by
  obtain ⟨ending, fails, hreturned, hanswers, rfl⟩ := h.responds
  obtain ⟨failure, rfl⟩ : ∃ failure, ending = .failed failure := by
    cases ending with
    | failed failure => exact ⟨failure, rfl⟩
    | shutdownAccepted => exact absurd hfailed (by simp [respond, Status.ok, Status.success])
    | _ => exact absurd (hanswers.symm.trans hmethod) (by decide)
  have hown := Program.own_induct (motive := fun l steps => (∃ stage, l = .call request stage) ∧
      l.Failing failure ∧ Unchanged steps) h.allowed h.run h.begun hreturned
    ⟨⟨_, rfl⟩, rfl, by simp [Unchanged]⟩ (by
      rintro c₁ l₁ choice shared₂ l₂ steps hc₁ - - hmoves ⟨hcall, hfailing, hsteps⟩
      have hreachable₁ := h.reachable.trans (hc₁.mono fun _ _ => trivial)
      have hrouted := routed_of_reachable hreachable₁ l₁ (List.mem_of_getElem? hmoves.thread)
      have hcall₁ := call_of_moves hmoves hcall
      rw [unchanged_step hmoves hrouted hcall₁ hmethod hfailing]
      exact ⟨hcall₁, failing_back hmoves hfailing, hsteps.cons⟩)
  exact hown.2.2

/-- What is left to do for a call that begins behind an accepted shutdown: the step that refuses it
and the one that makes the response. -/
def Refusing (i : Nat) (acts : List (Act Choice Request)) (request : Request)
    (response : Response) : CallStage → Prop
  | .begun => ∃ fails fails', .move i (.go fails) ∈ acts ∧ .move i (.go fails') ∈ acts ∧
      response = respond request (.failed
        (rejection fails .cancelled "daemon orchestration is shutting down")) fails'
  | .ended ending => ∃ fails', .move i (.go fails') ∈ acts ∧
      response = respond request ending fails'
  | .returned _ response' => response = response'
  | _ => True

/-- A call that begins behind an accepted shutdown changes nothing and is refused. -/
theorem refused (h : Dispatch settings allowed i request acts c c' response)
    (hmethod : request.method ≠ .daemonShutdown) (hdown : c.shared.shuttingDown = true) :
    Refusing i acts request response .begun ∧ Unchanged ((service settings).own i c acts) := by
  obtain ⟨ending, hreturned⟩ := h.returned
  -- The call never comes to a stage between its beginning and its end.
  refine Program.own_induct (motive := fun l steps => ∀ stage, l = .call request stage →
      stage = .begun ∨ stage.ending?.isSome = true →
      Refusing i acts request response stage ∧ Unchanged steps) h.allowed h.run h.begun hreturned
    ?_ ?_ .begun rfl (Or.inl rfl)
  · rintro stage hstage -
    cases hstage
    exact ⟨rfl, by simp [Unchanged]⟩
  · rintro c₁ l₁ choice shared₂ l₂ steps hc₁ - hchoice hmoves hlater stage rfl hstage
    cases threadMove hmoves with
    | @call _ _ stage₂ _ hmove =>
      cases hmove with
      | @refuse fails _ _ hgo =>
        obtain ⟨⟨fails', hfails', hresponse⟩, hsteps⟩ := hlater _ rfl (Or.inr rfl)
        exact ⟨⟨fails, fails', hgo ▸ hchoice, hfails', hresponse⟩, hsteps.cons⟩
      | enter hopen =>
        have hdown₁ := shuttingDown_of_leads hc₁ hdown
        rcases hopen with hshutdown | hup
        · exact absurd hshutdown hmethod
        · exact absurd (hdown₁.symm.trans hup) (by decide)
      | @respond ending fails hgo =>
        obtain ⟨hresponse, hsteps⟩ := hlater _ rfl (Or.inr rfl)
        exact ⟨⟨fails, hgo ▸ hchoice, hresponse⟩, hsteps.cons⟩
      | _ => rcases hstage with hstage | hstage <;> cases hstage

end Dispatch

/-- One of the two steps of a refused call cannot allocate: the text of the refusal, or the copy of
its status. -/
def RefusalFails (i : Nat) (acts : List (Act Choice Request)) : Prop :=
  ∃ fails, .move i (.go fails) ∈ acts ∧ (fails .diagnostic = true ∨ fails .copy = true)

/-- The code of a refusal. -/
theorem code_of_refusing (h : Dispatch.Refusing i acts request response .begun) :
    response.status.code = .cancelled ∨
      response.status.code = .resourceExhausted ∧ RefusalFails i acts := by
  obtain ⟨fails, fails', hfails, hfails', rfl⟩ := h
  have hfence : ∀ response', (fenceResponse response' .badAlloc fails').status.code =
      .resourceExhausted := fun response' => by rw [fenceResponse_status]; rfl
  cases hdiagnostic : fails .diagnostic with
  | true =>
    refine Or.inr ⟨?_, fails, hfails, Or.inl hdiagnostic⟩
    rw [rejection, if_pos hdiagnostic]
    exact hfence _
  | false =>
    rw [rejection, if_neg (by simp [hdiagnostic])]
    cases hcopy : fails' .copy with
    | true =>
      refine Or.inr ⟨?_, fails', hfails', Or.inr hcopy⟩
      dsimp only [respond]
      rw [if_pos hcopy]
      exact hfence _
    | false =>
      refine Or.inl ?_
      dsimp only [respond]
      rw [if_neg (by simp [hcopy])]
      rfl

/-! ## The flag of a handler -/

/-- The flag of the last response is up at the end of the loop exactly if some response
accepts. -/
theorem serveLoop_accepted (descriptor : Int) (turns : List Turn) {handler : Handler}
    (haccepted : handler.acceptedShutdown = false) (hnone : handler.dispatched = []) :
    (serveLoop descriptor turns handler).handler.acceptedShutdown =
      (serveLoop descriptor turns handler).handler.dispatched.any fun pair =>
        acceptsShutdown pair.2 := by
  refine serveLoop_invariant (fun handler => handler.acceptedShutdown =
    handler.dispatched.any fun pair => acceptsShutdown pair.2) ?_ (fun _ _ h => h) haccepted
    (by rw [haccepted, hnone]; rfl)
  intro turn _ handler handler' hfalse hflag hnotes
  cases hnotes with
  | nothing hdispatched haccepted => rw [haccepted, hdispatched, hflag]
  | response hdecodes hdispatched haccepted =>
    rw [haccepted, hdispatched, List.any_append, ← hflag, hfalse]
    simp

theorem recover_handler (descriptor : Int) (report : ReportFaults) (exception : Raised)
    (handler : Handler) :
    ∃ outgoing, (recover descriptor report exception handler).handler = handler.sent outgoing := by
  unfold recover
  split <;> exact ⟨_, rfl⟩

/-- A handler that has had a shutdown accepted calls `stop()`. -/
theorem serveConnection_stops (descriptor : Int) (entry : Entry) (turns : List Turn)
    {stream : Bytes} {receives sends : List (TransferEvent Bytes)} {handler : Handler}
    {registered stopped : Bool}
    (h : serveConnection descriptor entry turns (.accepted stream receives sends) =
      .finished handler registered stopped)
    (haccepts : ∃ pair ∈ handler.dispatched, acceptsShutdown pair.2 = true) : stopped = true := by
  obtain ⟨pair, hpair, hpairAccepts⟩ := haccepts
  unfold serveConnection at h
  split at h
  · -- Nothing was dispatched before the registration failed.
    split at h
    · cases h
    · cases h
      cases hpair
  · split at h
    · rename_i exception _
      obtain ⟨hleft, -⟩ := finish_eq_finished h
      obtain ⟨outgoing, hhandler⟩ := recover_handler descriptor entry.report exception
        (.accepted stream receives sends)
      rw [hleft] at hhandler
      rw [show handler = _ from hhandler] at hpair
      cases hpair
    · obtain ⟨hleft, hstopped⟩ := finish_eq_finished h
      have hflag := serveLoop_accepted descriptor turns
        (show (Handler.accepted stream receives sends).acceptedShutdown = false from rfl) rfl
      rw [hleft] at hflag
      have hany : handler.dispatched.any (fun pair => acceptsShutdown pair.2) = true :=
        List.any_eq_true.mpr ⟨pair, hpair, hpairAccepts⟩
      exact hstopped.trans (hflag.trans hany)

/-! ## The result -/

/-- An accepted shutdown is never lost and never accepted by half. The flag stays up. A response
that is acted on belongs to the shutdown that has raised it, and a shutdown that fails has
changed nothing. A call that begins after such a response was returned changes nothing; it is
refused as cancelled, or as exhausted if one of its own two steps cannot allocate. And the handler
that had the shutdown dispatched calls `stop()` before it ends, whatever fails on the way. -/
theorem shutdown_never_lost (settings : Settings) :
    (∀ c c', Reachable settings c → (service settings).Leads (fun _ => True) c c' →
      c.shared.shuttingDown = true → c'.shared.shuttingDown = true) ∧
    (∀ allowed i request acts c c' response,
      Dispatch settings allowed i request acts c c' response →
      (response.shutdownAfterWrite = true → request.method = .daemonShutdown ∧
        response.status = Status.success ∧
        (∃ step ∈ (service settings).own i c acts,
          step.2 = { step.1 with shuttingDown := true }) ∧ c'.shared.shuttingDown = true) ∧
      (request.method = .daemonShutdown → response.status.ok = false →
        Unchanged ((service settings).own i c acts)) ∧
      (∀ request' ending' response', .call request' (.returned ending' response') ∈ c.threads →
        response'.shutdownAfterWrite = true → request.method ≠ .daemonShutdown →
        Unchanged ((service settings).own i c acts) ∧
          (response.status.code = .cancelled ∨
            response.status.code = .resourceExhausted ∧ RefusalFails i acts))) ∧
    ∀ descriptor entry turns stream receives sends handler registered stopped,
      serveConnection descriptor entry turns (.accepted stream receives sends) =
        .finished handler registered stopped →
      (∃ pair ∈ handler.dispatched, acceptsShutdown pair.2 = true) → stopped = true := by
  refine ⟨fun c c' _ hleads hdown => shuttingDown_of_leads hleads hdown, ?_,
    fun descriptor entry turns _ _ _ _ _ _ h => serveConnection_stops descriptor entry turns h⟩
  intro allowed i request acts c c' response h
  refine ⟨h.accepted, h.failed_unchanged, ?_⟩
  intro request' ending' response' hreturned hafter hmethod
  obtain ⟨hanswers, fails, rfl⟩ := routed_of_reachable h.reachable _ hreturned
  obtain rfl := eq_shutdownAccepted hafter
  have hdown := shuttingDown_of_accepted h.reachable _ hreturned rfl
  obtain ⟨hrefusing, hunchanged⟩ := h.refused hmethod hdown
  exact ⟨hunchanged, code_of_refusing hrefusing⟩

/-- Thread 2 comes back from a shutdown, and then a status call begins. -/
def sampleRefusal : List (Act Choice Request) :=
  [.spawn (sampleRequest .daemonShutdown), plainMove 2, plainMove 2, plainMove 2,
    .spawn (sampleRequest .jobStatus)]

omit [Kernel] in
/-- The status call changes nothing and is refused. -/
theorem shutdown_never_lost_refusal :
    letI := sampleKernel
    ∃ c c' response, Dispatch sampleSettings Choice.Quiet 3 (sampleRequest .jobStatus)
        [plainMove 3, plainMove 3] c c' response ∧
      Unchanged ((service sampleSettings).own 3 c [plainMove 3, plainMove 3]) ∧
      response.status.code = .cancelled := by
  let _ : Kernel := sampleKernel
  have hreachable := (Reachable.initial sampleSettings).run sampleRefusal rfl
  have hdispatch : Dispatch sampleSettings Choice.Quiet 3 (sampleRequest .jobStatus)
      [plainMove 3, plainMove 3] _ _ _ :=
    { reachable := hreachable
      begun := rfl
      allowed := by simp [plainMove, Act.Allowed, Choice.Quiet]
      run := rfl
      returned := ⟨_, rfl⟩ }
  obtain ⟨hunchanged, hcode⟩ := ((shutdown_never_lost sampleSettings).2.1 _ _ _ _ _ _ _
    hdispatch).2.2 _ _ _ (List.mem_of_getElem? (i := 2) rfl) rfl (by decide)
  refine ⟨_, _, _, hdispatch, hunchanged, hcode.resolve_right ?_⟩
  rintro ⟨-, fails, hmove, hfails⟩
  obtain rfl : fails = fun _ => false := by simpa [plainMove] using hmove
  simp at hfails

omit [Kernel] in
/-- If the refusal cannot be allocated, the status call behind an accepted shutdown is answered
as exhausted. -/
theorem refusal_exhausted :
    letI := sampleKernel
    ∃ acts c c' request ending response response',
      Dispatch sampleSettings (fun _ => True) 3 (sampleRequest .jobStatus) acts c c' response ∧
      .call request (.returned ending response') ∈ c.threads ∧
      response'.shutdownAfterWrite = true ∧ response.status.code = .resourceExhausted ∧
      response.status.code ≠ .cancelled := by
  let _ : Kernel := sampleKernel
  have hreachable := (Reachable.initial sampleSettings).run sampleRefusal rfl
  have hdispatch : Dispatch sampleSettings (fun _ => True) 3 (sampleRequest .jobStatus)
      [.move 3 (.go fun fault => fault = .diagnostic), plainMove 3] _ _ _ :=
    { reachable := hreachable
      begun := rfl
      allowed := fun act _ => by cases act <;> trivial
      run := rfl
      returned := ⟨_, rfl⟩ }
  exact ⟨_, _, _, _, _, _, _, hdispatch, List.mem_of_getElem? (i := 2) rfl, rfl, rfl, by decide⟩

end PhotospiderDaemon.Server
