import PhotospiderDaemon.Orchestration.Ownership

/-!
# Arbitration between cancellation and publication

Six places of the source publish a terminal state, and each of them may come before or after
the request of a cancellation. What they have in common is `JobRecord.Follows`: a record that
was cancelled in time can only ever become `Cancelled`. The workers read the token before they
pass a record on to the kernel, so a record that was cancelled in the queue never gets there.

* `follows_of_leads`: what a run can do to a record.
* `compiles_forever`: a cancelled record is not passed to `compile`.
* `cancellation_wins`: the result.
-/

namespace PhotospiderDaemon.Orchestration

open Foundation Ipc

/-- The record on which the next step of a thread decides about a cancellation: in `cancel`, or
in one of the two passes of `settle_close_records`. -/
def Thread.requests : Thread → Option JobRef
  | call _ (.lookup kind (.found r)) => if kind = .cancel then some r else none
  | call _ (.close (.settlingQueued _ (r :: _) _)) => some r
  | call _ (.close (.settlingRunning _ (r :: _) _)) => some r
  | _ => none

def Thread.compiles : Thread → Option JobRef
  | worker stage => stage.compiles
  | call _ _ => none

/-- The record for which a worker is in a call of `compile` or `execute`. -/
def Thread.inKernel : Thread → Option JobRef
  | worker (.compiling r _) => some r
  | worker (.executing r _) => some r
  | _ => none

theorem Thread.compiles_of_inKernel {l : Thread} {r : JobRef} (h : l.inKernel = some r) :
    l.compiles = some r := by
  cases l with
  | worker stage => cases stage <;> cases h <;> rfl
  | call request stage => cases h

variable [Kernel] {settings : Settings} {c c' : Config Shared Thread} {i : Nat} {l l' : Thread}
  {choice : Choice} {shared' : Shared} {r : JobRef} {record : JobRecord}

/-- What a run can do to a record. -/
theorem follows_of_leads (h : Reachable settings c)
    (hleads : (service settings).Leads (fun _ => True) c c')
    (hr : c.shared.registry.records[r]? = some record) :
    c'.shared.registry.At r record.Follows := by
  refine hleads.induct (motive := fun c' => c'.shared.registry.At r record.Follows) ?_ ?_ ?_
  · exact ⟨record, hr, .refl record⟩
  · intro c₁ request _ ih
    exact ih
  · rintro c₁ i l choice shared' l' hc₁ ⟨record₁, hr₁, hfollows₁⟩ - hmoves
    have hevolves := registry_evolves hmoves (registryOutline_holds (h.trans hc₁))
    obtain ⟨record₂, hr₂, hfollows₂, -⟩ := hevolves.record hr₁
    exact ⟨record₂, hr₂, hfollows₁.trans hfollows₂⟩

/-- The step that requests a cancellation in time. -/
theorem records_of_requests (hmoves : (service settings).Moves c i l choice shared' l')
    (hrequests : l.requests = some r) (hr : c.shared.registry.records[r]? = some record)
    (hlive : terminal record.state = false) :
    shared'.registry.records[r]? = some record.cancel := by
  have hcancel : record.cancelUnlessTerminal = record.cancel := by
    simp [JobRecord.cancelUnlessTerminal, hlive]
  cases threadMove hmoves with
  | worker hmove => cases hrequests
  | call hmove =>
    cases hmove with
    | closeCancelling hrecord =>
      cases hrequests
      cases hr.symm.trans hrecord
      exact Registry.records_write_self hr
    | closeRequested hrecord =>
      cases hrequests
      cases hr.symm.trans hrecord
      rw [← hcancel]
      exact Registry.records_write_self hr
    | @lookupFinished kind r' record' fails _ hrecord =>
      cases kind <;> cases hrequests
      cases hr.symm.trans hrecord
      rw [← hcancel]
      exact Registry.records_write_self hr
    | _ => cases hrequests

/-- A worker does not pass a cancelled record to `compile`. -/
theorem compiles_step (hmoves : (service settings).Moves c i l choice shared' l')
    (hcancelled : c.shared.registry.At r fun record => record.cancelled = true)
    (hl : l.compiles ≠ some r) : l'.compiles ≠ some r := by
  intro hl'
  cases threadMove hmoves with
  | worker hmove =>
    have hrunning := WorkerStage.phase_of_compiles hl'
    cases hmove with
    | pop _ _ => cases hl'
    | begin _ _ => cases hl'
    | unexpected _ _ _ _ _ hphase =>
      rcases hphase with hphase | hphase <;> cases hphase.symm.trans hrunning
    | advance _ hcompiles =>
      rcases hcompiles with hsame | hunasked
      · exact hl (hsame.symm.trans hl')
      · obtain ⟨record, hr, hnot⟩ := hunasked r hl'
        exact absurd (hnot.symm.trans (hcancelled.of_some hr)) (by decide)
    | publish _ _ _ hphase' =>
      rcases hphase' with hphase' | ⟨hphase', -⟩ <;> cases hphase'.symm.trans hrunning
  | call hmove => cases hl'

theorem compiles_forever (h : Reachable settings c)
    (hcancelled : c.shared.registry.At r fun record => record.cancelled = true)
    (hnot : ∀ m ∈ c.threads, m.compiles ≠ some r)
    (hleads : (service settings).Leads (fun _ => True) c c') :
    ∀ m ∈ c'.threads, m.compiles ≠ some r := by
  refine Program.Leads.forall_threads (motive := fun _ m => m.compiles ≠ some r) hleads
    hnot ?_ ?_ ?_
  · intro c₁ request _
    nofun
  · intro c₁ i l choice shared' l' hc₁ _ hmoves hl
    obtain ⟨record, hr, hrecord⟩ := hcancelled
    have hcancelled₁ := (follows_of_leads h hc₁ hr).imp fun _ hfollows => hfollows.cancelled hrecord
    exact compiles_step hmoves hcancelled₁ hl
  · intro c₁ i l choice shared' l' m _ _ _ hm
    exact hm

/-- A record that is still queued was never passed to `compile`. -/
theorem not_compiles_of_queued (h : Reachable settings c)
    (hleads : (service settings).Leads (fun _ => True) c c')
    (hr : c'.shared.registry.At r fun record => record.state = .queued) :
    ∀ m ∈ c.threads, m.compiles ≠ some r := by
  intro m hm hcompiles
  obtain ⟨j, hj⟩ := List.getElem?_of_mem hm
  have hclaim := (registryOutline_holds h).thread hj
  cases m with
  | worker stage =>
    have hphase := WorkerStage.phase_of_compiles hcompiles
    obtain ⟨⟨record, hrecord, hstate⟩, -⟩ := hclaim r (by simp [hphase, Phase.owned])
    rw [hphase] at hstate
    obtain ⟨record', hrecord', hfollows⟩ := follows_of_leads h hleads hrecord
    have hrunning : record.state = .running := hstate
    exact hfollows.left (by simp [hrunning]) (hr.of_some hrecord')
  | call request stage => cases hcompiles

/-- A cancellation that is requested before a record has ended wins: whatever the workers and
the other calls do, the record only ever becomes `Cancelled`, without a result. If the record
was still queued, the kernel never sees it. -/
theorem cancellation_wins (h : Reachable settings c)
    (hmoves : (service settings).Moves c i l choice shared' l') (hrequests : l.requests = some r)
    (hr : c.shared.registry.records[r]? = some record) (hlive : terminal record.state = false)
    (hleads : (service settings).Leads (fun _ => True) ⟨shared', c.threads.set i l'⟩ c') :
    (c'.shared.registry.At r fun later => later.id = record.id ∧ later.cancelled = true ∧
      (terminal later.state = true → later.state = .cancelled ∧ later.result = none)) ∧
    (∀ request stage value, .call request stage ∈ c'.threads →
      stage.ending? = some (.produced value) → request.jobId ≠ record.id) ∧
    (record.state = .queued →
      (∀ m ∈ c'.threads, m.inKernel ≠ some r) ∧
      ∀ c₀, Reachable settings c₀ → (service settings).Leads (fun _ => True) c₀ c →
        ∀ m ∈ c₀.threads, m.inKernel ≠ some r) := by
  have hreachable₁ := h.trans (Program.Leads.of_moves trivial hmoves)
  have hreachable' := hreachable₁.trans hleads
  have hr₁ := records_of_requests hmoves hrequests hr hlive
  have hc' := registryOutline_holds hreachable'
  have hsound' : c'.shared.registry.Sound settings := hc'.shared
  obtain ⟨later, hlater, hfollows⟩ := follows_of_leads hreachable₁ hleads hr₁
  have hwins := hfollows.wins (JobRecord.cancelWins_cancel hlive)
  have hid : later.id = record.id := hfollows.id_eq
  refine ⟨⟨later, hlater, hid, hwins.1, fun hterminal => ⟨hwins.2 hterminal, ?_⟩⟩, ?_, ?_⟩
  · exact hsound'.result_none hlater (by simp [hwins.2 hterminal])
  · intro request stage value hmem hending hjob
    obtain ⟨j, hj⟩ := List.getElem?_of_mem hmem
    have hclaim : Thread.RegistryClaim True j c'.shared.registryMutex c'.shared.registry
      (.call request stage) := hc'.thread hj
    obtain ⟨r', other, hother, hid', hsucceeded, -⟩ := hclaim.produced hending
    -- Only one record has this identifier, and it is not in `Succeeded`.
    obtain rfl := hsound'.ref_eq hother hlater
      (congrArg JobId.value (hid'.trans (hjob.trans hid.symm)))
    cases hlater.symm.trans hother
    have hcancelled := hwins.2 (by simp [hsucceeded, terminal])
    simp [hsucceeded] at hcancelled
  · intro hqueued
    have hbefore : ∀ c₀, Reachable settings c₀ → (service settings).Leads (fun _ => True) c₀ c →
        ∀ m ∈ c₀.threads, m.compiles ≠ some r := fun c₀ h₀ hleads₀ =>
      not_compiles_of_queued h₀ hleads₀ ⟨record, hr, hqueued⟩
    refine ⟨fun m hm hkernel => ?_, fun c₀ h₀ hleads₀ m hm hkernel =>
      hbefore c₀ h₀ hleads₀ m hm (Thread.compiles_of_inKernel hkernel)⟩
    have hafter := compiles_forever hreachable₁ ⟨_, hr₁, rfl⟩
      (not_compiles_of_queued hreachable₁ (.refl _) ⟨_, hr₁, hqueued⟩) hleads
    exact hafter m hm (Thread.compiles_of_inKernel hkernel)

omit [Kernel] in
/-- A job that is cancelled in the queue and popped afterwards ends in `Cancelled`. -/
theorem cancellation_wins_queued :
    ∃ c', @Reachable sampleKernel sampleSettings c' ∧
      c'.shared.registry.records.map JobRecord.state = [.cancelled] ∧
      ∀ m ∈ c'.threads, m.inKernel ≠ some 0 := by
  let _ : Kernel := sampleKernel
  have hreachable := reachable_sampleConfig.run
    [.spawn (sampleRequest .jobCancel), plainMove 4, plainMove 4] rfl
  have hmoves := hreachable.moves 4 (.go fun _ => false) rfl rfl
  have hwins := cancellation_wins hreachable hmoves rfl rfl rfl
    (leads_of_run (List.replicate 4 (plainMove 0)) rfl)
  exact ⟨_, (hreachable.trans (.of_moves trivial hmoves)).run (List.replicate 4 (plainMove 0)) rfl,
    rfl, (hwins.2.2 rfl).1⟩

end PhotospiderDaemon.Orchestration
