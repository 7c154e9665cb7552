import Mathlib.Data.List.Induction
import PhotospiderDaemon.Orchestration.Ownership

/-!
# When a published end is final

The helpers that publish the end of a job write the state first and build the outcome then. An
allocation that fails in between leaves the critical section with a state and an outcome that do
not belong together, and the exception fence of the worker publishes once more. Everybody who
takes the record mutex in the gap sees the first end.

A record that somebody may still publish in has the outcome and the result of a new record. So a
spoilt publication shows in the record at once, and as long as no publication is spoilt, a record
that has ended is nobody's to publish in.

* `RecordStep`, `record_cases`: what a step does to one record.
* `freshOutline_holds`: the records that are still held.
* `coherent_step_iff`: an end that does not fit together comes from a spoilt publication.
* `ends_final_iff`: the same for whole runs, and what it means for ends to be final.
* `end_rewritten`: an end that is seen and then rewritten.
-/

namespace PhotospiderDaemon.Orchestration

open Foundation Ipc

variable [Kernel]

/-! ## What a step does to one record -/

/-- A step of one thread, as far as it concerns one record. -/
inductive RecordStep (choice : Choice) (r : JobRef) (record : JobRecord) :
    Thread → Thread → JobRecord → Prop where
  | keeps {l l' : Thread} {record' : JobRecord}
      (hpublished : record'.published = record.published) :
      RecordStep choice r record l l' record'
  | begins {l l' : Thread} (hqueued : record.state = .queued) :
      RecordStep choice r record l l' { record with state := .running }
  | settles {l l' : Thread} : RecordStep choice r record l l' record.settle
  | publishes {stage stage' : WorkerStage} {record' : JobRecord} {fails : Fault → Bool}
      (howned : r ∈ stage.phase.owned) (hchoice : choice = .go fails)
      (hpublication : stage.Publication fails record record' stage') :
      RecordStep choice r record (.worker stage) (.worker stage') record'

/-- A critical section on a record, seen from any record. -/
theorem RecordStep.write {choice : Choice} {registry : Registry} {r q : JobRef}
    {record old new : JobRecord} {l l' : Thread} (hq : registry.records[q]? = some old)
    (hr : registry.records[r]? = some record) (hstep : RecordStep choice q old l l' new) :
    ∃ record', (registry.write q new).records[r]? = some record' ∧
      RecordStep choice r record l l' record' := by
  by_cases hne : q = r
  · subst hne
    obtain rfl := Option.some.inj (hq.symm.trans hr)
    exact ⟨new, Registry.records_write_self hq, hstep⟩
  · exact ⟨record, (Registry.records_write_ne hne).trans hr, .keeps rfl⟩

variable {settings : Settings} {c : Config Shared Thread} {i : Nat} {l l' : Thread}
  {choice : Choice} {shared' : Shared} {r : Nat} {record : JobRecord}

theorem record_step (hmoves : (service settings).Moves c i l choice shared' l')
    (hc : (registryOutline settings True).Holds c)
    (hr : c.shared.registry.records[r]? = some record) :
    ∃ record', shared'.registry.records[r]? = some record' ∧
      RecordStep choice r record l l' record' := by
  have hclaim := hc.thread hmoves.thread
  cases threadMove hmoves with
  | worker hmove =>
    cases hmove with
    | pop _ _ => exact ⟨record, hr, .keeps rfl⟩
    | begin hq hqueued => exact RecordStep.write hq hr (.begins hqueued)
    | unexpected hq hqueued =>
      exact absurd ((hclaim _ (List.mem_singleton_self _)).1.of_some hq) hqueued
    | advance _ _ _ => exact ⟨record, hr, .keeps rfl⟩
    | publish hphase hq _ _ hpublication =>
      obtain ⟨fails, hchoice, hpublication⟩ := hpublication
      exact RecordStep.write hq hr (.publishes (mem_owned_of_phase hphase) hchoice hpublication)
  | @call request _ _ _ hmove =>
    cases hmove with
    | closeCancelling hq => exact RecordStep.write hq hr (.keeps rfl)
    | closeSettled hq => exact RecordStep.write hq hr .settles
    | closeRequested hq =>
      exact RecordStep.write hq hr (.keeps (JobRecord.published_cancelUnlessTerminal _))
    | @lookupFinished kind q found fails _ hq =>
      exact RecordStep.write hq hr (.keeps (kind.finish_follows found fails).2)
    | @submitEnded s session fails _ _ _ =>
      refine ⟨record, ?_, .keeps rfl⟩
      rcases Registry.submit_cases settings c.shared.registry session.id session.graph
        request.submitOptions fails with ⟨failure, heq⟩ | ⟨failure, heq, -⟩ | ⟨heq, -⟩ <;> rw [heq]
      · exact hr
      · exact hr
      · exact Registry.records_enroll _ hr
    | _ => exact ⟨record, hr, .keeps rfl⟩

/-- Every record behind a step is one from before the step or the new record of a submit. -/
theorem record_cases (hmoves : (service settings).Moves c i l choice shared' l')
    (hc : (registryOutline settings True).Holds c) {record' : JobRecord}
    (hr' : shared'.registry.records[r]? = some record') :
    (∃ record, c.shared.registry.records[r]? = some record ∧
      RecordStep choice r record l l' record') ∨
    ∃ (s : SessionRef) (session : SessionRecord) (graph : WorkflowDocument)
      (options : JobSubmitOptions), c.shared.table.records[s]? = some session ∧
      record' = Registry.newRecord settings c.shared.registry session.id graph options := by
  by_cases hlt : r < c.shared.registry.records.length
  · have hr := List.getElem?_eq_getElem hlt
    obtain ⟨record'', hr'', hstep⟩ := record_step hmoves hc hr
    obtain rfl := Option.some.inj (hr'.symm.trans hr'')
    exact Or.inl ⟨_, hr, hstep⟩
  · have hlength := (List.getElem?_eq_some_iff.mp hr').1
    rcases records_step hmoves with heq | ⟨request, s, session, -, hs, -, -, -, heq⟩
    · omega
    · refine Or.inr ⟨s, session, session.graph, request.submitOptions, hs, ?_⟩
      rw [heq] at hr' hlength
      simp only [Registry.enroll, List.length_append, List.length_singleton] at hr' hlength
      rw [List.getElem?_append_right (Nat.le_of_not_lt hlt)] at hr'
      have hzero : r - c.shared.registry.records.length = 0 := by omega
      rw [hzero] at hr'
      exact (Option.some.inj hr').symm

/-! ## Records that are still held -/

/-- The record still has the outcome and the result with which it was made. -/
def JobRecord.Fresh (record : JobRecord) : Prop :=
  record.outcome = Status.success ∧ record.result = none

theorem JobRecord.Fresh.of_published {record record' : JobRecord} (h : record.Fresh)
    (hpublished : record'.published = record.published) : record'.Fresh := by
  have houtcome : record'.outcome = record.outcome :=
    congrArg (fun published => published.2.1) hpublished
  have hresult : record'.result = record.result :=
    congrArg (fun published => published.2.2) hpublished
  exact ⟨houtcome.trans h.1, hresult.trans h.2⟩

/-- The records in the queue and those that a thread may publish in. -/
def freshOutline : Outline Shared Thread where
  shared shared := ∀ r ∈ shared.registry.queue, shared.registry.At r JobRecord.Fresh
  thread _ shared l := ∀ r ∈ l.owned, shared.registry.At r JobRecord.Fresh
  pair _ _ := True

theorem fresh_unowned (hmoves : (service settings).Moves c i l choice shared' l')
    (hc : (registryOutline settings True).Holds c) (hr : r ∉ l.owned)
    (h : c.shared.registry.At r JobRecord.Fresh) : shared'.registry.At r JobRecord.Fresh :=
  (registry_evolves hmoves hc).at_unowned hr h fun _ _ _ hpublished hfresh =>
    hfresh.of_published hpublished

theorem fresh_queue (hmoves : (service settings).Moves c i l choice shared' l')
    (hc : (registryOutline settings True).Holds c) (hfresh : freshOutline.Holds c) :
    ∀ r ∈ shared'.registry.queue, shared'.registry.At r JobRecord.Fresh := by
  intro r hr
  have hclaim : l.RegistryClaim True i c.shared.registryMutex c.shared.registry :=
    hc.thread hmoves.thread
  rcases (registry_evolves hmoves hc).queue hr with hold | hnew
  · exact fresh_unowned hmoves hc (fun howned => (hclaim.apart howned).2 hold)
      (hfresh.shared r hold)
  · obtain ⟨record', hr', -⟩ := (registry_sound hmoves hc).queued r hr
    rcases record_cases hmoves hc hr' with ⟨record, hrecord, -⟩ |
      ⟨s, session, graph, options, -, heq⟩
    · exact absurd hnew (Nat.ne_of_lt (List.getElem?_eq_some_iff.mp hrecord).1)
    · exact ⟨record', hr', heq ▸ ⟨rfl, rfl⟩⟩

/-- What a thread owns after its own step is as fresh as it was. -/
theorem fresh_owned (hmoves : (service settings).Moves c i l choice shared' l')
    (hc : (registryOutline settings True).Holds c) (hfresh : freshOutline.Holds c) :
    ∀ r ∈ l'.owned, shared'.registry.At r JobRecord.Fresh := by
  intro r hr
  have hclaim := hc.thread hmoves.thread
  have hthread : ∀ r ∈ l.owned, c.shared.registry.At r JobRecord.Fresh :=
    hfresh.thread hmoves.thread
  cases threadMove hmoves with
  | worker hmove =>
    cases hmove with
    | pop _ hqueue =>
      obtain rfl := List.mem_singleton.mp hr
      exact hfresh.shared r (hqueue ▸ List.mem_cons_self ..)
    | begin hrecord _ =>
      obtain rfl := List.mem_singleton.mp hr
      obtain ⟨houtcome, hresult⟩ := (hthread r (List.mem_singleton_self _)).of_some hrecord
      exact ⟨_, Registry.records_write_self hrecord, houtcome, hresult⟩
    | unexpected hrecord hqueued =>
      exact absurd ((hclaim _ (List.mem_singleton_self _)).1.of_some hrecord) hqueued
    | advance hphase _ _ =>
      refine hthread r ?_
      rcases hphase with hphase | ⟨r', hphase, hphase'⟩ <;> simp_all [Thread.owned, Phase.owned]
    | publish hphase hrecord _ hphase' _ =>
      rcases hphase' with hphase' | ⟨hphase', hraised, -⟩
      · simp [Thread.owned, hphase', Phase.owned] at hr
      · simp only [Thread.owned, hphase', Phase.owned, List.mem_singleton] at hr
        subst hr
        obtain ⟨houtcome, hresult⟩ := (hthread r (mem_owned_of_phase hphase)).of_some hrecord
        exact ⟨_, Registry.records_write_self hrecord, hraised ▸ ⟨houtcome, hresult⟩⟩
  | @call request _ _ _ hmove =>
    cases hmove with
    | enter => cases hmethod : request.method <;> rw [hmethod] at hr <;> cases hr
    | closeDrained _ => exact hfresh.shared r (List.mem_filter.mp hr).1
    | closeCancelling hrecord =>
      have hevolves := Registry.Evolves.write hrecord (JobRecord.follows_cancel _)
        (show _ ∉ [] → _ from fun _ => rfl)
      exact hevolves.at_unowned List.not_mem_nil (hthread r hr) fun _ _ _ hpublished hfresh =>
        hfresh.of_published hpublished
    | @closeSettled s q queued running record hrecord =>
      have hne : q ≠ r := fun heq => (List.nodup_cons.mp hclaim.1).1 (heq ▸ hr)
      obtain ⟨record', hr', hfresh'⟩ := hthread r (List.mem_cons_of_mem _ hr)
      exact ⟨record', (Registry.records_write_ne hne).trans hr', hfresh'⟩
    | _ => cases hr

theorem freshOutline_preserves (settings : Settings) :
    (service settings).Preserves (fun _ => True) (fun c => (registryOutline settings True).Holds c)
      freshOutline where
  symm _ := trivial
  start request _ _ := nofun
  start_pair _ _ := trivial
  own _ hmoves hc hfresh := ⟨fresh_queue hmoves hc hfresh, fresh_owned hmoves hc hfresh⟩
  other := by
    intro c i l choice shared' l' j m _ hmoves hc hfresh hne hj
    have hpair : l.owned.Disjoint m.owned := hc.pair hne hmoves.thread hj
    refine ⟨fun r hr => ?_, trivial⟩
    exact fresh_unowned hmoves hc (fun howned => hpair howned hr) (hfresh.thread hj r hr)

/-- In every reachable configuration. -/
theorem freshOutline_holds (h : Reachable settings c) : freshOutline.Holds c := by
  refine (freshOutline_preserves settings).holds registryOutline_holds ?_ h
  refine ⟨fun r hr => ?_, fun {i l} hi => ?_, fun _ _ _ => trivial⟩
  · cases hr
  · obtain rfl := eq_idle_of_initial hi
    nofun

/-! ## Ends that fit together -/

/-- The fields that a record has published fit together. -/
structure JobRecord.Coherent (record : JobRecord) : Prop where
  cancelled : record.state = .cancelled ↔ record.outcome.code = .cancelled
  failed : record.state = .failed ↔
    record.outcome.code ≠ .ok ∧ record.outcome.code ≠ .cancelled
  succeeded : record.state = .succeeded ↔ record.outcome.code = .ok ∧ record.result.isSome = true

/-- Every record that has ended is coherent. -/
def Registry.CoherentEnds (registry : Registry) : Prop :=
  ∀ (r : JobRef) (record : JobRecord), registry.records[r]? = some record →
    terminal record.state = true → record.Coherent

/-- The publication of a worker that is about to go wrong: the diagnostic of a cancellation
cannot be allocated, or what is to be published as a failure is a success or a cancellation. -/
def WorkerStage.Spoils (fails : Fault → Bool) (record : JobRecord) : WorkerStage → Prop
  | publishing _ _ => record.cancelled = true ∧ fails .diagnostic = true
  | finishingCancelled _ _ => fails .diagnostic = true
  | finishingFailure _ status =>
    if record.cancelled then fails .diagnostic = true
    else status.code = .ok ∨ status.code = .cancelled
  | fencing _ _ => fails .copy = false ∧ record.cancelled = true ∧ fails .diagnostic = true
  | _ => False

namespace JobRecord

variable {record record' : JobRecord}

theorem coherent_cancelled_iff (h : record.state = .cancelled) :
    record.Coherent ↔ record.outcome.code = .cancelled := by
  refine ⟨fun hcoherent => hcoherent.cancelled.mp h, fun hcode => ?_⟩
  constructor <;> simp [h, hcode]

theorem coherent_failed_iff (h : record.state = .failed) :
    record.Coherent ↔ record.outcome.code ≠ .ok ∧ record.outcome.code ≠ .cancelled := by
  refine ⟨fun hcoherent => hcoherent.failed.mp h, fun hcode => ?_⟩
  constructor <;> simp [h, hcode]

theorem coherent_succeeded (h : record.state = .succeeded) (hcode : record.outcome.code = .ok)
    (hresult : record.result.isSome = true) : record.Coherent := by
  constructor <;> simp [h, hcode, hresult]
  exact ErrorCode.cancelled_ne_ok.symm

theorem Coherent.of_published (h : record.Coherent)
    (hpublished : record'.published = record.published) :
    record'.Coherent := by
  cases record
  cases record'
  cases hpublished
  exact ⟨h.cancelled, h.failed, h.succeeded⟩

/-- A publication that raises leaves the outcome of a success behind. -/
theorem not_coherent_of_raised (hstate : record.state = .cancelled)
    (houtcome : record.outcome = Status.success) : ¬ record.Coherent := by
  rw [coherent_cancelled_iff hstate, houtcome]
  exact ErrorCode.cancelled_ne_ok.symm

variable (fails : Fault → Bool)

theorem publish_coherent_iff (h : record.Fresh) (result : ExecutionResult) :
    (record.publish result fails).1.Coherent ↔
      ¬ (record.cancelled = true ∧ fails .diagnostic = true) := by
  unfold publish
  cases hcancelled : record.cancelled with
  | true =>
    cases hfails : fails .diagnostic with
    | true => exact iff_of_false (not_coherent_of_raised rfl h.1) (by simp)
    | false => simpa using (coherent_cancelled_iff rfl).mpr rfl
  | false => simpa using coherent_succeeded rfl rfl rfl

theorem finishFailure_coherent_iff (h : record.Fresh) (status : Status) :
    (record.finishFailure status fails).1.Coherent ↔
      ¬ (if record.cancelled then fails .diagnostic = true
        else status.code = .ok ∨ status.code = .cancelled) := by
  unfold finishFailure
  cases hcancelled : record.cancelled with
  | true =>
    cases hfails : fails .diagnostic with
    | true => exact iff_of_false (not_coherent_of_raised rfl h.1) (by simp)
    | false => simpa using (coherent_cancelled_iff rfl).mpr rfl
  | false => simpa using coherent_failed_iff rfl

theorem finishCancelled_coherent_iff (h : record.Fresh) (reason : Bytes) :
    (record.finishCancelled reason fails).1.Coherent ↔ ¬ fails .diagnostic = true := by
  unfold finishCancelled
  cases hfails : fails .diagnostic with
  | true => exact iff_of_false (not_coherent_of_raised rfl h.1) (by simp)
  | false => simpa using (coherent_cancelled_iff rfl).mpr rfl

theorem fallback_coherent (record : JobRecord) (exception : Raised) :
    (record.fallback (fenceCode exception)).Coherent := by
  unfold fallback
  cases hcancelled : record.cancelled with
  | true => exact (coherent_cancelled_iff rfl).mpr rfl
  | false =>
    refine (coherent_failed_iff rfl).mpr ⟨fenceCode_ne_ok exception, ?_⟩
    exact fenceCode_ne_cancelled exception

end JobRecord

/-- What the fallback of an exception fence publishes is the category of an exception. -/
def Thread.Fenced : Thread → Prop
  | worker (.fallingBack _ code) => ∃ exception, code = fenceCode exception
  | _ => True

theorem fenced_publication {stage stage' : WorkerStage} {fails : Fault → Bool}
    {record record' : JobRecord} (h : stage.Publication fails record record' stage') :
    (Thread.worker stage').Fenced := by
  cases h with
  | fallback => trivial
  | fence _ =>
    split
    · exact ⟨_, rfl⟩
    · trivial
  | _ => split <;> trivial

theorem fenced_of_reachable (h : Reachable settings c) : ∀ l ∈ c.threads, l.Fenced := by
  refine Program.Leads.forall_threads (motive := fun _ l => l.Fenced) h ?_ ?_ ?_ ?_
  · intro l hl
    obtain ⟨i, hi⟩ := List.getElem?_of_mem hl
    obtain rfl := eq_idle_of_initial hi
    trivial
  · intro c₁ request _
    trivial
  · intro c₁ i l choice shared' l' hc₁ _ hmoves _
    have hclaim := (registryOutline_holds hc₁).thread hmoves.thread
    cases threadMove hmoves with
    | call hmove => trivial
    | worker hmove =>
      cases hmove with
      | unexpected hr hqueued =>
        exact absurd ((hclaim _ (List.mem_singleton_self _)).1.of_some hr) hqueued
      | advance _ _ hadvances =>
        cases hadvances with
        | fallsBack _ _ => exact ⟨_, rfl⟩
        | _ => trivial
      | publish _ _ _ _ hpublication =>
        obtain ⟨fails, -, hpublication⟩ := hpublication
        exact fenced_publication hpublication
      | _ => trivial
  · intro c₁ i l choice shared' l' m _ _ _ hm
    exact hm

/-- What a worker publishes in a record that it holds is coherent, unless it is spoilt. -/
theorem publication_coherent_iff {stage stage' : WorkerStage} {fails : Fault → Bool}
    {record record' : JobRecord} (hfresh : record.Fresh) (hfenced : (Thread.worker stage).Fenced)
    (h : stage.Publication fails record record' stage') :
    record'.Coherent ↔ ¬ stage.Spoils fails record := by
  cases h with
  | result => exact JobRecord.publish_coherent_iff fails hfresh _
  | failure => exact JobRecord.finishFailure_coherent_iff fails hfresh _
  | cancellation => exact JobRecord.finishCancelled_coherent_iff fails hfresh _
  | @fence r exception hcopy =>
    refine (JobRecord.finishFailure_coherent_iff fails hfresh _).trans (not_congr ?_)
    have hok := fenceCode_ne_ok exception
    have hcancelled := fenceCode_ne_cancelled exception
    cases hflag : record.cancelled <;>
      simp [WorkerStage.Spoils, Status.failure, hok, hcancelled, hcopy, hflag]
  | fallback =>
    obtain ⟨exception, rfl⟩ := hfenced
    exact iff_of_true (record.fallback_coherent exception) fun h => h

/-- A step that writes nothing spoils nothing. -/
theorem WorkerStage.Advances.not_spoils {stage stage' : WorkerStage} {fails : Fault → Bool}
    (h : stage.Advances (.go fails) stage') (record : JobRecord) : ¬ stage.Spoils fails record := by
  intro hspoils
  cases h with
  | stops hstage => rcases hstage with rfl | rfl <;> exact hspoils
  | raises hstage => rcases hstage with rfl | rfl | ⟨status, rfl⟩ <;> exact hspoils
  | fallsBack hchoice hcopy =>
    cases hchoice
    exact absurd (hcopy.symm.trans hspoils.1) (by decide)
  | _ => exact hspoils

/-! ## One step -/

/-- The act spoils a publication. -/
def Spoils (c : Config Shared Thread) (act : Act Choice Request) : Prop :=
  ∃ i fails stage r record, act = .move i (.go fails) ∧ c.threads[i]? = some (.worker stage) ∧
    r ∈ stage.phase.owned ∧ c.shared.registry.records[r]? = some record ∧ stage.Spoils fails record

/-- A step leaves only coherent ends if it found only such, unless it spoils a publication. -/
theorem coherent_step_iff (h : Reachable settings c)
    (hmoves : (service settings).Moves c i l choice shared' l')
    (hcoherent : c.shared.registry.CoherentEnds) :
    shared'.registry.CoherentEnds ↔ ¬ Spoils c (.move i choice) := by
  have hc := registryOutline_holds h
  have hfresh := freshOutline_holds h
  have hfenced := fenced_of_reachable h l (List.mem_of_getElem? hmoves.thread)
  constructor
  · rintro hends ⟨j, fails, stage, r, record, hact, hj, howned, hr, hspoils⟩
    cases hact
    cases hmoves.thread.symm.trans hj
    cases threadMove hmoves with
    | worker hmove =>
      cases hmove with
      | advance _ _ hadvances => exact hadvances.not_spoils record hspoils
      | @publish _ _ q old new hphase hq hpublishes _ hpublication =>
        obtain ⟨fails', hchoice, hpublication⟩ := hpublication
        cases hchoice
        have hrq : r = q := by
          rcases hphase with hphase | hphase <;> simpa [hphase, Phase.owned] using howned
        subst hrq
        obtain rfl := Option.some.inj (hr.symm.trans hq)
        have hrecord := (hfresh.thread hmoves.thread r howned).of_some hr
        refine (publication_coherent_iff hrecord hfenced hpublication).mp ?_ hspoils
        exact hends r new (Registry.records_write_self hr) hpublishes.terminal
      | _ => exact hspoils
  · intro hclean r record' hr' hterminal
    rcases record_cases hmoves hc hr' with ⟨record, hr, hstep⟩ |
      ⟨s, session, graph, options, -, rfl⟩
    · cases hstep with
      | keeps hpublished =>
        have hstate : record'.state = record.state := congrArg Prod.fst hpublished
        exact (hcoherent r record hr (hstate ▸ hterminal)).of_published hpublished
      | begins _ => cases hterminal
      | settles => exact (JobRecord.coherent_cancelled_iff rfl).mpr rfl
      | @publishes stage stage' _ fails howned hchoice hpublication =>
        have hrecord := (hfresh.thread hmoves.thread r howned).of_some hr
        refine (publication_coherent_iff hrecord hfenced hpublication).mpr fun hspoils => ?_
        exact hclean ⟨i, fails, stage, r, record, hchoice ▸ rfl, hmoves.thread, howned, hr, hspoils⟩
    · cases hterminal

theorem coherent_next_iff (h : Reachable settings c) {act : Act Choice Request}
    {c' : Config Shared Thread} (hnext : (service settings).next c act = some c')
    (hcoherent : c.shared.registry.CoherentEnds) :
    c'.shared.registry.CoherentEnds ↔ ¬ Spoils c act := by
  rcases Program.next_cases hnext with ⟨request, rfl, rfl⟩ |
    ⟨i, l, choice, shared', l', rfl, hmoves, rfl⟩
  · exact iff_of_true hcoherent (by rintro ⟨i, fails, stage, r, record, hact, -⟩; cases hact)
  · exact coherent_step_iff h hmoves hcoherent

/-- Nobody publishes in a record whose end is coherent. -/
theorem unowned_of_coherent (h : Reachable settings c) (hi : c.threads[i]? = some l)
    (hr : c.shared.registry.records[r]? = some record) (hterminal : terminal record.state = true)
    (hcoherent : record.Coherent) : r ∉ l.owned := by
  intro howned
  have hclaim : l.RegistryClaim True i c.shared.registryMutex c.shared.registry :=
    (registryOutline_holds h).thread hi
  obtain ⟨houtcome, -⟩ := ((freshOutline_holds h).thread hi r howned).of_some hr
  rcases (hclaim.apart howned).1.of_some hr with hstate | hstate | ⟨-, hstate⟩
  · rw [hstate] at hterminal
    cases hterminal
  · rw [hstate] at hterminal
    cases hterminal
  · exact JobRecord.not_coherent_of_raised hstate houtcome hcoherent

theorem published_next (h : Reachable settings c) {act : Act Choice Request}
    {c' : Config Shared Thread} (hnext : (service settings).next c act = some c')
    (hcoherent : c.shared.registry.CoherentEnds)
    (hr : c.shared.registry.records[r]? = some record) (hterminal : terminal record.state = true) :
    c'.shared.registry.At r fun later => later.published = record.published := by
  rcases Program.next_cases hnext with ⟨request, rfl, rfl⟩ |
    ⟨i, l, choice, shared', l', rfl, hmoves, rfl⟩
  · exact ⟨record, hr, rfl⟩
  · have hunowned :=
      unowned_of_coherent h hmoves.thread hr hterminal (hcoherent r record hr hterminal)
    obtain ⟨record', hr', -, hpublished⟩ :=
      (registry_evolves hmoves (registryOutline_holds h)).record hr
    exact ⟨record', hr', hpublished hunowned⟩

/-! ## Whole runs -/

/-- Every end that shows between two acts of the run is coherent and stays as it is. -/
def EndsFinal (settings : Settings) (acts : List (Act Choice Request)) : Prop :=
  ∀ acts₁ acts₂ c₁ c₂, acts₁ ++ acts₂ <+: acts →
    (service settings).run (initial settings) acts₁ = some c₁ →
    (service settings).run c₁ acts₂ = some c₂ →
    ∀ (r : JobRef) (record : JobRecord), c₁.shared.registry.records[r]? = some record →
      terminal record.state = true → record.Coherent ∧
        c₂.shared.registry.At r fun later => later.published = record.published

/-- No act of the run spoils a publication. -/
def Unspoilt (settings : Settings) (acts : List (Act Choice Request)) : Prop :=
  ∀ acts₁ act c₁ c₂, acts₁ ++ [act] <+: acts →
    (service settings).run (initial settings) acts₁ = some c₁ →
    (service settings).next c₁ act = some c₂ → ¬ Spoils c₁ act

theorem coherent_of_unspoilt {acts acts₁ : List (Act Choice Request)} {c₁ : Config Shared Thread}
    (h : Unspoilt settings acts) (hacts : acts₁ <+: acts)
    (hrun : (service settings).run (initial settings) acts₁ = some c₁) :
    c₁.shared.registry.CoherentEnds := by
  induction acts₁ using List.reverseRecOn generalizing c₁ with
  | nil =>
    cases hrun
    intro r record hr
    cases hr
  | append_singleton acts₁ act ih =>
    obtain ⟨c₀, hrun₀, hnext⟩ := Program.run_snoc.mp hrun
    have hcoherent := ih ((List.prefix_append acts₁ [act]).trans hacts) hrun₀
    have hreachable := (Reachable.initial settings).run acts₁ hrun₀
    exact (coherent_next_iff hreachable hnext hcoherent).mpr (h acts₁ act c₀ c₁ hacts hrun₀ hnext)

/-- The ends that a run publishes are coherent and final exactly if no publication is spoilt. -/
theorem ends_final_iff (settings : Settings) (acts : List (Act Choice Request)) :
    EndsFinal settings acts ↔ Unspoilt settings acts := by
  constructor
  · intro h acts₁ act c₁ c₂ hacts hrun hnext
    have hends : ∀ {acts' c'}, acts' <+: acts →
        (service settings).run (initial settings) acts' = some c' →
        c'.shared.registry.CoherentEnds := by
      intro acts' c' hacts' hrun' r record hr hterminal
      refine (h acts' [] c' c' ?_ hrun' rfl r record hr hterminal).1
      rwa [List.append_nil]
    have hreachable := (Reachable.initial settings).run acts₁ hrun
    refine (coherent_next_iff hreachable hnext ?_).mp ?_
    · exact hends ((List.prefix_append acts₁ [act]).trans hacts) hrun
    · exact hends hacts (Program.run_snoc.mpr ⟨c₁, hrun, hnext⟩)
  · intro h acts₁ acts₂ c₁ c₂ hacts hrun₁ hrun₂ r record hr hterminal
    have hacts₁ := (List.prefix_append acts₁ acts₂).trans hacts
    refine ⟨coherent_of_unspoilt h hacts₁ hrun₁ r record hr hterminal, ?_⟩
    induction acts₂ using List.reverseRecOn generalizing c₂ with
    | nil =>
      cases hrun₂
      exact ⟨record, hr, rfl⟩
    | append_singleton acts₂ act ih =>
      obtain ⟨c, hrun, hnext⟩ := Program.run_snoc.mp hrun₂
      rw [← List.append_assoc] at hacts
      have hacts' := (List.prefix_append (acts₁ ++ acts₂) [act]).trans hacts
      obtain ⟨later, hlater, hpublished⟩ := ih c hacts' hrun
      have hrun' : (service settings).run (initial settings) (acts₁ ++ acts₂) = some c := by
        rw [Program.run_append, hrun₁]
        exact hrun
      have hreachable := (Reachable.initial settings).run (acts₁ ++ acts₂) hrun'
      have hstate : later.state = record.state := congrArg Prod.fst hpublished
      refine (published_next hreachable hnext (coherent_of_unspoilt h hacts' hrun') hlater
        (hstate ▸ hterminal)).imp fun last hlast => ?_
      exact hlast.trans hpublished

/-- The first job of `sampleSettings` is executed by worker 0. The kernel comes back with a
cancellation that nobody has requested, its diagnostic cannot be allocated, and a status call
comes before the exception fence. -/
def sampleSpoilt : List (Act Choice Request) :=
  [.spawn (sampleRequest .sessionCreate), plainMove 2, plainMove 2,
    .move 2 (.compile (.value ())), plainMove 2,
    .spawn (sampleRequest .jobSubmit), plainMove 3, plainMove 3, plainMove 3,
    plainMove 0, plainMove 0, plainMove 0, .move 0 (.compile (.value ())), plainMove 0,
    .move 0 (.execute (.failure ⟨.cancelled, []⟩)), plainMove 0,
    .move 0 (.go fun fault => fault = .diagnostic),
    .spawn (sampleRequest .jobStatus), plainMove 4, plainMove 4, plainMove 4, plainMove 4]

omit [Kernel] in
/-- The status call reports a cancelled job with the outcome of a success, and the exception
fence turns the job into a failed one. -/
theorem end_rewritten :
    letI := sampleKernel
    ∃ c₁ c₂ response, (service sampleSettings).run (initial sampleSettings) sampleSpoilt = some c₁ ∧
      c₁.threads[4]? = some (.call (sampleRequest .jobStatus)
        (.returned (.observed ⟨⟨7, 1⟩, ⟨7, 1⟩, .cancelled, Status.success⟩) response)) ∧
      (service sampleSettings).run c₁ [plainMove 0] = some c₂ ∧
      c₂.shared.registry.records.map JobRecord.published = [(.failed, Status.failure
        .resourceExhausted (ascii "execution orchestration allocation failed"), none)] ∧
      ¬ EndsFinal sampleSettings (sampleSpoilt ++ [plainMove 0]) := by
  let _ : Kernel := sampleKernel
  refine ⟨_, _, _, rfl, rfl, rfl, rfl, fun h => ?_⟩
  obtain ⟨later, hlater, hpublished⟩ :=
    (h sampleSpoilt [plainMove 0] _ _ (List.prefix_refl _) rfl rfl 0 _ rfl rfl).2
  cases hlater
  cases hpublished

end PhotospiderDaemon.Orchestration
