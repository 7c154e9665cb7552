import PhotospiderDaemon.Orchestration.FailedCalls
import Mathlib.Order.Defs.PartialOrder

/-!
# What callers see of a job

To its callers a job identifier is a value that only moves forward: it is not issued, then it
stands for a record that is queued, running and at last ended, and then it is gone. `JobView`
is that value, `Registry.view` reads it off the registry, and `JobView.answer?` says what a
call about the job answers on a view.

Without failing allocations no step moves a view back (`view_step`). A lookup that has found
its record before a close takes it away still answers from the record, so there need not be a
moment at which its answer was the view. But there is a view between the one before the call
and the one after it that its answer stands for (`asked_between`), and this is all that the
order of calls in real time can tell.

* `job_observations`: what follows for calls that do not overlap.
* `notFound_not_final`: why the answer `NotFound` of a `job.result` is not final.
-/

namespace PhotospiderDaemon.Orchestration

open Foundation Ipc

/-! ## Views -/

/-- What the service knows about a job identifier. -/
inductive JobView where
  | unissued
  | live (record : JobRecord)
  | gone

namespace JobView

/-- One view can come after another. A record that has ended does not change. -/
def le : JobView → JobView → Prop
  | unissued, _ => True
  | _, gone => True
  | live record, live record' => record'.identity = record.identity ∧
      (record.state ≠ .queued → record'.state ≠ .queued) ∧
      (terminal record.state = true → record'.published = record.published)
  | _, _ => False

theorem le_refl (view : JobView) : view.le view := by
  cases view with
  | live record => exact ⟨rfl, fun h => h, fun _ => rfl⟩
  | _ => trivial

theorem le_trans {view view' view'' : JobView} (h : view.le view') (h' : view'.le view'') :
    view.le view'' := by
  cases view with
  | unissued => trivial
  | gone =>
    cases view' with
    | gone => exact h'
    | _ => cases h
  | live record =>
    cases view' with
    | unissued => cases h
    | gone =>
      cases view'' with
      | gone => trivial
      | _ => cases h'
    | live record' =>
      cases view'' with
      | unissued => cases h'
      | gone => trivial
      | live record'' =>
        obtain ⟨hidentity, hleft, hended⟩ := h
        obtain ⟨hidentity', hleft', hended'⟩ := h'
        refine ⟨hidentity'.trans hidentity, hleft' ∘ hleft, fun hterminal => ?_⟩
        have hpublished := hended hterminal
        have hstate : record'.state = record.state := congrArg Prod.fst hpublished
        exact (hended' (hstate ▸ hterminal)).trans hpublished

instance : Preorder JobView where
  le := le
  le_refl := le_refl
  le_trans _ _ _ := le_trans

theorem le_gone (view : JobView) : view ≤ gone := by
  cases view <;> trivial

theorem eq_gone_of_le {view : JobView} (h : gone ≤ view) : view = gone := by
  cases view with
  | gone => rfl
  | _ => cases h

theorem eq_unissued_of_le {view : JobView} (h : view ≤ unissued) : view = unissued := by
  cases view with
  | unissued => rfl
  | _ => cases h

/-- What can come after a record that has ended. -/
theorem after_ended {record : JobRecord} {view : JobView} (h : live record ≤ view)
    (hterminal : terminal record.state = true) :
    view = gone ∨ ∃ record', view = live record' ∧ record'.identity = record.identity ∧
      record'.published = record.published := by
  cases view with
  | unissued => cases h
  | gone => exact Or.inl rfl
  | live record' => exact Or.inr ⟨record', rfl, h.1, h.2.2 hterminal⟩

theorem live_le_of_follows {record record' : JobRecord} (hfollows : record.Follows record')
    (hended : terminal record.state = true → record'.published = record.published) :
    live record ≤ live record' :=
  ⟨hfollows.identity, hfollows.left, hended⟩

end JobView

/-- The method asks about a job. -/
def AboutJob : Method → Prop
  | .jobStatus | .jobCancel | .jobResult | .jobRelease => True
  | _ => False

section Answers

variable [Kernel]

/-- The answer to a call about a job that does not exist. -/
def missingJob : Ending :=
  .failed (.status (Status.failure .notFound (ascii "ephemeral execution does not exist")))

/-- The answer to a call about a session that does not exist. -/
def missingSession : Ending :=
  .failed (.status (Status.failure .notFound (ascii "ephemeral namespace does not exist")))

namespace JobView

/-- What a call about a job answers on a view, when no allocation fails. -/
def answer? : JobView → Method → Option Ending
  | live record, .jobStatus => some (Lookup.status.finish record fun _ => false).2
  | live record, .jobCancel => some (Lookup.cancel.finish record fun _ => false).2
  | live record, .jobResult => some (Lookup.result.finish record fun _ => false).2
  | live record, .jobRelease =>
      some (if terminal record.state then .released
        else .failed (.status
          (Status.failure .invalidArgument (ascii "running execution cannot be released"))))
  | unissued, .jobStatus | unissued, .jobCancel | unissued, .jobResult | unissued, .jobRelease
  | gone, .jobStatus | gone, .jobCancel | gone, .jobResult | gone, .jobRelease => some missingJob
  | _, _ => none

theorem answer?_lookup (record : JobRecord) (kind : Lookup) :
    (live record).answer? kind.method = some (kind.finish record fun _ => false).2 := by
  cases kind <;> rfl

theorem answer?_missing {view : JobView} {method : Method}
    (hview : view = unissued ∨ view = gone) (hmethod : AboutJob method) :
    view.answer? method = some missingJob := by
  rcases hview with rfl | rfl <;> cases method <;> first | rfl | cases hmethod

/-- An answer depends on what the record has published and on its identity. -/
theorem answer?_congr {record record' : JobRecord} (hidentity : record'.identity = record.identity)
    (hpublished : record'.published = record.published) (method : Method) :
    (live record').answer? method = (live record).answer? method := by
  have hid : record'.id = record.id := congrArg Prod.fst hidentity
  have hsession : record'.sessionId = record.sessionId :=
    congrArg (fun identity => identity.2.1) hidentity
  have hstate : record'.state = record.state := congrArg Prod.fst hpublished
  have houtcome : record'.outcome = record.outcome :=
    congrArg (fun published => published.2.1) hpublished
  have hresult : record'.result = record.result :=
    congrArg (fun published => published.2.2) hpublished
  cases method with
  | jobStatus => simp [answer?, Lookup.finish, JobRecord.observe, hid, hsession, hstate, houtcome]
  | jobResult => simp [answer?, Lookup.finish, JobRecord.answer, hstate, houtcome, hresult]
  | jobRelease => simp [answer?, hstate]
  | _ => rfl

end JobView

end Answers

/-! ## The view that the registry has of an identifier -/

namespace Registry

/-- The view of an identifier. -/
def view (registry : Registry) (id : JobId) : JobView :=
  match registry.records.find? fun record => record.id = id with
  | none => .unissued
  | some record => if (registry.jobs.find? id.value).isSome then .live record else .gone

variable {settings : Settings} {registry registry' : Registry} {owned : List JobRef} {r : JobRef}
  {record record' : JobRecord} {id : JobId}

theorem view_of_record (h : registry.Sound settings) (hr : registry.records[r]? = some record) :
    registry.view record.id =
      if (registry.jobs.find? record.id.value).isSome then .live record else .gone := by
  unfold view
  cases hfind : registry.records.find? fun other => other.id = record.id with
  | none =>
    have hnot := List.find?_eq_none.mp hfind record (List.mem_of_getElem? hr)
    simp at hnot
  | some other =>
    have hid : other.id = record.id := by simpa using List.find?_some hfind
    obtain ⟨r', hr'⟩ := List.getElem?_of_mem (List.mem_of_find?_eq_some hfind)
    obtain rfl := h.ref_eq hr' hr (congrArg JobId.value hid)
    rw [Option.some.inj (hr'.symm.trans hr)]

theorem view_eq_unissued (h : ∀ record ∈ registry.records, record.id ≠ id) :
    registry.view id = .unissued := by
  have hnone : registry.records.find? (fun record => record.id = id) = none := by
    rw [List.find?_eq_none]
    intro record hrecord
    simpa using h record hrecord
  unfold view
  rw [hnone]

theorem view_ne_unissued (h : registry.Sound settings) (hr : registry.records[r]? = some record) :
    registry.view record.id ≠ .unissued := by
  rw [view_of_record h hr]
  split <;> nofun

/-- A record is never ahead of the view of its identifier. -/
theorem live_le_view (h : registry.Sound settings) (hr : registry.records[r]? = some record) :
    .live record ≤ registry.view record.id := by
  rw [view_of_record h hr]
  split
  · exact le_refl _
  · exact JobView.le_gone _

theorem view_of_found (h : registry.Sound settings) (hr : registry.records[r]? = some record)
    (hfind : registry.jobs.find? record.id.value = some r) :
    registry.view record.id = .live record := by
  rw [view_of_record h hr, hfind]
  rfl

theorem view_of_missed (h : registry.Sound settings)
    (hfind : registry.find? settings.instanceId id = none) :
    registry.view id = .unissued ∨ registry.view id = .gone := by
  by_cases hissued : ∃ record ∈ registry.records, record.id = id
  · obtain ⟨record, hrecord, rfl⟩ := hissued
    obtain ⟨r, hr⟩ := List.getElem?_of_mem hrecord
    obtain ⟨hinstance, hvalue, -⟩ := h.issued hr
    unfold find? at hfind
    rw [if_neg (by simp [hinstance, hvalue])] at hfind
    rw [view_of_record h hr, hfind]
    exact Or.inr rfl
  · exact Or.inl (view_eq_unissued fun record hrecord hid => hissued ⟨record, hrecord, hid⟩)

/-- A step that publishes nothing in records that have ended moves no view back. -/
theorem view_mono (h : registry.Sound settings) (h' : registry'.Sound settings)
    (hevolves : registry.Evolves owned registry')
    (hended : ∀ {r record}, registry.records[r]? = some record → terminal record.state = true →
      r ∉ owned) (id : JobId) : registry.view id ≤ registry'.view id := by
  by_cases hissued : ∃ record ∈ registry.records, record.id = id
  · obtain ⟨record, hrecord, rfl⟩ := hissued
    obtain ⟨r, hr⟩ := List.getElem?_of_mem hrecord
    obtain ⟨record', hr', hfollows, hpublished⟩ := hevolves.record hr
    rw [view_of_record h hr, ← hfollows.id_eq, view_of_record h' hr']
    cases hfind' : registry'.jobs.find? record'.id.value with
    | none => exact JobView.le_gone _
    | some r' =>
      -- The identifier of an old record is bound to this record in both maps.
      obtain ⟨other, hother, hkey⟩ := h'.keyed hfind'
      obtain rfl := h'.ref_eq hother hr' hkey
      have hlt := (List.getElem?_eq_some_iff.mp hr).1
      have hfind := (hevolves.jobs hfind').resolve_right (Nat.ne_of_lt hlt)
      rw [hfind]
      exact JobView.live_le_of_follows hfollows fun hterminal => hpublished (hended hr hterminal)
  · rw [view_eq_unissued fun record hrecord hid => hissued ⟨record, hrecord, hid⟩]
    trivial

end Registry

/-! ## One step -/

section Step

variable [Kernel] {settings : Settings} {c c' : Config Shared Thread} {i : Nat} {l l' : Thread}
  {choice : Choice} {shared' : Shared} {seen : JobView} {id : JobId}

/-- The configurations that are reached without a failing allocation. -/
def QuietReachable (settings : Settings) (c : Config Shared Thread) : Prop :=
  (service settings).Leads Choice.Quiet (initial settings) c

theorem QuietReachable.reachable (h : QuietReachable settings c) : Reachable settings c :=
  h.mono fun _ _ => trivial

/-- Without failing allocations whatever a thread owns has not ended. -/
theorem QuietReachable.outline (h : QuietReachable settings c) :
    (registryOutline settings False).Holds c :=
  (registryOutline_preserves settings False).holds (fun _ => trivial)
    (registryOutline_initial settings False) (h.mono fun _ => Or.inr)

omit [Kernel] in
theorem Choice.Quiet.eq_go {fails : Fault → Bool} (h : choice.Quiet)
    (hchoice : choice = .go fails) :
    fails = fun _ => false := by
  subst hchoice
  exact funext h

theorem unowned_of_ended (hmoves : (service settings).Moves c i l choice shared' l')
    (hc : (registryOutline settings False).Holds c) {r : JobRef} {record : JobRecord}
    (hr : c.shared.registry.records[r]? = some record) (hterminal : terminal record.state = true) :
    r ∉ l.owned := by
  intro howned
  have hclaim : l.RegistryClaim False i c.shared.registryMutex c.shared.registry :=
    hc.thread hmoves.thread
  rcases (hclaim.apart howned).1.of_some hr with hstate | hstate | ⟨hfalse, -⟩
  · rw [hstate] at hterminal
    cases hterminal
  · rw [hstate] at hterminal
    cases hterminal
  · exact hfalse

/-- No step moves a view back. -/
theorem view_step (hmoves : (service settings).Moves c i l choice shared' l')
    (hc : (registryOutline settings False).Holds c) (id : JobId) :
    c.shared.registry.view id ≤ shared'.registry.view id :=
  Registry.view_mono hc.shared (registry_sound hmoves hc) (registry_evolves hmoves hc)
    (unowned_of_ended hmoves hc) id

omit [Kernel] in
/-- The record that a call about a job has found. -/
def CallStage.found? : CallStage → Option JobRef
  | lookup _ (.found r) => some r
  | release (.found r) => some r
  | release (.erasing r) => some r
  | _ => none

/-- What a call about a job that was made when the view was `seen` may rely on: the record it has
found is not behind, and its answer is one to a view in between. -/
def Thread.ViewClaim (seen : JobView) (id : JobId) (shared : Shared) : Thread → Prop
  | worker _ => True
  | call request stage => request.jobId = id →
      (∀ r, stage.found? = some r →
        shared.registry.At r fun record => record.id = id ∧ seen ≤ .live record) ∧
      ∀ ending, stage.ending? = some ending → AboutJob request.method →
        shared.shuttingDown = true ∨ ∃ view, seen ≤ view ∧ view ≤ shared.registry.view id ∧
          view.answer? request.method = some ending

/-- The outline of the calls that start when there are already `n` threads. -/
def observationOutline (n : Nat) (seen : JobView) (id : JobId) : Outline Shared Thread where
  shared shared := seen ≤ shared.registry.view id
  thread i shared l := n ≤ i → l.ViewClaim seen id shared
  pair _ _ := True

/-- A call that has ended with an answer to a view in between. -/
theorem Thread.ViewClaim.of_answer {request : Request} {ending : Ending} {view : JobView}
    (hseen : seen ≤ view) (hview : view ≤ shared'.registry.view id)
    (hanswer : request.jobId = id → AboutJob request.method →
      view.answer? request.method = some ending) :
    (Thread.call request (.ended ending)).ViewClaim seen id shared' := by
  intro hid
  refine ⟨nofun, fun ending' hending habout => ?_⟩
  cases hending
  exact Or.inr ⟨view, hseen, hview, hanswer hid habout⟩

theorem Thread.ViewClaim.of_found {registry : Registry} {request : Request} {stage : CallStage}
    {r : JobRef} (hsound : registry.Sound settings) (hregistry : shared'.registry = registry)
    (hseen : seen ≤ registry.view id) (hstage : stage.found? = some r)
    (hending : stage.ending? = none)
    (hfind : registry.find? settings.instanceId request.jobId = some r) :
    (Thread.call request stage).ViewClaim seen id shared' := by
  rintro rfl
  refine ⟨fun r' hr' => ?_, fun ending hended => absurd (hending.symm.trans hended) nofun⟩
  cases hstage.symm.trans hr'
  obtain ⟨hmap, record, hr, hid⟩ := hsound.find?_at hfind
  refine ⟨record, hregistry ▸ hr, hid, ?_⟩
  rw [← hid] at hmap hseen
  rwa [Registry.view_of_found hsound hr hmap] at hseen

theorem observation_own (h : QuietReachable settings c) (hchoice : choice.Quiet)
    (hmoves : (service settings).Moves c i l choice shared' l')
    (hseen : seen ≤ c.shared.registry.view id) (hclaim : l.ViewClaim seen id c.shared) :
    l'.ViewClaim seen id shared' := by
  have hc := h.outline
  have hsound : c.shared.registry.Sound settings := hc.shared
  have hsound' := registry_sound hmoves hc
  have hregistry := hc.thread hmoves.thread
  have hrouted := routed_of_reachable h.reachable _ (List.mem_of_getElem? hmoves.thread)
  have hview := view_step hmoves hc id
  cases threadMove hmoves with
  | worker hmove => trivial
  | @call request _ _ _ hmove =>
    -- A lookup or a release that finds nothing answers so on the view of this moment.
    have hmissed : c.shared.registry.find? settings.instanceId request.jobId = none →
        request.jobId = id → AboutJob request.method →
        (c.shared.registry.view id).answer? request.method = some missingJob :=
          fun hfind hid habout =>
      JobView.answer?_missing (Registry.view_of_missed hsound (hid ▸ hfind)) habout
    cases hmove with
    | refuse _ hdown => exact fun _ => ⟨nofun, fun _ _ _ => Or.inl hdown⟩
    | enter => cases request.method <;> exact fun _ => ⟨nofun, nofun⟩
    | respond _ => exact hclaim
    | lookupMissed hgo hfind =>
      obtain rfl := hchoice.eq_go hgo
      exact .of_answer hseen hview (hmissed hfind)
    | lookupFound hfind => exact .of_found hsound rfl hseen rfl rfl hfind
    | @lookupFinished kind r record fails hgo hr =>
      obtain rfl := hchoice.eq_go hgo
      obtain ⟨hfollows, hpublished⟩ := kind.finish_follows record fun _ => false
      intro hid
      obtain ⟨hrid, hlive⟩ := ((hclaim hid).1 r rfl).of_some hr
      have hle := Registry.live_le_view hsound' (Registry.records_write_self hr)
      rw [hfollows.id_eq, hrid] at hle
      have hafter := le_trans (JobView.live_le_of_follows hfollows fun _ => hpublished) hle
      refine Thread.ViewClaim.of_answer hlive hafter (fun _ _ => ?_) hid
      rw [show request.method = kind.method from hrouted]
      exact JobView.answer?_lookup record kind
    | releaseMissed hgo hfind =>
      obtain rfl := hchoice.eq_go hgo
      exact .of_answer hseen hview (hmissed hfind)
    | releaseFound _ hfind => exact .of_found hsound rfl hseen rfl rfl hfind
    | @releaseRefused r record fails hgo hr hterminal =>
      obtain rfl := hchoice.eq_go hgo
      intro hid
      obtain ⟨hrid, hlive⟩ := ((hclaim hid).1 r rfl).of_some hr
      have hle := Registry.live_le_view hsound hr
      rw [hrid] at hle
      refine Thread.ViewClaim.of_answer hlive hle (fun _ _ => ?_) hid
      rw [show request.method = .jobRelease from hrouted, JobView.answer?, hterminal]
      rfl
    | releaseChecked _ _ => exact fun hid => ⟨fun r hr => (hclaim hid).1 r hr, nofun⟩
    | @releaseErased r =>
      obtain ⟨-, -, record, hr, hterminal⟩ := hregistry
      intro hid
      obtain ⟨hrid, hlive⟩ := ((hclaim hid).1 r rfl).of_some hr
      have hle := Registry.live_le_view hsound hr
      rw [hrid] at hle
      refine Thread.ViewClaim.of_answer hlive (le_trans hle hview) (fun _ _ => ?_) hid
      rw [show request.method = .jobRelease from hrouted, JobView.answer?, hterminal]
      rfl
    | _ =>
      refine fun _ => ⟨nofun, ?_⟩
      first
      | intro _ hending
        cases hending
        done
      | intro _ _ habout
        rw [show request.method = _ from hrouted] at habout
        cases habout

theorem Thread.ViewClaim.other {m : Thread} (hclaim : m.ViewClaim seen id c.shared)
    (hmoves : (service settings).Moves c i l choice shared' l')
    (hc : (registryOutline settings False).Holds c) : m.ViewClaim seen id shared' := by
  cases m with
  | worker stage => trivial
  | call request stage =>
    intro hid
    obtain ⟨hfound, hended⟩ := hclaim hid
    refine ⟨fun r hr => ?_, fun ending hending habout => ?_⟩
    · obtain ⟨record, hrecord, hrid, hlive⟩ := hfound r hr
      obtain ⟨record', hrecord', hfollows, hpublished⟩ :=
        (registry_evolves hmoves hc).record hrecord
      have hle := JobView.live_le_of_follows hfollows fun hterminal =>
        hpublished (unowned_of_ended hmoves hc hrecord hterminal)
      exact ⟨record', hrecord', hfollows.id_eq.trans hrid, le_trans hlive hle⟩
    · rcases hended ending hending habout with hdown | ⟨view, hseen, hview, hanswer⟩
      · exact Or.inl (shuttingDown_step hmoves hdown)
      · exact Or.inr ⟨view, hseen, le_trans hview (view_step hmoves hc id), hanswer⟩

theorem observationOutline_preserves (settings : Settings) (n : Nat) (seen : JobView) (id : JobId) :
    (service settings).Preserves Choice.Quiet (QuietReachable settings)
      (observationOutline n seen id) where
  symm _ := trivial
  start _ _ _ := fun _ _ => ⟨nofun, nofun⟩
  start_pair _ _ := trivial
  own hchoice hmoves hbase hc := ⟨le_trans hc.shared (view_step hmoves hbase.outline id),
    fun hn => observation_own hbase hchoice hmoves hc.shared (hc.thread hmoves.thread hn)⟩
  other _ hmoves hbase hc _ hj :=
    ⟨fun hn => (hc.thread hj hn).other hmoves hbase.outline, trivial⟩

end Step

/-! ## Runs -/

section Runs

variable [Kernel] {settings : Settings} {c c' c₀ c₁ c₂ : Config Shared Thread} {id : JobId}

/-- A run without a failing allocation and without an accepted shutdown. -/
structure Calm (settings : Settings) (c c' : Config Shared Thread) : Prop where
  leads : (service settings).Leads Choice.Quiet c c'
  running : c'.shared.shuttingDown = false

omit [Kernel] in
/-- A call about a job that started after `c` and has come back in `c'`. -/
def Asked (c c' : Config Shared Thread) (id : JobId) (method : Method) (ending : Ending) : Prop :=
  AboutJob method ∧ ∃ (i : Nat) (request : Request) (stage : CallStage), c.threads.length ≤ i ∧
    c'.threads[i]? = some (.call request stage) ∧ request.jobId = id ∧ request.method = method ∧
    stage.ending? = some ending

/-- The answer of a call stands for a view between the one before the call and the one after it. -/
theorem asked_between (h : QuietReachable settings c₁) (hcalm : Calm settings c₁ c₂)
    {method : Method} {ending : Ending} (hasked : Asked c₁ c₂ id method ending) :
    ∃ view, c₁.shared.registry.view id ≤ view ∧ view ≤ c₂.shared.registry.view id ∧
      view.answer? method = some ending := by
  obtain ⟨habout, i, request, stage, hlater, hi, hid, rfl, hending⟩ := hasked
  have hstart :
      (observationOutline c₁.threads.length (c₁.shared.registry.view id) id).Holds c₁ := by
    refine ⟨le_refl _, fun hj hn => ?_, fun _ _ _ => trivial⟩
    exact absurd (List.getElem?_eq_some_iff.mp hj).1 (Nat.not_lt.mpr hn)
  have hholds := (observationOutline_preserves settings _ _ id).holds
    (fun hleads => Program.Leads.trans h hleads) hstart hcalm.leads
  rcases (hholds.thread hi hlater hid).2 ending hending habout with hdown | hview
  · exact absurd (hcalm.running.symm.trans hdown) (by decide)
  · exact hview

omit [Kernel] in
/-- The identifier that a submit has handed out. -/
def Thread.submitted (thread : Thread) : Option JobId :=
  match thread.ending? with
  | some (.submitted id) => some id
  | _ => none

section Step

variable {i : Nat} {l l' : Thread} {choice : Choice} {shared' : Shared}

/-- The identifiers of records are never changed. -/
theorem ids_step (hmoves : (service settings).Moves c i l choice shared' l')
    (hc : (registryOutline settings True).Holds c)
    (hlength : shared'.registry.records.length = c.shared.registry.records.length) :
    shared'.registry.records.map JobRecord.id = c.shared.registry.records.map JobRecord.id := by
  apply List.ext_getElem?
  intro r
  rw [List.getElem?_map, List.getElem?_map]
  cases hr : c.shared.registry.records[r]? with
  | none =>
    rw [List.getElem?_eq_none_iff, ← hlength, ← List.getElem?_eq_none_iff] at hr
    rw [hr]
  | some record =>
    obtain ⟨record', hr', hfollows, -⟩ := (registry_evolves hmoves hc).record hr
    rw [hr', Option.map_some, Option.map_some, hfollows.id_eq]

/-- A submit succeeds only when it publishes a record. -/
theorem submitted_of_length (hmoves : (service settings).Moves c i l choice shared' l')
    (hlength : shared'.registry.records.length = c.shared.registry.records.length) :
    l'.submitted = l.submitted := by
  cases threadMove hmoves with
  | worker hmove => rfl
  | @call request _ _ _ hmove =>
    cases hmove with
    | enter => cases request.method <;> rfl
    | @submitEnded s session fails _ _ =>
      rcases Registry.submit_cases settings c.shared.registry session.id session.graph
        request.submitOptions fails with ⟨failure, heq⟩ | ⟨failure, heq, -⟩ | ⟨heq, -⟩
      · rw [heq]
        rfl
      · rw [heq]
        rfl
      · rw [heq] at hlength
        simp [Registry.enroll] at hlength
    | @lookupFinished kind r record fails _ _ =>
      rcases kind.finish_cases record fails with ⟨failure, heq⟩ | ⟨status, -, -, heq⟩ |
        ⟨-, heq⟩ | ⟨result, -, -, heq⟩ <;> rw [heq] <;> rfl
    | _ => rfl

/-- A submit hands out an identifier exactly when it publishes a record with it. -/
theorem submitted_count_step (hmoves : (service settings).Moves c i l choice shared' l')
    (hc : (registryOutline settings True).Holds c) (id : JobId) :
    (shared'.registry.records.map JobRecord.id).count id +
        (if l.submitted = some id then 1 else 0) =
      (c.shared.registry.records.map JobRecord.id).count id +
        if l'.submitted = some id then 1 else 0 := by
  rcases records_step hmoves with hlength | ⟨request, s, session, rfl, -, rfl, -, -, heq⟩
  · rw [ids_step hmoves hc hlength, submitted_of_length hmoves hlength]
  · rw [heq]
    simp [Registry.enroll, Registry.newRecord, Thread.submitted, Thread.ending?, CallStage.ending?,
      List.count_append, List.count_singleton]

end Step

/-- The identifiers that submits have handed out are those of the records. -/
theorem submitted_perm (h : Reachable settings c) :
    (c.threads.filterMap Thread.submitted).Perm (c.shared.registry.records.map JobRecord.id) := by
  rw [List.perm_iff_count]
  intro id
  have hcount := Program.Leads.countP_eq h
    (fun shared => (shared.registry.records.map JobRecord.id).count id)
    (fun l => l.submitted == some id) (fun _ => rfl)
    (fun hleads _ hmoves _ => by
      simpa using submitted_count_step hmoves (registryOutline_holds hleads) id)
    (by simp [initial, Shared.initial, Registry.initial, List.countP_replicate, Thread.submitted,
      Thread.ending?])
  rw [List.count_filterMap]
  exact hcount.symm

omit [Kernel] in
theorem Registry.Sound.ids_nodup {registry : Registry} (h : registry.Sound settings) :
    (registry.records.map JobRecord.id).Nodup := by
  rw [List.Nodup, List.pairwise_map, List.pairwise_iff_getElem]
  intro r r' hr hr' hlt hid
  have hascending := h.ascending (List.getElem?_eq_getElem hr) (List.getElem?_eq_getElem hr') hlt
  exact absurd (congrArg JobId.value hid) (ne_of_lt hascending)

omit [Kernel] in
theorem Thread.submitted_eq_some {l : Thread} :
    l.submitted = some id ↔ l.ending? = some (.submitted id) := by
  unfold submitted
  split
  · rename_i heq
    rw [heq, Option.some.injEq, Option.some.injEq, Ending.submitted.injEq]
  · rename_i hnot
    exact ⟨nofun, fun heq => absurd heq (hnot id)⟩

omit [Kernel] in
theorem Thread.created_eq_some {l : Thread} {id : SessionId} :
    l.created = some id ↔ l.ending? = some (.created id) := by
  unfold created
  split
  · rename_i heq
    rw [heq, Option.some.injEq, Option.some.injEq, Ending.created.injEq]
  · rename_i hnot
    exact ⟨nofun, fun heq => absurd heq (hnot id)⟩

omit [Kernel] in
/-- No call has come back with this answer. -/
def NeverAnswered (c : Config Shared Thread) (ending : Ending) : Prop :=
  ∀ l ∈ c.threads, l.ending? ≠ some ending

/-- A submit that has come back has issued its identifier. -/
theorem issued_iff (h : Reachable settings c) :
    ¬ NeverAnswered c (.submitted id) ↔
      ∃ r, c.shared.registry.At r fun record => record.id = id := by
  have hmem := (submitted_perm h).mem_iff (a := id)
  simp only [List.mem_filterMap, Thread.submitted_eq_some, List.mem_map] at hmem
  unfold NeverAnswered
  push Not
  rw [hmem]
  constructor
  · rintro ⟨record, hrecord, hid⟩
    obtain ⟨r, hr⟩ := List.getElem?_of_mem hrecord
    exact ⟨r, record, hr, hid⟩
  · rintro ⟨r, record, hr, hid⟩
    exact ⟨record, List.mem_of_getElem? hr, hid⟩

/-- A create that has come back has issued its identifier. -/
theorem session_issued_iff (h : Reachable settings c) {id : SessionId} :
    ¬ NeverAnswered c (.created id) ↔ ∃ s, c.shared.table.At s fun record => record.id = id := by
  have hmem := (created_perm h).mem_iff (a := id)
  simp only [List.mem_filterMap, Thread.created_eq_some, List.mem_map] at hmem
  unfold NeverAnswered
  push Not
  rw [hmem]
  constructor
  · rintro ⟨record, hrecord, hid⟩
    obtain ⟨s, hs⟩ := List.getElem?_of_mem hrecord
    exact ⟨s, record, hs, hid⟩
  · rintro ⟨s, record, hs, hid⟩
    exact ⟨record, List.mem_of_getElem? hs, hid⟩

/-- A call that has come back keeps its answer. -/
theorem ending_step {i : Nat} {l l' : Thread} {choice : Choice} {shared' : Shared} {ending : Ending}
    (hmoves : (service settings).Moves c i l choice shared' l') (h : l.ending? = some ending) :
    l'.ending? = some ending := by
  cases threadMove hmoves with
  | worker hmove => cases h
  | call hmove =>
    cases hmove with
    | respond _ => exact h
    | _ => cases h

theorem neverAnswered_before {ending : Ending}
    (hleads : (service settings).Leads Choice.Quiet c c') (h : NeverAnswered c' ending) :
    NeverAnswered c ending := by
  intro l hl hending
  obtain ⟨i, hi⟩ := List.getElem?_of_mem hl
  obtain ⟨l', hl', hending'⟩ : ∃ l', c'.threads[i]? = some l' ∧ l'.ending? = some ending := by
    refine hleads.induct (motive := fun c' => ∃ l', c'.threads[i]? = some l' ∧
      l'.ending? = some ending) ⟨l, hi, hending⟩ ?_ ?_
    · rintro c₁ request - ⟨l', hl', hending'⟩
      have hlt := (List.getElem?_eq_some_iff.mp hl').1
      exact ⟨l', (List.getElem?_append_left hlt).trans hl', hending'⟩
    · rintro c₁ j m choice shared' m' - ⟨l', hl', hending'⟩ - hmoves
      by_cases hj : j = i
      · subst hj
        obtain rfl := Option.some.inj (hmoves.thread.symm.trans hl')
        have hlt := (List.getElem?_eq_some_iff.mp hl').1
        exact ⟨m', by simp [hlt], ending_step hmoves hending'⟩
      · exact ⟨l', (List.getElem?_set_ne hj).trans hl', hending'⟩
  exact h l' (List.mem_of_getElem? hl') hending'

theorem view_of_issued (h : Reachable settings c) (hid : ¬ NeverAnswered c (.submitted id)) :
    c.shared.registry.view id ≠ .unissued := by
  obtain ⟨r, record, hr, rfl⟩ := (issued_iff h).mp hid
  exact Registry.view_ne_unissued (registryOutline_holds h).shared hr

/-! ## Calls that do not overlap -/

/-- Every call about the job that starts after `c` has an answer of one kind. -/
def Later (settings : Settings) (c : Config Shared Thread) (id : JobId)
    (p : Method → Ending → Prop) : Prop :=
  ∀ (c' : Config Shared Thread) (method : Method) (ending : Ending), Calm settings c c' →
    Asked c c' id method ending → p method ending

omit [Kernel] in
/-- The answer shows that the job has ended. -/
def Ending.ShowsEnd : Ending → Prop
  | observed status => terminal status.state = true
  | produced _ => True
  | _ => False

theorem JobView.live_of_showsEnd {view : JobView} {method : Method} {ending : Ending}
    (h : view.answer? method = some ending) (hend : ending.ShowsEnd) :
    ∃ record, view = .live record ∧ terminal record.state = true := by
  cases view with
  | unissued => cases method <;> cases h <;> cases hend
  | gone => cases method <;> cases h <;> cases hend
  | live record =>
    refine ⟨record, rfl, ?_⟩
    cases method with
    | jobStatus =>
      cases h
      exact hend
    | jobResult =>
      obtain rfl := Option.some.inj h
      rcases Ending.ofResult_cases .produced (record.answer fun _ => false) with
        ⟨value, hok, -⟩ | ⟨failure, -, heq⟩
      · rw [(JobRecord.answer_eq_ok hok).1]
        rfl
      · rw [Lookup.finish, heq] at hend
        cases hend
    | jobRelease =>
      obtain rfl := Option.some.inj h
      split at hend <;> cases hend
    | jobCancel => cases h; cases hend
    | _ => cases h

/-- An answer with the code `NotFound` about a record is a failure of the kernel that
`job.result` hands on. -/
theorem JobView.relayed_of_notFound {record : JobRecord} {method : Method} {status : Status}
    (h : (JobView.live record).answer? method = some (.failed (.status status)))
    (hcode : status.code = .notFound) :
    method = .jobResult ∧ terminal record.state = true ∧ record.outcome = status := by
  cases method with
  | jobResult =>
    refine ⟨rfl, ?_⟩
    have hanswer := Option.some.inj h
    rcases Ending.ofResult_cases .produced (record.answer fun _ => false) with
      ⟨value, -, heq⟩ | ⟨failure, herror, heq⟩
    · rw [Lookup.finish, heq] at hanswer
      cases hanswer
    · rw [Lookup.finish, heq] at hanswer
      cases hanswer
      rcases JobRecord.answer_eq_status herror with rfl | rfl | houtcome
      · exact absurd hcode ErrorCode.internal_ne_notFound
      · exact absurd hcode ErrorCode.invalidArgument_ne_notFound
      · exact houtcome
  | jobRelease =>
    have hanswer := Option.some.inj h
    split at hanswer
    · cases hanswer
    · cases hanswer
      exact absurd hcode ErrorCode.invalidArgument_ne_notFound
  | _ => cases h

/-- What the calls about one job have answered that started after `c₀` and came back in `c₁`, and
what the calls will answer that start after `c₁`. -/
structure JobHistory (settings : Settings) (c₀ c₁ : Config Shared Thread) (id : JobId) : Prop where
  /-- Answers stand for views in the order of the calls. -/
  forward : ∀ method ending, Asked c₀ c₁ id method ending →
    Later settings c₁ id fun method' ending' => ∃ view view' : JobView, view ≠ .unissued ∧
      view ≤ view' ∧ view.answer? method = some ending ∧ view'.answer? method' = some ending'
  /-- After an answer that shows an end, one record that has ended gives all answers. -/
  ended : ∀ method ending, Asked c₀ c₁ id method ending → ending.ShowsEnd →
    ∃ record, terminal record.state = true ∧ (JobView.live record).answer? method = some ending ∧
      Later settings c₁ id fun method' ending' =>
        (JobView.live record).answer? method' = some ending' ∨ ending' = missingJob
  /-- The code `NotFound` is final, unless it is the outcome of the job. -/
  notFound : ∀ method status, Asked c₀ c₁ id method (.failed (.status status)) →
    status.code = .notFound →
    (Later settings c₁ id fun _ ending' => ending' = missingJob) ∨
    method = .jobResult ∧ ∃ record, terminal record.state = true ∧ record.outcome = status ∧
      Later settings c₁ id fun method' ending' =>
        (JobView.live record).answer? method' = some ending' ∨ ending' = missingJob

theorem later_of_ended (h : QuietReachable settings c) {record : JobRecord}
    (hterminal : terminal record.state = true) (hview : .live record ≤ c.shared.registry.view id) :
    Later settings c id fun method ending =>
      (JobView.live record).answer? method = some ending ∨ ending = missingJob := by
  intro c' method ending hcalm hasked
  obtain ⟨view, hseen, -, hanswer⟩ := asked_between h hcalm hasked
  rcases JobView.after_ended (le_trans hview hseen) hterminal with
    rfl | ⟨record', rfl, hidentity, hpublished⟩
  · rw [JobView.answer?_missing (Or.inr rfl) hasked.1] at hanswer
    exact Or.inr (Option.some.inj hanswer).symm
  · rw [JobView.answer?_congr hidentity hpublished] at hanswer
    exact Or.inl hanswer

theorem later_of_gone (h : QuietReachable settings c) (hview : .gone ≤ c.shared.registry.view id) :
    Later settings c id fun _ ending => ending = missingJob := by
  intro c' method ending hcalm hasked
  obtain ⟨view, hseen, -, hanswer⟩ := asked_between h hcalm hasked
  rw [JobView.answer?_missing (Or.inr (JobView.eq_gone_of_le (le_trans hview hseen))) hasked.1]
    at hanswer
  exact (Option.some.inj hanswer).symm

theorem jobHistory (h : QuietReachable settings c₀) (hcalm : Calm settings c₀ c₁)
    (hid : ¬ NeverAnswered c₀ (.submitted id)) : JobHistory settings c₀ c₁ id := by
  have h₁ : QuietReachable settings c₁ := Program.Leads.trans h hcalm.leads
  have hview₀ := view_of_issued h.reachable hid
  -- A view that was seen after the identifier was issued is not that of an identifier not issued.
  have hissued : ∀ {view : JobView}, c₀.shared.registry.view id ≤ view → view ≠ .unissued := by
    rintro view hle rfl
    exact hview₀ (JobView.eq_unissued_of_le hle)
  refine ⟨?_, ?_, ?_⟩
  · intro method ending hasked c₂ method' ending' hcalm' hasked'
    obtain ⟨view, hseen, hle, hanswer⟩ := asked_between h hcalm hasked
    obtain ⟨view', hseen', -, hanswer'⟩ := asked_between h₁ hcalm' hasked'
    exact ⟨view, view', hissued hseen, le_trans hle hseen', hanswer, hanswer'⟩
  · intro method ending hasked hend
    obtain ⟨view, -, hle, hanswer⟩ := asked_between h hcalm hasked
    obtain ⟨record, rfl, hterminal⟩ := JobView.live_of_showsEnd hanswer hend
    exact ⟨record, hterminal, hanswer, later_of_ended h₁ hterminal hle⟩
  · intro method status hasked hcode
    obtain ⟨view, hseen, hle, hanswer⟩ := asked_between h hcalm hasked
    cases view with
    | unissued => exact absurd rfl (hissued hseen)
    | gone => exact Or.inl (later_of_gone h₁ hle)
    | live record =>
      obtain ⟨rfl, hterminal, houtcome⟩ := JobView.relayed_of_notFound hanswer hcode
      exact Or.inr ⟨rfl, record, hterminal, houtcome, later_of_ended h₁ hterminal hle⟩

/-! ## Identifiers that were not issued -/

/-- The call asks for something that the service does not have. -/
inductive Misses (settings : Settings) (shared : Shared) (request : Request) : Ending → Prop where
  | job (habout : AboutJob request.method)
      (hfind : shared.registry.find? settings.instanceId request.jobId = none) :
      Misses settings shared request missingJob
  | session (habout : request.method = .sessionClose ∨ request.method = .jobSubmit)
      (hfind : shared.table.findOpen? settings.instanceId request.sessionId = none) :
      Misses settings shared request missingSession

omit [Kernel] in
/-- The stages of a call that finds nothing. -/
def CallStage.Fruitless (request : Request) (ending : Ending) (stage : CallStage) : Prop :=
  stage = .begun ∨ stage = CallStage.enter request.method ∨ stage.ending? = some ending

omit [Kernel] in
theorem CallStage.enter_of_aboutJob {method : Method} (h : AboutJob method) :
    (∃ kind, CallStage.enter method = .lookup kind .entered) ∨
      CallStage.enter method = .release .entered := by
  cases method with
  | jobStatus => exact Or.inl ⟨.status, rfl⟩
  | jobCancel => exact Or.inl ⟨.cancel, rfl⟩
  | jobResult => exact Or.inl ⟨.result, rfl⟩
  | jobRelease => exact Or.inr rfl
  | _ => cases h

theorem fruitless_step {i : Nat} {request : Request} {stage : CallStage} {l' : Thread}
    {choice : Choice} {shared' : Shared} {ending : Ending} (hchoice : choice.Quiet)
    (hdown : c.shared.shuttingDown = false) (hmisses : Misses settings c.shared request ending)
    (hmoves : (service settings).Moves c i (.call request stage) choice shared' l')
    (hstage : stage.Fruitless request ending) :
    shared' = c.shared ∧ ∃ stage', l' = .call request stage' ∧ stage'.Fruitless request ending := by
  cases threadMove hmoves with
  | call hmove =>
    rcases hstage with rfl | rfl | hending
    · cases hmove with
      | refuse _ hdown' => exact absurd (hdown.symm.trans hdown') (by decide)
      | enter _ => exact ⟨rfl, _, rfl, Or.inr (Or.inl rfl)⟩
    · -- Only the missing record is left of what the method can meet.
      cases hmisses with
      | job habout hfind =>
        rcases CallStage.enter_of_aboutJob habout with ⟨kind, henter⟩ | henter <;>
          rw [henter] at hmove
        · cases hmove with
          | lookupMissed hgo _ =>
            obtain rfl := hchoice.eq_go hgo
            exact ⟨rfl, _, rfl, Or.inr (Or.inr rfl)⟩
          | lookupFound hfound => cases hfind.symm.trans hfound
        · cases hmove with
          | releaseMissed hgo _ =>
            obtain rfl := hchoice.eq_go hgo
            exact ⟨rfl, _, rfl, Or.inr (Or.inr rfl)⟩
          | releaseFound _ hfound => cases hfind.symm.trans hfound
      | session hmethod hfind =>
        rcases hmethod with hmethod | hmethod <;> rw [hmethod] at hmove
        · cases hmove with
          | closeMissed hgo _ _ =>
            obtain rfl := hchoice.eq_go hgo
            exact ⟨rfl, _, rfl, Or.inr (Or.inr rfl)⟩
          | closeMarked _ hfound => cases hfind.symm.trans hfound
        · cases hmove with
          | submitMissed hgo _ _ =>
            obtain rfl := hchoice.eq_go hgo
            exact ⟨rfl, _, rfl, Or.inr (Or.inr rfl)⟩
          | submitAdmitted _ hfound => cases hfind.symm.trans hfound
    · cases hmove with
      | respond _ => exact ⟨rfl, _, rfl, Or.inr (Or.inr hending)⟩
      | _ => cases hending

/-- No session or job was issued under the identifier that the call asks for. -/
inductive AsksUnissued (c : Config Shared Thread) (request : Request) : Ending → Prop where
  | job (habout : AboutJob request.method) (hnever : NeverAnswered c (.submitted request.jobId)) :
      AsksUnissued c request missingJob
  | session (habout : request.method = .sessionClose ∨ request.method = .jobSubmit)
      (hnever : NeverAnswered c (.created request.sessionId)) :
      AsksUnissued c request missingSession

theorem AsksUnissued.misses {request : Request} {ending : Ending} (h : Reachable settings c)
    (hasks : AsksUnissued c request ending) : Misses settings c.shared request ending := by
  cases hasks with
  | job habout hnever =>
    refine .job habout ?_
    cases hfind : c.shared.registry.find? settings.instanceId request.jobId with
    | none => rfl
    | some r =>
      have hsound : c.shared.registry.Sound settings := (registryOutline_holds h).shared
      exact absurd hnever ((issued_iff h).mpr ⟨r, (hsound.find?_at hfind).2⟩)
  | session habout hnever =>
    refine .session habout ?_
    cases hfind : c.shared.table.findOpen? settings.instanceId request.sessionId with
    | none => rfl
    | some s =>
      have hsound : c.shared.table.Sound settings := (sessionOutline_holds h).shared.1
      obtain ⟨record, hs, hid, -⟩ := (hsound.findOpen?_at hfind).2
      exact absurd hnever ((session_issued_iff h).mpr ⟨s, record, hs, hid⟩)

theorem AsksUnissued.before {request : Request} {ending : Ending}
    (hleads : (service settings).Leads Choice.Quiet c c') (hasks : AsksUnissued c' request ending) :
    AsksUnissued c request ending := by
  cases hasks with
  | job habout hnever => exact .job habout (neverAnswered_before hleads hnever)
  | session habout hnever => exact .session habout (neverAnswered_before hleads hnever)

theorem Calm.before (hleads : (service settings).Leads Choice.Quiet c c')
    (hrunning : c'.shared.shuttingDown = false) : c.shared.shuttingDown = false := by
  by_contra hdown
  rw [Bool.not_eq_false] at hdown
  have hstays : c'.shared.shuttingDown = true := by
    refine hleads.induct (motive := fun c' => c'.shared.shuttingDown = true) hdown ?_ ?_
    · exact fun _ _ _ ih => ih
    · exact fun _ _ _ _ _ _ _ ih _ hmoves => shuttingDown_step hmoves ih
  exact absurd (hrunning.symm.trans hstays) (by decide)

/-- A call about an identifier that was not issued is told so and changes nothing. -/
theorem unissued_call {acts : List (Act Choice Request)} {i : Nat} {request : Request}
    {stage : CallStage} {ending : Ending} (h : QuietReachable settings c)
    (hacts : ∀ act ∈ acts, act.Allowed Choice.Quiet)
    (hrun : (service settings).run c acts = some c') (hrunning : c'.shared.shuttingDown = false)
    (hbegun : c.threads[i]? = some (.call request .begun))
    (hend : c'.threads[i]? = some (.call request stage))
    (hasks : AsksUnissued c' request ending) :
    (∀ ending', stage.ending? = some ending' → ending' = ending) ∧
      ∀ step ∈ (service settings).own i c acts, step.2 = step.1 := by
  -- Forwards through the stages of the call, although the induction is from its last step.
  have hsteps := Program.own_induct (P := service settings)
    (motive := fun l steps => (∃ stage, l = .call request stage ∧ stage.Fruitless request ending) →
      stage.Fruitless request ending ∧ ∀ step ∈ steps, step.2 = step.1)
    hacts hrun hbegun hend ?_ ?_
  · obtain ⟨hstage, hsame⟩ := hsteps ⟨.begun, rfl, Or.inl rfl⟩
    refine ⟨fun ending' hending => ?_, hsame⟩
    rcases hstage with rfl | rfl | hending'
    · cases hending
    · rw [show (CallStage.enter request.method).ending? = none from
        Thread.ending?_enter request request.method] at hending
      cases hending
    · exact Option.some.inj (hending.symm.trans hending')
  · rintro ⟨stage', heq, hstage⟩
    cases heq
    exact ⟨hstage, by simp⟩
  · rintro c₁ l₁ choice s₂ l₂ steps hc₁ hc' hchoice hmoves ih ⟨stage₁, rfl, hstage₁⟩
    have h₁ : QuietReachable settings c₁ := Program.Leads.trans h hc₁
    obtain ⟨hshared, hstage₂⟩ := fruitless_step (hacts _ hchoice) (Calm.before hc' hrunning)
      ((hasks.before hc').misses h₁.reachable) hmoves hstage₁
    obtain ⟨hstage, hsame⟩ := ih hstage₂
    exact ⟨hstage, List.forall_mem_cons.mpr ⟨hshared, hsame⟩⟩

/-- Identifiers are handed out once. What the calls about a job answer that do not overlap moves
forward, and `NotFound` is final unless it is the outcome of the job. Identifiers of another
instance and the value zero are never issued, and a call about an identifier that was not issued is
told so and changes nothing. -/
theorem job_observations (h : QuietReachable settings c₀) (hcalm : Calm settings c₀ c₁) :
    (c₁.threads.filterMap Thread.submitted).Nodup ∧
    (∀ id, ¬ NeverAnswered c₀ (.submitted id) → JobHistory settings c₀ c₁ id) ∧
    (∀ id : JobId, id.instance' ≠ settings.instanceId ∨ id.value = 0 →
      NeverAnswered c₁ (.submitted id)) ∧
    (∀ id : SessionId, id.instance' ≠ settings.instanceId ∨ id.value = 0 →
      NeverAnswered c₁ (.created id)) ∧
    ∀ (acts : List (Act Choice Request)) (i : Nat) (request : Request) (stage : CallStage)
      (ending : Ending), (∀ act ∈ acts, act.Allowed Choice.Quiet) →
      (service settings).run c₀ acts = some c₁ →
      c₀.threads[i]? = some (.call request .begun) → c₁.threads[i]? = some (.call request stage) →
      AsksUnissued c₁ request ending →
      (∀ ending', stage.ending? = some ending' → ending' = ending) ∧
        ∀ step ∈ (service settings).own i c₀ acts, step.2 = step.1 := by
  have h₁ : QuietReachable settings c₁ := Program.Leads.trans h hcalm.leads
  have hsound : c₁.shared.registry.Sound settings := (registryOutline_holds h₁.reachable).shared
  have hsessions : c₁.shared.table.Sound settings := (sessionOutline_holds h₁.reachable).shared.1
  refine ⟨?_, fun id hid => jobHistory h hcalm hid, ?_, ?_, ?_⟩
  · exact (submitted_perm h₁.reachable).nodup_iff.mpr hsound.ids_nodup
  · intro id hid
    by_contra hissued
    obtain ⟨r, record, hr, rfl⟩ := (issued_iff h₁.reachable).mp hissued
    obtain ⟨hinstance, hvalue, -⟩ := hsound.issued hr
    exact hid.elim (fun hne => hne hinstance) hvalue
  · intro id hid
    by_contra hissued
    obtain ⟨s, record, hs, rfl⟩ := (session_issued_iff h₁.reachable).mp hissued
    have hlt := (List.getElem?_eq_some_iff.mp hs).1
    have hlength := hsessions.length_lt
    rw [hsessions.issued hs] at hid
    refine hid.elim (fun hne => hne rfl) fun hzero => ?_
    have hmax := (SessionTable.ofNat_eq_zero_iff (by omega) (Nat.succ_pos s)).mp hzero
    omega
  · intro acts i request stage ending hacts hrun hbegun hend hasks
    exact unissued_call h hacts hrun hcalm.running hbegun hend hasks

omit [Kernel] in
/-- The first job of `sampleSettings` has been submitted and no allocation has failed. -/
theorem quietReachable_sampleConfig :
    @QuietReachable sampleKernel sampleSettings (@sampleConfig sampleKernel) := by
  let _ : Kernel := sampleKernel
  refine ⟨[.spawn (sampleRequest .sessionCreate), plainMove 2, plainMove 2,
    .move 2 (.compile (.value ())), plainMove 2, .spawn (sampleRequest .jobSubmit), plainMove 3,
    plainMove 3, plainMove 3], ?_, rfl⟩
  simp [plainMove, Act.Allowed, Choice.Quiet]

/-- The kernel has refused to compile the first job. -/
def refusedConfig : Config Shared Thread :=
  { sampleConfig with
    shared := { sampleConfig.shared with
      registry := { sampleConfig.shared.registry with
        records := [⟨⟨7, 1⟩, ⟨7, 1⟩, default, default, .failed, ⟨.notFound, []⟩, false, none⟩]
        queue := [] } } }

theorem calm_refusedConfig : Calm sampleSettings sampleConfig refusedConfig := by
  refine ⟨⟨[plainMove 0, plainMove 0, plainMove 0, .move 0 (.compile (.failure ⟨.notFound, []⟩)),
    plainMove 0], ?_, rfl⟩, rfl⟩
  simp [plainMove, Act.Allowed, Choice.Quiet]

theorem issued_sampleConfig : ¬ NeverAnswered sampleConfig (.submitted ⟨7, 1⟩) := fun hnever =>
  hnever _ (List.mem_of_getElem? (show sampleConfig.threads[3]? = some _ from rfl)) rfl

/-- A call about the first job, made by thread `i`. -/
def askActs (method : Method) (i : Nat) : List (Act Choice Request) :=
  [.spawn (sampleRequest method), plainMove i, plainMove i, plainMove i]

theorem calm_askActs {method : Method} {i : Nat}
    (hrun : (service sampleSettings).run c (askActs method i) = some c')
    (hrunning : c'.shared.shuttingDown = false) : Calm sampleSettings c c' :=
  ⟨⟨_, by simp [askActs, plainMove, Act.Allowed, Choice.Quiet], hrun⟩, hrunning⟩

theorem Calm.trans (h : Calm settings c c₁) (h' : Calm settings c₁ c') : Calm settings c c' :=
  ⟨h.leads.trans h'.leads, h'.running⟩

omit [Kernel] in
/-- A job whose compilation has failed shows its end to a status. -/
theorem job_observations_ended :
    ∃ c₁ s, @Calm sampleKernel sampleSettings (@sampleConfig sampleKernel) c₁ ∧
      Asked (@sampleConfig sampleKernel) c₁ ⟨7, 1⟩ .jobStatus (.observed s) ∧ s.state = .failed ∧
      @JobHistory sampleKernel sampleSettings (@sampleConfig sampleKernel) c₁ ⟨7, 1⟩ := by
  let _ : Kernel := sampleKernel
  have hrun : (service sampleSettings).run refusedConfig (askActs .jobStatus 4) = some _ := rfl
  have hcalm := calm_refusedConfig.trans (calm_askActs hrun rfl)
  exact ⟨_, _, hcalm, ⟨trivial, 4, _, _, by decide, rfl, rfl, rfl, rfl⟩, rfl,
    (job_observations quietReachable_sampleConfig hcalm).2.1 ⟨7, 1⟩ issued_sampleConfig⟩

omit [Kernel] in
/-- The answer `NotFound` of a `job.result` is not final: if the kernel fails with that code, a
later status still finds the job. -/
theorem notFound_not_final :
    ∃ c₁ c₂ status s, @QuietReachable sampleKernel sampleSettings (@sampleConfig sampleKernel) ∧
      @Calm sampleKernel sampleSettings (@sampleConfig sampleKernel) c₁ ∧
      @Calm sampleKernel sampleSettings c₁ c₂ ∧
      ¬ NeverAnswered (@sampleConfig sampleKernel) (.submitted ⟨7, 1⟩) ∧
      Asked (@sampleConfig sampleKernel) c₁ ⟨7, 1⟩ .jobResult (.failed (.status status)) ∧
      status.code = @ErrorCode.notFound sampleKernel ∧
      Asked c₁ c₂ ⟨7, 1⟩ .jobStatus (.observed s) ∧ s.state = .failed := by
  let _ : Kernel := sampleKernel
  let relayed : Config Shared Thread := { refusedConfig with
    threads := refusedConfig.threads ++
      [.call (sampleRequest .jobResult) (.ended (.failed (.status ⟨.notFound, []⟩)))] }
  have hrun : (service sampleSettings).run refusedConfig (askActs .jobResult 4) = some relayed :=
    rfl
  have hrun' : (service sampleSettings).run relayed (askActs .jobStatus 5) = some _ := rfl
  exact ⟨_, _, _, _, quietReachable_sampleConfig,
    calm_refusedConfig.trans (calm_askActs hrun rfl), calm_askActs hrun' rfl, issued_sampleConfig,
    ⟨trivial, 4, _, _, by decide, rfl, rfl, rfl, rfl⟩, rfl,
    ⟨trivial, 5, _, _, by decide, rfl, rfl, rfl, rfl⟩, rfl⟩

end Runs

end PhotospiderDaemon.Orchestration
