import PhotospiderDaemon.Orchestration.Accounting
import PhotospiderDaemon.Orchestration.Ownership

/-!
# Session close against submit

A close marks its session, takes the jobs of the session out of the registry, and erases the
session once these jobs have ended. The three phases are locked separately. What connects them
is that every job in the map belongs to a session in the map, and that a submit publishes only
for a session that is open while it holds `lifecycle_mutex`.

* `new_record`: where a new record comes from.
* `detached_of_reachable`: a record that has not ended is in the map or in the hands of a close.
* `closingOutline`, `closingOutline_preserves`: the invariant and its one-step proof.
* `close_leaves_no_orphans`: the result.
-/

namespace PhotospiderDaemon.Orchestration

open Foundation Ipc

/-! ## What a close has taken -/

/-- After the locked part of `JobRegistry::close_session`: the records taken out of the map that
the close has not seen ended yet. -/
def CloseStage.detached? : CloseStage → Option (List JobRef)
  | settlingQueued _ queued running => some (queued ++ running)
  | cancelling _ r queued running => some (r :: queued ++ running)
  | settlingRunning _ _ running => some running
  | waiting _ running => some running
  | _ => none

def Thread.detached : Thread → List JobRef
  | call _ (.close stage) => stage.detached?.getD []
  | _ => []

namespace Registry

variable {registry registry' : Registry} {owned : List JobRef} {id : SessionId}
    {settings : Settings}

/-- No job of the session is in the map. -/
def NoneOf (registry : Registry) (id : SessionId) : Prop :=
  ∀ (key : UInt64) (r : JobRef), registry.jobs.find? key = some r →
    registry.At r fun record => record.sessionId ≠ id

/-- Every job of the session has ended. -/
def AllEnded (registry : Registry) (id : SessionId) : Prop :=
  ∀ (r : JobRef) (record : JobRecord), registry.records[r]? = some record →
    record.sessionId = id → terminal record.state = true

/-- The new record, if there is one, belongs to another session. -/
def NoNewOf (registry registry' : Registry) (id : SessionId) : Prop :=
  ∀ record, registry'.records[registry.records.length]? = some record → record.sessionId ≠ id

theorem Evolves.at_sessionId {r : JobRef} (h : registry.Evolves owned registry')
    (p : SessionId → Prop) (hr : registry.At r fun record => p record.sessionId) :
    registry'.At r fun record => p record.sessionId := by
  obtain ⟨record, hrecord, hp⟩ := hr
  obtain ⟨record', hrecord', hfollows, -⟩ := h.record hrecord
  refine ⟨record', hrecord', ?_⟩
  dsimp only
  rwa [hfollows.sessionId_eq]

theorem NoneOf.kept (h : registry.NoneOf id) (hevolves : registry.Evolves owned registry')
    (hsound : registry'.Sound settings) (hnew : registry.NoNewOf registry' id) :
    registry'.NoneOf id := by
  intro key r hkey
  rcases hevolves.jobs hkey with hold | rfl
  · exact hevolves.at_sessionId (· ≠ id) (h key r hold)
  · obtain ⟨record, hr, -⟩ := hsound.keyed hkey
    exact ⟨record, hr, hnew record hr⟩

theorem AllEnded.kept (h : registry.AllEnded id) (hevolves : registry.Evolves owned registry')
    (hnew : registry.NoNewOf registry' id) : registry'.AllEnded id := by
  intro (r : Nat) record' hr' hsession
  have hlength := hevolves.length
  have hlt := (List.getElem?_eq_some_iff.mp hr').1
  by_cases hold : r < registry.records.length
  · obtain ⟨later, hlater, hfollows, -⟩ := hevolves.record (List.getElem?_eq_getElem hold)
    cases hlater.symm.trans hr'
    exact hfollows.terminal
      (h r _ (List.getElem?_eq_getElem hold) (hfollows.sessionId_eq.symm.trans hsession))
  · rw [show r = registry.records.length by omega] at hr'
    exact absurd hsession (hnew record' hr')

end Registry

/-- The session of a record is in the map, open or closing. -/
def SessionTable.Present (table : SessionTable) (id : SessionId) : Prop :=
  ∃ s, table.sessions.find? id.value = some s ∧ table.At s fun session => session.id = id

/-- What a thread may rely on about the jobs of the session it closes or has closed. -/
def Thread.ClosingClaim (registry : Registry) : Thread → Prop
  | call request (.close stage) => ∀ detached, stage.detached? = some detached →
      registry.NoneOf request.sessionId ∧
        ∀ r ∈ detached, registry.At r fun record => record.sessionId = request.sessionId
  | call request stage => stage.ending? = some .closed → registry.AllEnded request.sessionId
  | worker _ => True

/-- The proof outline of closing. -/
def closingOutline : Outline Shared Thread where
  shared shared := ∀ key r, shared.registry.jobs.find? key = some r →
    shared.registry.At r fun record => shared.table.Present record.sessionId
  thread _ shared := Thread.ClosingClaim shared.registry
  pair _ _ := True

theorem Thread.ClosingClaim.closed {registry : Registry} {request : Request} {stage : CallStage}
    (h : (Thread.call request stage).ClosingClaim registry)
    (hclosed : stage.ending? = some .closed) : registry.AllEnded request.sessionId := by
  cases stage with
  | ended ending => exact h hclosed
  | returned ending response => exact h hclosed
  | _ => cases hclosed

/-! ## Steps -/

variable [Kernel] {settings : Settings}

section Step

variable {c : Config Shared Thread} {i : Nat} {l l' : Thread} {choice : Choice} {shared' : Shared}

/-- A new record comes from a submit that holds `lifecycle_mutex`, for an open session. -/
theorem new_record (h : Reachable settings c)
    (hmoves : (service settings).Moves c i l choice shared' l') {record : JobRecord}
    (hnew : shared'.registry.records[c.shared.registry.records.length]? = some record) :
    shared'.table = c.shared.table ∧ ∃ s,
      c.shared.table.sessions.find? record.sessionId.value = some s ∧
      c.shared.table.At s fun session => session.id = record.sessionId ∧
        session.closing = false := by
  rcases records_step hmoves with heq | ⟨request, s, session, rfl, hs, -, -, htable, heq⟩
  · rw [List.getElem?_eq_none (Nat.le_of_eq heq)] at hnew
    cases hnew
  · obtain ⟨-, hfind, hat⟩ := (sessionOutline_holds h).thread hmoves.thread
    rw [heq] at hnew
    obtain rfl := Option.some.inj (hnew.symm.trans List.getElem?_concat_length)
    have hid : session.id = request.sessionId := (hat.of_some hs).1
    refine ⟨htable, s, ?_, session, hs, rfl, (hat.of_some hs).2⟩
    change c.shared.table.sessions.find? session.id.value = some s
    rw [hid, hfind]

/-- No new record is published for a session that is marked closing. -/
theorem noNewOf_closing (h : Reachable settings c)
    (hmoves : (service settings).Moves c i l choice shared' l') {s : SessionRef}
    {session : SessionRecord} (hs : c.shared.table.records[s]? = some session)
    (hclosing : session.closing = true) :
    c.shared.registry.NoNewOf shared'.registry session.id := by
  intro record hnew hsession
  obtain ⟨-, s', -, other, hs', hid, hopen⟩ := new_record h hmoves hnew
  obtain rfl := (sessionOutline_holds h).shared.1.ref_eq hs' hs
    (congrArg SessionId.value (hid.trans hsession))
  cases hs.symm.trans hs'
  exact absurd (hclosing.symm.trans hopen) (by decide)

/-- No new record is published for a session that is not in the map. -/
theorem noNewOf_gone (h : Reachable settings c)
    (hmoves : (service settings).Moves c i l choice shared' l') {id : SessionId}
    (hgone : c.shared.table.sessions.find? id.value = none) :
    c.shared.registry.NoNewOf shared'.registry id := by
  rintro record hnew rfl
  obtain ⟨-, s, hfind, -⟩ := new_record h hmoves hnew
  cases hgone.symm.trans hfind

/-- A session leaves the map only at the end of its close. -/
theorem session_stays (hmoves : (service settings).Moves c i l choice shared' l')
    {key : UInt64} {s : SessionRef} (hfind : c.shared.table.sessions.find? key = some s) :
    shared'.table.sessions.find? key = some s ∨
      ∃ request, l = .call request (.close (.waiting s [])) ∧ request.sessionId.value = key := by
  cases threadMove hmoves with
  | worker hmove => cases hmove <;> exact Or.inl hfind
  | @call request _ _ _ hmove =>
    cases hmove with
    | createReserved _ hreserve =>
      obtain ⟨rfl, -⟩ := SessionTable.reserve_eq_ok hreserve
      exact Or.inl hfind
    | createRolledBack _ hdrop =>
      obtain ⟨-, rfl⟩ := SessionTable.dropPending_eq_some hdrop
      exact Or.inl hfind
    | createPublished _ _ hnext _ =>
      refine Or.inl ?_
      change (c.shared.table.sessions.emplace c.shared.table.nextSessionId _).1.find? key = some s
      rw [OrderedMap.find?_emplace _ hnext, if_neg, hfind]
      rintro rfl
      cases hnext.symm.trans hfind
    | closeReopened _ =>
      refine Or.inl ?_
      unfold SessionTable.reopen
      dsimp only
      split <;> exact hfind
    | @closeFinalized s' _ hfind' _ =>
      by_cases hkey : key = request.sessionId.value
      · subst hkey
        cases hfind.symm.trans hfind'
        exact Or.inr ⟨request, rfl, rfl⟩
      · refine Or.inl ?_
        change (c.shared.table.sessions.erase _).find? key = some s
        rw [OrderedMap.find?_erase, if_neg hkey, hfind]
    | _ => exact Or.inl hfind

/-! ## What the registry loses, a close has -/

/-- An entry leaves the map by a release of a record that has ended, or by a close. -/
theorem jobs_step (hmoves : (service settings).Moves c i l choice shared' l')
    (hc : (registryOutline settings True).Holds c) {key : UInt64} {r : JobRef}
    (hfind : c.shared.registry.jobs.find? key = some r)
    (hlive : shared'.registry.At r fun record => terminal record.state = false) :
    shared'.registry.jobs.find? key = some r ∨ r ∈ l'.detached := by
  have hsound : c.shared.registry.Sound settings := hc.shared
  have hclaim := hc.thread hmoves.thread
  cases threadMove hmoves with
  | worker hmove => cases hmove <;> exact Or.inl hfind
  | @call request _ _ _ hmove =>
    cases hmove with
    | closeDrained _ =>
      have hdrained := Registry.drain_spec hsound.keyed request.sessionId
      cases hbelongs : c.shared.registry.belongs request.sessionId r with
      | false => exact Or.inl (hdrained.jobs.mpr ⟨hfind, hbelongs⟩)
      | true =>
        refine Or.inr (List.mem_append.mpr (or_iff_not_imp_left.mpr fun hqueued => ?_))
        exact hdrained.running_iff.mpr ⟨⟨key, hfind⟩, hbelongs, hqueued⟩
    | @submitEnded s session fails _ _ =>
      refine Or.inl ?_
      rcases Registry.submit_cases settings c.shared.registry session.id session.graph
        request.submitOptions fails with ⟨failure, heq⟩ | ⟨failure, heq, -⟩ |
          ⟨heq, -, hfresh, -⟩ <;> rw [heq]
      · exact hfind
      · exact hfind
      · change (c.shared.registry.jobs.emplace c.shared.registry.nextId _).1.find? key = some r
        rw [OrderedMap.find?_emplace _ hfresh, if_neg, hfind]
        rintro rfl
        cases hfresh.symm.trans hfind
    | releaseErased =>
      obtain ⟨-, hfound, record, hr, hterminal⟩ := hclaim
      refine Or.inl ?_
      change (c.shared.registry.jobs.erase _).find? key = some r
      rw [OrderedMap.find?_erase, if_neg, hfind]
      rintro rfl
      cases hfind.symm.trans hfound
      exact absurd (hterminal.symm.trans (hlive.of_some hr)) (by decide)
    | _ => exact Or.inl hfind

/-- A close lets go of a record only when the record has ended. -/
theorem detached_step (hmoves : (service settings).Moves c i l choice shared' l') {r : JobRef}
    (hr : r ∈ l.detached)
    (hlive : shared'.registry.At r fun record => terminal record.state = false) :
    r ∈ l'.detached := by
  cases threadMove hmoves with
  | worker hmove => cases hr
  | call hmove =>
    cases hmove with
    | closeQueuedDone => exact hr
    | closeCancelling _ => exact hr
    | closeSettled hrecord =>
      refine (List.mem_cons.mp hr).resolve_left ?_
      rintro rfl
      cases hlive.of_some (Registry.records_write_self hrecord)
    | closeRequested _ => exact hr
    | closeRunningDone => exact hr
    | closeWaited hrecord hterminal =>
      refine (List.mem_cons.mp hr).resolve_left ?_
      rintro rfl
      exact absurd (hterminal.symm.trans (hlive.of_some hrecord)) (by decide)
    | closeTerminated _ => exact hr
    | _ => cases hr

end Step

/-- A record that has not ended is in the map or in the hands of a close. -/
theorem detached_of_reachable {c : Config Shared Thread} (h : Reachable settings c) :
    Program.Covered
      (fun shared r => shared.registry.At r fun record => terminal record.state = false)
      (fun shared r => ∃ key, shared.registry.jobs.find? key = some r)
      (fun l r => r ∈ l.detached) c := by
  refine Program.Leads.covered h (fun {c₁ i l choice s' l'} hleads _ hmoves r hlive => ?_) ?_
  · have hc := registryOutline_holds hleads
    by_cases hfind : ∃ key, c₁.shared.registry.jobs.find? key = some r
    · obtain ⟨key, hfind⟩ := hfind
      exact (jobs_step hmoves hc hfind hlive).imp (fun hkept => ⟨key, hkept⟩) Or.inl
    by_cases hdetached : r ∈ l.detached
    · exact Or.inr (Or.inl (detached_step hmoves hdetached hlive))
    rcases live_step hmoves hc hlive with hold | ⟨-, hnew⟩
    · exact Or.inr (Or.inr ⟨hold, hfind, hdetached⟩)
    · exact Or.inl hnew
  · rintro r ⟨record, hr, -⟩
    simp [initial, Shared.initial, Registry.initial] at hr

/-! ## The invariant of one step -/

omit [Kernel] in
theorem CloseStage.exists_session {stage : CloseStage} {detached : List JobRef}
    (h : stage.detached? = some detached) : ∃ s, stage.session? = some s := by
  cases stage <;> first | cases h; done | exact ⟨_, rfl⟩

section Outline

variable {c : Config Shared Thread} {i : Nat} {l l' : Thread} {choice : Choice} {shared' : Shared}

theorem closing_shared (h : Reachable settings c)
    (hmoves : (service settings).Moves c i l choice shared' l') (hc : closingOutline.Holds c) :
    closingOutline.shared shared' := by
  have hregistry := registryOutline_holds h
  have hsession := sessionOutline_holds h
  have hevolves := registry_evolves hmoves hregistry
  intro key r hkey
  rcases hevolves.jobs hkey with hold | rfl
  · obtain ⟨record, hr, s, hfind, hid⟩ := hc.shared key r hold
    rcases session_stays hmoves hfind with hstay | ⟨request, rfl, -⟩
    · exact hevolves.at_sessionId shared'.table.Present
        ⟨record, hr, s, hstay, (table_evolves hmoves hsession).id hid⟩
    · -- The close that is about to erase the session has left none of its jobs in the map.
      have hnone := (hc.thread hmoves.thread [] rfl).1
      obtain ⟨-, session, hs, hsessionId, -⟩ := hsession.thread hmoves.thread s rfl
      exact absurd ((hid.of_some hs).symm.trans hsessionId) ((hnone key r hold).of_some hr)
  · obtain ⟨record, hr, -⟩ := (registry_sound hmoves hregistry).keyed hkey
    obtain ⟨htable, s, hfind, session, hs, hid, -⟩ := new_record h hmoves hr
    exact ⟨record, hr, s, htable ▸ hfind, session, htable ▸ hs, hid⟩

/-- When a close erases its session, every job of the session has ended. -/
theorem allEnded_of_waited (h : Reachable settings c) (hc : closingOutline.Holds c)
    {request : Request} {s : SessionRef}
    (hi : c.threads[i]? = some (.call request (.close (.waiting s [])))) :
    c.shared.registry.AllEnded request.sessionId := by
  have hsession := sessionOutline_holds h
  intro r record hr hsessionId
  by_contra hlive
  rw [Bool.not_eq_true] at hlive
  rcases detached_of_reachable h r ⟨record, hr, hlive⟩ with ⟨key, hfind⟩ | ⟨m, hm, hdetached⟩
  · exact absurd hsessionId (((hc.thread hi [] rfl).1 key r hfind).of_some hr)
  -- Another close that has taken the record closes the same session, and there is only one.
  obtain ⟨j, hj⟩ := List.getElem?_of_mem hm
  cases m with
  | worker stage => cases hdetached
  | call request' stage =>
    cases stage with
    | close stage =>
      cases hstage : stage.detached? with
      | none => simp [Thread.detached, hstage] at hdetached
      | some detached =>
        simp only [Thread.detached, hstage, Option.getD_some] at hdetached
        have hother := ((hc.thread hj detached hstage).2 r hdetached).of_some hr
        obtain ⟨s', hs'⟩ := CloseStage.exists_session hstage
        have hfind := (hsession.thread hi s rfl).1
        have hfind' := (hsession.thread hj s' hs').1
        rw [← hother, hsessionId, hfind] at hfind'
        cases hfind'
        by_cases hij : i = j
        · subst hij
          cases hi.symm.trans hj
          cases hstage
          cases hdetached
        · exact hsession.pair hij hi hj s rfl hs'
    | _ => cases hdetached

theorem noNewOf_of_close {request : Request} {stage : CloseStage}
    (hmoves : (service settings).Moves c i (.call request (.close stage)) choice shared' l')
    (id : SessionId) : c.shared.registry.NoNewOf shared'.registry id := by
  intro record hnew
  rcases records_step hmoves with heq | ⟨_, _, _, hl, -⟩
  · rw [List.getElem?_eq_none (Nat.le_of_eq heq)] at hnew
    cases hnew
  · cases hl

theorem closing_own (h : Reachable settings c)
    (hmoves : (service settings).Moves c i l choice shared' l') (hc : closingOutline.Holds c) :
    l'.ClosingClaim shared'.registry := by
  have hregistry := registryOutline_holds h
  have hevolves := registry_evolves hmoves hregistry
  have hsound' := registry_sound hmoves hregistry
  have hclaim := hc.thread hmoves.thread
  -- A close that goes on keeps its claim about the records it still has.
  have hkept : ∀ {request : Request} {stage : CloseStage} {detached detached' : List JobRef},
      l = .call request (.close stage) → stage.detached? = some detached →
      (∀ r ∈ detached', r ∈ detached) → shared'.registry.NoneOf request.sessionId ∧
        ∀ r ∈ detached', shared'.registry.At r fun record =>
          record.sessionId = request.sessionId := by
    rintro request stage detached detached' rfl hdetached hsub
    obtain ⟨hnone, hrecords⟩ := hclaim detached hdetached
    exact ⟨hnone.kept hevolves hsound' (noNewOf_of_close hmoves _), fun r hr =>
      hevolves.at_sessionId (· = request.sessionId) (hrecords r (hsub r hr))⟩
  cases threadMove hmoves with
  | worker hmove => trivial
  | @call request _ _ _ hmove =>
    cases hmove with
    | enter => cases request.method <;> nofun
    | respond _ => exact hclaim
    | closeDrained _ =>
      intro detached hdetached
      cases hdetached
      have hdrained := Registry.drain_spec (Registry.Sound.keyed hregistry.shared) request.sessionId
      refine ⟨fun key r hkey => ?_, fun r hr => ?_⟩
      · obtain ⟨record, hr, -⟩ := hsound'.keyed hkey
        refine ⟨record, hr, fun hsession => ?_⟩
        have hbelongs := Registry.belongs_iff.mpr ⟨record, hr, hsession⟩
        exact absurd ((hdrained.jobs.mp hkey).2.symm.trans hbelongs) (by decide)
      · rcases List.mem_append.mp hr with hqueued | hrunning
        · exact Registry.belongs_iff.mp (List.mem_filter.mp hqueued).2
        · exact Registry.belongs_iff.mp (hdrained.running_iff.mp hrunning).2.1
    | closeQueuedDone | closeCancelling | closeRequested | closeRunningDone =>
      exact fun _ hdetached => hkept rfl rfl (by cases hdetached; exact fun _ => id)
    | closeSettled | closeWaited =>
      exact fun _ hdetached =>
        hkept rfl rfl (by cases hdetached; exact fun _ => List.mem_cons_of_mem _)
    | closeFinalized _ _ _ => exact fun _ => allEnded_of_waited h hc hmoves.thread
    | closeTerminated _ => exact hclaim
    | submitEnded _ _ =>
      exact fun hclosed => absurd (Option.some.inj hclosed) (Ending.ofResult_ne nofun nofun)
    | @lookupFinished kind r record fails _ _ =>
      rcases kind.finish_cases record fails with ⟨failure, heq⟩ | ⟨status, -, -, heq⟩ |
        ⟨-, heq⟩ | ⟨result, -, -, heq⟩ <;> rw [heq] <;> nofun
    | _ => nofun

/-- The steps of others publish nothing for a session that is being closed or is gone. -/
theorem closing_other (h : Reachable settings c)
    (hmoves : (service settings).Moves c i l choice shared' l') (hc : closingOutline.Holds c)
    {j : Nat} {m : Thread} (hj : c.threads[j]? = some m) : m.ClosingClaim shared'.registry := by
  have hregistry := registryOutline_holds h
  have hevolves := registry_evolves hmoves hregistry
  have hsound' := registry_sound hmoves hregistry
  have hsession := (sessionOutline_holds h).thread hj
  have hclaim := hc.thread hj
  cases m with
  | worker stage => trivial
  | call request stage =>
    cases stage with
    | close stage =>
      intro detached hdetached
      obtain ⟨hnone, hrecords⟩ := hclaim detached hdetached
      obtain ⟨s, hs⟩ := CloseStage.exists_session hdetached
      obtain ⟨-, session, hrecord, hid, hclosing⟩ := hsession s hs
      have hnew := noNewOf_closing h hmoves hrecord hclosing
      rw [hid] at hnew
      exact ⟨hnone.kept hevolves hsound' hnew, fun r hr =>
        hevolves.at_sessionId (· = request.sessionId) (hrecords r hr)⟩
    | ended ending =>
      exact fun hclosed => (hclaim hclosed).kept hevolves
        (noNewOf_gone h hmoves (hsession hclosed).1)
    | returned ending response =>
      exact fun hclosed => (hclaim hclosed).kept hevolves
        (noNewOf_gone h hmoves (hsession hclosed).1)
    | _ => nofun

end Outline

theorem closingOutline_preserves (settings : Settings) :
    (service settings).Preserves (fun _ => True) (Reachable settings) closingOutline where
  symm _ := trivial
  start _ _ _ := nofun
  start_pair _ _ := trivial
  own _ hmoves h hc := ⟨closing_shared h hmoves hc, closing_own h hmoves hc⟩
  other _ hmoves h hc _ hj := ⟨closing_other h hmoves hc hj, trivial⟩

/-- The outline holds in every reachable configuration. -/
theorem closingOutline_holds {c : Config Shared Thread} (h : Reachable settings c) :
    closingOutline.Holds c := by
  refine (closingOutline_preserves settings).holds (fun h => h) ⟨?_, ?_, fun _ _ _ => trivial⟩ h
  · intro key r hkey
    simp [initial, Shared.initial, Registry.initial] at hkey
  · intro i l hi
    obtain rfl := eq_idle_of_initial hi
    trivial

/-! ## No orphans -/

section Orphans

variable {c c' : Config Shared Thread}

/-- A session that has left the map does not come back. -/
theorem gone_of_leads (h : Reachable settings c)
    (hleads : (service settings).Leads (fun _ => True) c c') {id : SessionId} {s : SessionRef}
    (hgone : c.shared.table.sessions.find? id.value = none)
    (hs : c.shared.table.At s fun session => session.id = id) :
    c'.shared.table.sessions.find? id.value = none := by
  refine (hleads.induct (motive := fun c' => c'.shared.table.sessions.find? id.value = none ∧
    c'.shared.table.At s fun session => session.id = id) ⟨hgone, hs⟩ ?_ ?_).1
  · exact fun _ _ _ ih => ih
  · rintro c₁ i l choice shared' l' hc₁ ⟨hgone₁, session, hs₁, hid⟩ - hmoves
    have hevolves := table_evolves hmoves (sessionOutline_holds (h.trans hc₁))
    exact ⟨hevolves.gone hgone₁ ⟨session, hs₁, congrArg SessionId.value hid⟩,
      hevolves.id ⟨session, hs₁, hid⟩⟩

/-- No submit succeeds for a session that has been closed. -/
theorem noNewSubmit_of_gone (h : Reachable settings c)
    (hleads : (service settings).Leads (fun _ => True) c c') {id : SessionId} {s : SessionRef}
    (hgone : c.shared.table.sessions.find? id.value = none)
    (hs : c.shared.table.At s fun session => session.id = id) :
    NoNewSubmit (fun request => request.sessionId = id) c c' := by
  refine noNewSubmit_of_leads hleads ?_
  rintro c₁ i request s' hc₁ rfl hi
  obtain ⟨-, hfind, -⟩ := (sessionOutline_holds (h.trans hc₁)).thread hi
  cases (gone_of_leads h hc₁ hgone hs).symm.trans hfind

/-- Every job in the map or in the queue belongs to a session in the map, no job is published
for a session that is marked closing, and a close that has succeeded leaves nothing behind. -/
theorem close_leaves_no_orphans (h : Reachable settings c) :
    (∀ key r, c.shared.registry.jobs.find? key = some r →
      c.shared.registry.At r fun record => c.shared.table.Present record.sessionId) ∧
    (∀ r ∈ c.shared.registry.queue,
      c.shared.registry.At r fun record => c.shared.table.Present record.sessionId) ∧
    (∀ i l choice shared' l' (s : SessionRef) (session : SessionRecord),
      (service settings).Moves c i l choice shared' l' → c.shared.table.records[s]? = some session →
        session.closing = true →
      c.shared.registry.NoNewOf shared'.registry session.id ∧
        shared'.registry.records.length ≤ c.shared.registry.records.length + 1) ∧
    ∀ request stage, .call request stage ∈ c.threads → stage.ending? = some .closed →
      c.shared.registry.NoneOf request.sessionId ∧
      (∀ r ∈ c.shared.registry.queue,
        c.shared.registry.At r fun record => record.sessionId ≠ request.sessionId) ∧
      c.shared.registry.AllEnded request.sessionId ∧
      ∀ c', (service settings).Leads (fun _ => True) c c' →
        NoNewSubmit (fun request' => request'.sessionId = request.sessionId) c c' := by
  have hclosing := closingOutline_holds h
  have hregistry := registryOutline_holds h
  have hsession := sessionOutline_holds h
  have hsound : c.shared.registry.Sound settings := hregistry.shared
  -- Whatever holds of the records in the map holds of those in the queue.
  have hqueue : ∀ {p : JobRecord → Prop}, (∀ key r, c.shared.registry.jobs.find? key = some r →
      c.shared.registry.At r p) → ∀ r ∈ c.shared.registry.queue, c.shared.registry.At r p := by
    intro p hp r hr
    obtain ⟨record, -, -, hfind⟩ := hsound.queued r hr
    exact hp record.id.value r hfind
  refine ⟨hclosing.shared, hqueue hclosing.shared, ?_, ?_⟩
  · intro i l choice shared' l' s session hmoves hs hmarked
    exact ⟨noNewOf_closing h hmoves hs hmarked, (registry_evolves hmoves hregistry).length⟩
  · intro request stage hmem hclosed
    obtain ⟨i, hi⟩ := List.getElem?_of_mem hmem
    obtain ⟨hgone, s, hs⟩ := Thread.SessionClaim.closed (hsession.thread hi) hclosed
    have hnone : c.shared.registry.NoneOf request.sessionId := by
      intro key r hkey
      refine (hclosing.shared key r hkey).imp fun record hpresent hid => ?_
      obtain ⟨s', hfind, -⟩ := hpresent
      cases hgone.symm.trans (hid ▸ hfind)
    exact ⟨hnone, hqueue hnone, Thread.ClosingClaim.closed (hclosing.thread hi) hclosed,
      fun c' hleads => noNewSubmit_of_gone h hleads hgone hs⟩

end Orphans

omit [Kernel] in
/-- The first session is closed while its only job waits in the queue. -/
theorem close_leaves_no_orphans_queued :
    ∃ c, @Reachable sampleKernel sampleSettings c ∧ c.shared.registry.records.length = 1 ∧
      c.shared.registry.NoneOf ⟨7, 1⟩ ∧ c.shared.registry.AllEnded ⟨7, 1⟩ := by
  let _ : Kernel := sampleKernel
  have hreachable := reachable_sampleConfig.run
    (.spawn (sampleRequest .sessionClose) :: List.replicate 8 (plainMove 4)) rfl
  have hclosed := (close_leaves_no_orphans hreachable).2.2.2 (sampleRequest .sessionClose)
    (.ended .closed) (List.mem_of_getElem? (i := 4) rfl) rfl
  exact ⟨_, hreachable, rfl, hclosed.1, hclosed.2.2.1⟩

end PhotospiderDaemon.Orchestration
