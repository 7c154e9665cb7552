import PhotospiderDaemon.Server.Admission

/-!
# Slots are settled exactly once

* `spans`: `run()` and the destructor do not overlap. `books`: the ledger is sound and every thread
  knows its part of it. `endings`: what has been joined when one of them has returned.
* `slots_settled`: the result for every configuration that can be reached.
-/

namespace PhotospiderDaemon.Server.Connections

open Foundation Ipc Orchestration

/-! ## The calls of `run()` and of the destructor -/

/-- `run()` has begun and not returned. -/
def RunStage.active : RunStage → Bool
  | entering | thrown | ended => false
  | _ => true

/-- The stages of the destructor. -/
def RunStage.last : RunStage → Bool
  | entering | stopping _ none | joining _ none | ended => true
  | _ => false

/-- The part of the lifetime of the server that a thread is working in. -/
def Thread.span : Thread → Option Lifetime
  | run stage => if stage.active then some .running else none
  | destroy .entering => none
  | destroy _ => some .destroyed
  | _ => none

def Thread.runs : Thread → Bool
  | run _ => true
  | _ => false

/-- What a thread knows of the lifetime. -/
structure Spanned (s : Impl) (l : Thread) : Prop where
  span : ∀ {lifetime : Lifetime}, l.span = some lifetime → s.lifetime = lifetime
  last : ∀ {stage : RunStage}, l = .destroy stage → stage.last = true

theorem lifetime_stop {i : Nat} {s s' : Impl} {stage stage' : StopStage}
    (h : StopMove i s stage s' stage') : s'.lifetime = s.lifetime := by
  cases h <;> rfl

/-- A step of `run()` begins it, ends it or goes on. -/
theorem span_of_runMove {i : Nat} {s s' : Impl} {stage stage' : RunStage}
    (h : RunMove i s stage s' stage') :
    s'.lifetime = s.lifetime ∧ stage'.active = stage.active ∨
      s.lifetime = .idle ∧ s'.lifetime = .running ∧ stage.active = false ∧ stage'.active = true ∨
        stage.active = true ∧ stage'.active = false := by
  cases h with
  | advance hadvance => cases hadvance <;> exact Or.inl ⟨rfl, rfl⟩
  | begin hlifetime hstopping => exact Or.inr (Or.inl ⟨hlifetime, rfl, rfl, rfl⟩)
  | throws | throwPeer | throwFull | leave => exact Or.inr (Or.inr ⟨rfl, rfl⟩)
  | failing hmove | stop hmove => exact Or.inl ⟨lifetime_stop hmove, rfl⟩
  | _ => exact Or.inl ⟨rfl, rfl⟩

/-- A step of the destructor goes on with it. -/
theorem last_of_runMove {i : Nat} {s s' : Impl} {stage stage' : RunStage}
    (h : RunMove i s stage s' stage') (hlast : stage.last = true) (hentering : stage ≠ .entering)
    (hlifetime : s.lifetime = .destroyed) : s'.lifetime = .destroyed ∧ stage'.last = true := by
  cases h with
  | advance hadvance =>
    cases hadvance with
    | idle => exact absurd rfl hentering
    | _ => cases hlast
  | begin => exact absurd rfl hentering
  | @stop _ _ _ held hmove =>
    cases held with
    | none => exact ⟨(lifetime_stop hmove).trans hlifetime, rfl⟩
    | some => cases hlast
  | @swap held =>
    cases held with
    | none => exact ⟨hlifetime, rfl⟩
    | some => cases hlast
  | @join _ _ held =>
    cases held with
    | none => exact ⟨hlifetime, rfl⟩
    | some => cases hlast
  | @leave held =>
    cases held with
    | none =>
      refine ⟨?_, rfl⟩
      show (if s.lifetime = .running then Lifetime.idle else s.lifetime) = _
      rw [hlifetime]
      rfl
    | some => cases hlast
  | _ => cases hlast

theorem span_ne_idle {l : Thread} : l.span ≠ some .idle := by
  cases l with
  | run stage =>
    show (if stage.active then some Lifetime.running else none) ≠ _
    split <;> rintro ⟨⟩
  | destroy stage => cases stage <;> rintro ⟨⟩
  | launched | handler | stop | elsewhere => rintro ⟨⟩

theorem lifetime_handlerMove [Kernel] {i : Nat} {s s' : Impl} {connection : UniqueDescriptor}
    {handler handler' : Handler} {stage stage' : HandlerStage}
    (h : HandlerMove i s connection handler stage s' handler' stage') :
    s'.lifetime = s.lifetime := by
  cases h with
  | stop hmove => exact lifetime_stop hmove
  | _ => rfl

/-- `run()` and the destructor do not overlap, and `run()` has one thread. -/
def spans : Outline Impl Thread where
  shared _ := True
  thread _ s l := Spanned s l
  pair l m := (l.span = none ∨ m.span = none) ∧ (l.runs = false ∨ m.runs = false)

variable [Kernel]

/-- What a step does to the part of the lifetime that its thread is working in. -/
theorem span_of_moves {c : Config Impl Thread} {i : Nat} {l l' : Thread} {choice : Choice}
    {s' : Impl} (hmoves : server.Moves c i l choice s' l') (hl : Spanned c.shared l) :
    Spanned s' l' ∧ l'.runs = l.runs ∧
      (s'.lifetime = c.shared.lifetime ∧ l'.span = l.span ∨
        c.shared.lifetime = .idle ∧ l.span = none ∨ l.span ≠ none ∧ l'.span = none) := by
  cases threadMove hmoves with
  | @run stage stage' _ hmove =>
    have hspan : ∀ stage : RunStage,
        (Thread.run stage).span = if stage.active then some .running else none := fun _ => rfl
    rcases span_of_runMove hmove with ⟨hlifetime, hactive⟩ | ⟨hidle, hrunning, hbefore, hafter⟩ |
      ⟨hbefore, hafter⟩
    · have hsame : (Thread.run stage').span = (Thread.run stage).span := by
        rw [hspan, hspan, hactive]
      refine ⟨⟨fun h => ?_, by rintro _ ⟨⟩⟩, rfl, Or.inl ⟨hlifetime, hsame⟩⟩
      exact hlifetime.trans (hl.span (hsame ▸ h))
    · refine ⟨⟨fun h => ?_, by rintro _ ⟨⟩⟩, rfl, Or.inr (Or.inl ⟨hidle, ?_⟩)⟩
      · rw [hspan, hafter] at h
        cases h
        exact hrunning
      · rw [hspan, hbefore]
        rfl
    · have hnone : (Thread.run stage').span = none := by
        rw [hspan, hafter]
        rfl
      refine ⟨⟨fun h => ?_, by rintro _ ⟨⟩⟩, rfl, Or.inr (Or.inr ⟨?_, hnone⟩)⟩
      · rw [hnone] at h
        cases h
      · rw [hspan, hbefore]
        rintro ⟨⟩
  | destroy hlifetime =>
    refine ⟨⟨?_, ?_⟩, rfl, Or.inr (Or.inl ⟨hlifetime, rfl⟩)⟩
    · rintro _ ⟨⟩
      rfl
    · rintro _ ⟨⟩
      rfl
  | @destroying stage stage' _ hstage hmove =>
    have hspan : ∀ stage : RunStage, stage ≠ .entering →
        (Thread.destroy stage).span = some .destroyed := by
      intro stage hne
      cases stage with
      | entering => exact absurd rfl hne
      | _ => rfl
    have hlifetime := hl.span (hspan stage hstage)
    obtain ⟨hafter, hlast⟩ := last_of_runMove hmove (hl.last rfl) hstage hlifetime
    have hstage' : stage' ≠ .entering := by
      rintro rfl
      cases hmove with
      | advance hadvance => cases hadvance
    have hsame : (Thread.destroy stage').span = (Thread.destroy stage).span := by
      rw [hspan stage hstage, hspan stage' hstage']
    refine ⟨⟨fun h => ?_, ?_⟩, rfl, Or.inl ⟨hafter.trans hlifetime.symm, hsame⟩⟩
    · rw [hspan stage' hstage'] at h
      cases h
      exact hafter
    · rintro _ ⟨⟩
      exact hlast
  | begin | openFile | closeFile =>
    exact ⟨⟨by rintro _ ⟨⟩, by rintro _ ⟨⟩⟩, rfl, Or.inl ⟨rfl, rfl⟩⟩
  | handler hmove =>
    exact ⟨⟨by rintro _ ⟨⟩, by rintro _ ⟨⟩⟩, rfl, Or.inl ⟨lifetime_handlerMove hmove, rfl⟩⟩
  | stop hmove => exact ⟨⟨by rintro _ ⟨⟩, by rintro _ ⟨⟩⟩, rfl, Or.inl ⟨lifetime_stop hmove, rfl⟩⟩

theorem preserves_spans : server.Preserves (fun _ => True) (fun _ => True) spans where
  symm h := ⟨h.1.symm, h.2.symm⟩
  start request _ _ := by
    cases request with
    | destroy =>
      refine ⟨by rintro _ ⟨⟩, ?_⟩
      rintro _ ⟨⟩
      rfl
    | _ => exact ⟨by rintro _ ⟨⟩, by rintro _ ⟨⟩⟩
  start_pair request l := by cases request <;> exact ⟨Or.inl rfl, Or.inl rfl⟩
  own _ hmoves _ hc := ⟨trivial, (span_of_moves hmoves (hc.thread hmoves.thread)).1⟩
  other {c i l choice s' l' j m} _ hmoves _ hc hne hj := by
    obtain ⟨_, hruns, hspan⟩ := span_of_moves hmoves (hc.thread hmoves.thread)
    obtain ⟨hpair, hpairRuns⟩ := hc.pair hne hmoves.thread hj
    have hm : Spanned c.shared m := hc.thread hj
    have hnone : c.shared.lifetime = .idle → m.span = none := by
      intro hidle
      cases hspan : m.span with
      | none => rfl
      | some lifetime =>
        have heq := hm.span hspan
        rw [hidle] at heq
        exact absurd (heq ▸ hspan) span_ne_idle
    rw [← hruns] at hpairRuns
    rcases hspan with ⟨hlifetime, hsame⟩ | ⟨hidle, _⟩ | ⟨hbefore, hafter⟩
    · exact ⟨⟨fun h => hlifetime.trans (hm.span h), hm.last⟩, hsame ▸ hpair, hpairRuns⟩
    · refine ⟨⟨fun h => ?_, hm.last⟩, Or.inr (hnone hidle), hpairRuns⟩
      rw [hnone hidle] at h
      cases h
    · refine ⟨⟨fun h => ?_, hm.last⟩, Or.inl hafter, hpairRuns⟩
      rw [hpair.resolve_left hbefore] at h
      cases h

variable {listener : Nat} {maximum : UInt32} {c : Config Impl Thread}

theorem holds_spans (h : Reachable listener maximum c) : spans.Holds c := by
  refine preserves_spans.holds (fun _ => trivial) (.singleton trivial ⟨?_, ?_⟩) h
  · rintro _ ⟨⟩
  · rintro _ ⟨⟩

/-! ## The books -/

omit [Kernel] in
/-- Only `run()` and the destructor have to do with the admission. -/
theorem span_of_charge {l : Thread} {id : Nat} {charge : Charge}
    (hcharge : l.duty.charge = some (id, charge)) (haccepting : charge.accepting = true) :
    l.span ≠ none := by
  cases l with
  | run stage =>
    cases stage with
    | entering | thrown | ended => cases hcharge
    | _ => rintro ⟨⟩
  | destroy stage =>
    cases stage with
    | entering => cases hcharge
    | _ => rintro ⟨⟩
  | handler thread =>
    cases hcharge
    cases hstage : thread.stage <;> rw [hstage] at haccepting <;> cases haccepting
  | launched | stop | elsewhere => cases hcharge

def books : Outline Impl Thread where
  shared s := s.ledger.Sound
  thread _ s l := l.duty.Fits s.ledger
  pair l m := l.duty.Apart m.duty

theorem preserves_books : server.Preserves (fun _ => True) spans.Holds books where
  symm h := ⟨fun hcharge hcharge' => (h.charge hcharge' hcharge).symm,
    fun hid hid' => h.owned hid' hid⟩
  start request _ _ := by cases request <;> exact Ledger.fits_none
  start_pair request l := by
    cases request <;> exact ⟨by rintro id id' charge charge' ⟨⟩, by rintro id ⟨⟩⟩
  own _ hmoves _ hc := by
    have hstep := ledgerStep_of_moves hmoves
    have hfits := hc.thread hmoves.thread
    exact ⟨hc.shared.step hstep hfits, Ledger.fits_own hc.shared hstep hfits⟩
  other _ hmoves hspans hc hne hj := by
    have hstep := ledgerStep_of_moves hmoves
    have hfits := hc.thread hmoves.thread
    have happart := hc.pair hne hmoves.thread hj
    have hspares := Ledger.spares_of_step hc.shared hstep hfits
    refine ⟨Ledger.fits_other hfits hspares (hc.thread hj) happart ?_,
      Ledger.apart_step hstep (hc.thread hj) happart⟩
    intro id id' hown hother
    exact (hspans.pair hne hmoves.thread hj).1.elim (span_of_charge hown rfl)
      (span_of_charge hother rfl)

theorem holds_books (h : Reachable listener maximum c) : books.Holds c := by
  refine preserves_books.holds holds_spans (.singleton ?_ Ledger.fits_none) h
  refine ⟨rfl, ?_, List.nodup_nil, ?_, ?_⟩
  · show (0 : UInt32) ≤ maximum
    exact UInt32.zero_le
  · rintro id (hid | hid) <;> cases hid
  · rintro id t ⟨⟩

/-- The records that are still to be joined are in `handlers`, or a thread is joining them. -/
theorem exists_owner (h : Reachable listener maximum c) {id : Nat} {t : Tally}
    (ht : c.shared.ledger.tallies[id]? = some t) (hlaunches : t.launches = 1)
    (hjoins : t.joins = 0) :
    id ∈ c.shared.handlers ∨ ∃ l ∈ c.threads, id ∈ l.duty.owned := by
  have hcovered : Program.Covered
      (fun (s : Impl) (id : Nat) =>
        ∃ t, s.ledger.tallies[id]? = some t ∧ t.launches = 1 ∧ t.joins = 0)
      (fun s id => id ∈ s.handlers) (fun (l : Thread) id => id ∈ l.duty.owned) c := by
    refine Program.Leads.covered h (fun hleads _ hmoves id hneed => ?_) ?_
    · obtain ⟨t, ht, hlaunches, hjoins⟩ := hneed
      exact Ledger.owned_step (ledgerStep_of_moves hmoves)
        ((holds_books hleads).thread hmoves.thread) ht hlaunches hjoins
    · rintro id ⟨t, ⟨⟩, _⟩
  exact hcovered id ⟨t, ht, hlaunches, hjoins⟩

/-- A connection with a slot or a handler has a thread, or a closure has it. -/
theorem exists_charge (h : Reachable listener maximum c) {id : Nat} {t : Tally}
    (ht : c.shared.ledger.tallies[id]? = some t) (hneed : t.slot = true ∨ t.launches = 1) :
    t.starting = true ∨ ∃ l ∈ c.threads, ∃ charge, l.duty.charge = some (id, charge) := by
  have hcovered : Program.Covered
      (fun (s : Impl) (id : Nat) =>
        ∃ t, s.ledger.tallies[id]? = some t ∧ (t.slot = true ∨ t.launches = 1))
      (fun s id => ∃ t, s.ledger.tallies[id]? = some t ∧ t.starting = true)
      (fun (l : Thread) id => ∃ charge, l.duty.charge = some (id, charge)) c := by
    refine Program.Leads.covered h (fun hleads _ hmoves id hneed => ?_) ?_
    · obtain ⟨t, ht, hneed⟩ := hneed
      have hc := holds_books hleads
      rcases Ledger.charged_step hc.shared (ledgerStep_of_moves hmoves) (hc.thread hmoves.thread) ht
        hneed with hstarting | hcharge | ⟨t', ht', hneed', hstarting, hcharge⟩
      · exact Or.inl ⟨t, ht, hstarting⟩
      · exact Or.inr (Or.inl hcharge)
      · refine Or.inr (Or.inr ⟨⟨t', ht', hneed'⟩, ?_, not_exists.mpr hcharge⟩)
        rintro ⟨t'', ht'', hstarting''⟩
        cases ht'.symm.trans ht''
        rw [hstarting] at hstarting''
        cases hstarting''
    · rintro id ⟨t, ⟨⟩, _⟩
  refine (hcovered id ⟨t, ht, hneed⟩).imp_left ?_
  rintro ⟨t', ht', hstarting⟩
  cases ht.symm.trans ht'
  exact hstarting

/-! ## Returning -/

/-- What `run()` and the destructor know of the records: before the accept loop there is none, the
joining has taken them all, and afterwards every handler has been joined. -/
def Ending (s : Impl) : Thread → Prop
  | .run .entering | .run .ended | .destroy .ended => s.ledger.Joined
  | .run (.joining _ _) | .destroy (.joining _ _) => s.handlers = []
  | _ => True

def endings : Outline Impl Thread where
  shared _ := True
  thread _ s l := Ending s l
  pair _ _ := True

omit [Kernel] in
/-- A thread that owns records is joining them. -/
theorem span_of_owned {l : Thread} {id : Nat} (hid : id ∈ l.duty.owned) : l.span ≠ none := by
  cases l with
  | run stage | destroy stage =>
    cases stage with
    | joining => rintro ⟨⟩
    | _ => cases hid
  | handler | launched | stop | elsewhere => cases hid

/-- When the joining is over, every handler has been joined. -/
theorem joined_of_joining (h : Reachable listener maximum c) {i : Nat} {l : Thread}
    (hl : c.threads[i]? = some l) (hspan : l.span ≠ none) (howned : l.duty.owned = [])
    (hhandlers : c.shared.handlers = []) : c.shared.ledger.Joined := by
  intro id t ht hlaunches
  have hle := ((holds_books h).shared.tally ht).joins
  by_contra hjoins
  rcases exists_owner h ht hlaunches (by omega) with hmem | ⟨m, hm, hid⟩
  · rw [hhandlers] at hmem
    cases hmem
  · obtain ⟨j, hj⟩ := List.getElem?_of_mem hm
    by_cases hne : i = j
    · subst hne
      cases hl.symm.trans hj
      rw [howned] at hid
      cases hid
    · exact ((holds_spans h).pair hne hl hj).1.elim hspan (span_of_owned hid)

omit [Kernel] in
/-- `run()` and the destructor return without an accept loop or from the joining, and the joining
begins with no record left. -/
theorem ending_of_runMove {i : Nat} {s s' : Impl} {stage stage' : RunStage}
    (h : RunMove i s stage s' stage') :
    (stage' = .ended → stage = .entering ∨ ∃ held, stage = .joining [] held) ∧
      ∀ owned held, stage' = .joining owned held →
        s'.handlers = [] ∨ (∃ owned', stage = .joining owned' held) ∧ s'.handlers = s.handlers := by
  cases h with
  | advance hadvance =>
    cases hadvance with
    | idle => exact ⟨fun _ => Or.inl rfl, by rintro _ _ ⟨⟩⟩
    | _ => exact ⟨by rintro ⟨⟩, by rintro _ _ ⟨⟩⟩
  | leave => exact ⟨fun _ => Or.inr ⟨_, rfl⟩, by rintro _ _ ⟨⟩⟩
  | swap => exact ⟨by rintro ⟨⟩, fun _ _ _ => Or.inl rfl⟩
  | join =>
    refine ⟨by rintro ⟨⟩, ?_⟩
    rintro _ _ ⟨⟩
    exact Or.inr ⟨⟨_, rfl⟩, rfl⟩
  | _ => exact ⟨by rintro ⟨⟩, by rintro _ _ ⟨⟩⟩

/-- A step that ends or goes on with the joining. -/
theorem ending_own (h : Reachable listener maximum c) {i : Nat} {l l' : Thread} {choice : Choice}
    {s' : Impl} (hmoves : server.Moves c i l choice s' l') (hl : Ending c.shared l) :
    Ending s' l' := by
  have hc := holds_books h
  have hjoined : c.shared.ledger.Joined → (∀ id, l.duty.charge ≠ some (id, .reserved)) →
      s'.ledger.Joined := fun hall =>
    hall.step hc.shared (ledgerStep_of_moves hmoves) (hc.thread hmoves.thread)
  cases threadMove hmoves with
  | @run stage stage' _ hmove =>
    obtain ⟨hended, hjoining⟩ := ending_of_runMove hmove
    cases stage' with
    | ended =>
      rcases hended rfl with rfl | ⟨held, rfl⟩
      · exact hjoined hl (by rintro id ⟨⟩)
      · refine hjoined (joined_of_joining h hmoves.thread (by rintro ⟨⟩) rfl hl) fun id
          hcharge => ?_
        obtain ⟨_, _, heq⟩ := Option.map_eq_some_iff.mp hcharge
        cases heq
    | joining owned held =>
      rcases hjoining owned held rfl with hnil | ⟨⟨owned', rfl⟩, hsame⟩
      · exact hnil
      · exact hsame.trans hl
    | entering =>
      cases hmove with
      | advance hadvance => cases hadvance
    | _ => trivial
  | destroy hlifetime => trivial
  | @destroying stage stage' _ hstage hmove =>
    obtain ⟨hended, hjoining⟩ := ending_of_runMove hmove
    cases stage' with
    | ended =>
      rcases hended rfl with rfl | ⟨held, rfl⟩
      · exact absurd rfl hstage
      · refine hjoined (joined_of_joining h hmoves.thread (by rintro ⟨⟩) rfl hl) fun id
          hcharge => ?_
        obtain ⟨_, _, heq⟩ := Option.map_eq_some_iff.mp hcharge
        cases heq
    | joining owned held =>
      rcases hjoining owned held rfl with hnil | ⟨⟨owned', rfl⟩, hsame⟩
      · exact hnil
      · exact hsame.trans hl
    | _ => trivial
  | begin | handler | stop | openFile | closeFile => trivial

/-- Nobody starts a handler beside a thread that relies on it. -/
theorem not_reserved (h : Reachable listener maximum c) {i j : Nat} {l m : Thread} (hne : i ≠ j)
    (hl : c.threads[i]? = some l) (hm : c.threads[j]? = some m)
    (hrelies : m.span ≠ none ∨ m.runs = true) {id : Nat} :
    l.duty.charge ≠ some (id, .reserved) := by
  intro hcharge
  have hspans := holds_spans h
  obtain ⟨hspan, hruns⟩ := hspans.pair hne hl hm
  have hbusy := span_of_charge hcharge rfl
  rcases hrelies with hrelies | hrelies
  · exact hspan.elim hbusy hrelies
  · rw [hrelies] at hruns
    cases l with
    | run stage => simp [Thread.runs] at hruns
    | destroy stage =>
      have hlast := (hspans.thread hl).last rfl
      cases stage with
      | stopping _ held | joining _ held =>
        cases held with
        | none => cases hcharge
        | some => cases hlast
      | entering | ended => cases hcharge
      | _ => cases hlast
    | handler thread =>
      cases hstage : thread.stage <;> simp [Thread.duty, hstage, HandlerStage.charge] at hcharge
    | launched | stop | elsewhere => cases hcharge

theorem preserves_endings :
    server.Preserves (fun _ => True) (Reachable listener maximum) endings where
  symm _ := trivial
  start request _ _ := by cases request <;> trivial
  start_pair _ _ := trivial
  own _ hmoves h hc := ⟨trivial, ending_own h hmoves (hc.thread hmoves.thread)⟩
  other {c i l choice s' l' j m} _ hmoves h hc hne hj := by
    refine ⟨?_, trivial⟩
    have hm : Ending c.shared m := hc.thread hj
    have hbooks := holds_books h
    have hfits := hbooks.thread hmoves.thread
    have hstep := ledgerStep_of_moves hmoves
    have hjoined : (m.span ≠ none ∨ m.runs = true) → c.shared.ledger.Joined → s'.ledger.Joined :=
      fun hrelies hall => hall.step hbooks.shared hstep hfits fun id =>
        not_reserved h hne hmoves.thread hj hrelies
    have hhandlers : m.span ≠ none → c.shared.handlers = [] → s'.handlers = [] := by
      intro hrelies hnil
      refine List.eq_nil_iff_forall_not_mem.mpr fun id hid => ?_
      rcases (Ledger.spares_of_step hbooks.shared hstep hfits).records hid with hmem | hreserved
      · have hmem' : id ∈ c.shared.handlers := hmem
        rw [hnil] at hmem'
        cases hmem'
      · exact not_reserved h hne hmoves.thread hj (Or.inl hrelies) hreserved
    cases m with
    | run stage =>
      cases stage with
      | entering | ended => exact hjoined (Or.inr rfl) hm
      | joining => exact hhandlers (by rintro ⟨⟩) hm
      | _ => trivial
    | destroy stage =>
      cases stage with
      | ended => exact hjoined (Or.inl (by rintro ⟨⟩)) hm
      | joining => exact hhandlers (by rintro ⟨⟩) hm
      | _ => trivial
    | launched | handler | stop | elsewhere => trivial

theorem holds_endings (h : Reachable listener maximum c) : endings.Holds c := by
  refine preserves_endings.holds (fun h => h) (.singleton trivial ?_) h
  rintro id t ⟨⟩

/-! ## The counter -/

/-- The connection for which the accept loop has reserved a slot and started no handler. -/
def RunStage.slot : RunStage → Option Nat
  | launching connection | unwinding connection _ true => some connection.id
  | _ => none

/-- The connection whose slot a thread has to release. The last step of `HandlerCompletion` does
it for a handler. -/
def Thread.slot : Thread → Option Nat
  | run stage | destroy stage => stage.slot
  | handler ⟨_, _, .exiting⟩ | handler ⟨_, _, .ended⟩ => none
  | handler thread => some thread.connection.id
  | launched _ | stop _ | elsewhere => none

/-- Connection `id` was admitted, and its `HandlerCompletion` has not run. -/
def admitted (c : Config Impl Thread) (id : Nat) : Bool :=
  c.shared.connections[id]?.any (fun accepted => accepted.owner = .closure) ||
    c.threads.any fun l => l.slot = some id

omit [Kernel] in
theorem slot_iff_charge {l : Thread} {id : Nat} :
    l.slot = some id ↔ ∃ charge, l.duty.charge = some (id, charge) ∧ charge.slot = true := by
  cases l with
  | run stage | destroy stage =>
    simp only [Thread.slot, Thread.duty, RunStage.duty]
    cases stage with
    | unwinding connection moved reserved =>
      cases reserved <;> cases moved <;>
        simp [RunStage.slot, RunStage.charge, Charge.slot, UniqueDescriptor.kept]
    | accepted result => cases result <;> simp [RunStage.slot, RunStage.charge, Charge.slot]
    | stopping _ held | joining _ held =>
      cases held <;> simp [RunStage.slot, RunStage.charge, Charge.slot]
    | _ => simp [RunStage.slot, RunStage.charge, Charge.slot]
  | handler thread =>
    obtain ⟨connection, handler, stage⟩ := thread
    cases stage <;> simp [Thread.slot, Thread.duty, HandlerStage.charge, Charge.slot]
  | launched | stop | elsewhere => simp [Thread.slot, Thread.duty]

omit [Kernel] in
theorem tallies_of_connections {id : Nat} {accepted : Accepted}
    (h : c.shared.connections[id]? = some accepted) :
    c.shared.ledger.tallies[id]? = some accepted.tally := by
  show (c.shared.connections.map Accepted.tally)[id]? = _
  rw [List.getElem?_map, h]
  rfl

/-- A connection has a slot from its admission to its completion. -/
theorem slot_eq_admitted (h : Reachable listener maximum c) {id : Nat} {accepted : Accepted}
    (haccepted : c.shared.connections[id]? = some accepted) : accepted.slot = admitted c id := by
  have hc := holds_books h
  have hsound : c.shared.ledger.Sound := hc.shared
  have ht := tallies_of_connections haccepted
  have hclosure : accepted.tally.starting = true ↔ accepted.owner = .closure := by
    simp [Accepted.tally]
  rw [Bool.eq_iff_iff, admitted, haccepted, Bool.or_eq_true, List.any_eq_true]
  simp only [Option.any_some, decide_eq_true_eq]
  constructor
  · intro hslot
    rcases exists_charge h ht (Or.inl hslot) with hstarting | ⟨l, hl, charge, hcharge⟩
    · exact Or.inl (hclosure.mp hstarting)
    · obtain ⟨i, hi⟩ := List.getElem?_of_mem hl
      obtain ⟨t, ht', hfits⟩ := (hc.thread hi).charge hcharge
      cases ht.symm.trans ht'
      exact Or.inr ⟨l, hl, slot_iff_charge.mpr ⟨charge, hcharge, hfits.slot.symm.trans hslot⟩⟩
  · rintro (howner | ⟨l, hl, hslot⟩)
    · exact ((hsound.tally ht).starting (hclosure.mpr howner)).2
    · obtain ⟨charge, hcharge, hslot⟩ := slot_iff_charge.mp hslot
      obtain ⟨i, hi⟩ := List.getElem?_of_mem hl
      obtain ⟨t, ht', hfits⟩ := (hc.thread hi).charge hcharge
      cases ht.symm.trans ht'
      exact hfits.slot.trans hslot

omit [Kernel] in
theorem countP_range {α : Type} {l : List α} {p : α → Bool} {q : Nat → Bool}
    (h : ∀ {i a}, l[i]? = some a → p a = q i) : l.countP p = (List.range l.length).countP q := by
  have hmap : l.map p = (List.range l.length).map q := by
    refine List.ext_getElem (by simp) fun i hi _ => ?_
    rw [List.length_map] at hi
    rw [List.getElem_map, List.getElem_map, List.getElem_range]
    exact h (List.getElem?_eq_getElem hi)
  have hcount := congrArg (List.countP id) hmap
  rwa [List.countP_map, List.countP_map] at hcount

theorem activeHandlers_eq (h : Reachable listener maximum c) :
    c.shared.activeHandlers.toNat =
      (List.range c.shared.connections.length).countP (admitted c) := by
  have hsound : c.shared.ledger.Sound := (holds_books h).shared
  have hcounted : c.shared.activeHandlers.toNat =
      (c.shared.connections.map Accepted.tally).countP Tally.slot := hsound.counted
  rw [hcounted, List.countP_map]
  exact countP_range fun haccepted => slot_eq_admitted h haccepted

theorem maximum_eq (h : Reachable listener maximum c) :
    c.shared.maximumActiveConnections = maximum := by
  refine Program.Leads.induct
    (motive := fun c => c.shared.maximumActiveConnections = maximum) h rfl ?_ ?_
  · intro c₁ request _ ih
    exact ih
  · intro c₁ i l choice s' l' _ ih _ hmoves
    exact (Ledger.maximum_step (ledgerStep_of_moves hmoves)).trans ih

/-- Thread `i` is a handler of connection `id`. -/
def Serves (c : Config Impl Thread) (i id : Nat) : Prop :=
  ∃ thread, c.threads[i]? = some (.handler thread) ∧ thread.connection.id = id

/-- Only connections for which one was started have a handler. -/
theorem launches_of_serves (h : Reachable listener maximum c) {i id : Nat} {accepted : Accepted}
    (haccepted : c.shared.connections[id]? = some accepted) (hserves : Serves c i id) :
    accepted.launches = 1 := by
  obtain ⟨thread, hl, rfl⟩ := hserves
  obtain ⟨t, ht, hfits⟩ := ((holds_books h).thread hl).charge rfl
  cases (tallies_of_connections haccepted).symm.trans ht
  have hlaunches : accepted.launches = thread.stage.charge.launches := hfits.launches
  rw [hlaunches]
  cases thread.stage <;> rfl

omit [Kernel] in
theorem launches_runStage {stage : RunStage} {id : Nat} {charge : Charge}
    (hcharge : stage.charge = some (id, charge)) : charge.launches = 0 := by
  cases stage with
  | accepted result =>
    cases result with
    | accepted =>
      cases hcharge
      rfl
    | _ => cases hcharge
  | unwinding connection moved reserved =>
    cases reserved with
    | true =>
      cases hcharge
      rfl
    | false =>
      obtain ⟨_, _, heq⟩ := Option.map_eq_some_iff.mp hcharge
      cases heq
      rfl
  | stopping _ held | joining _ held =>
    obtain ⟨_, _, heq⟩ := Option.map_eq_some_iff.mp hcharge
    cases heq
    rfl
  | entering | testing | loading | accepting | failing | thrown | ended => cases hcharge
  | preparing | reaping | counting | rejecting | admitting | launching =>
    cases hcharge
    rfl

/-- A handler that was started has a thread, unless its closure still waits for one. -/
theorem exists_serves (h : Reachable listener maximum c) {id : Nat} {accepted : Accepted}
    (haccepted : c.shared.connections[id]? = some accepted) (hlaunches : accepted.launches = 1) :
    accepted.owner = .closure ∨ ∃ i, Serves c i id := by
  have ht := tallies_of_connections haccepted
  rcases exists_charge h ht (Or.inr hlaunches) with hstarting | ⟨l, hl, charge, hcharge⟩
  · exact Or.inl (by simpa [Accepted.tally] using hstarting)
  · obtain ⟨i, hi⟩ := List.getElem?_of_mem hl
    obtain ⟨t, ht', hfits⟩ := ((holds_books h).thread hi).charge hcharge
    cases ht.symm.trans ht'
    have hone : charge.launches = 1 := hfits.launches.symm.trans hlaunches
    cases l with
    | handler thread =>
      cases hcharge
      exact Or.inr ⟨i, thread, hi, rfl⟩
    | run stage | destroy stage =>
      rw [launches_runStage hcharge] at hone
      cases hone
    | launched | stop | elsewhere => cases hcharge

theorem serves_unique (h : Reachable listener maximum c) {i j id : Nat} (hi : Serves c i id)
    (hj : Serves c j id) : i = j := by
  obtain ⟨thread, hi, hid⟩ := hi
  obtain ⟨thread', hj, hid'⟩ := hj
  by_contra hne
  exact ((holds_books h).pair hne hi hj).charge rfl rfl (hid.trans hid'.symm)

/-- The records of one configuration: a handler that was started has one until it is joined, and
it is joined when its thread is over. -/
theorem joined_once (h : Reachable listener maximum c) {id : Nat} {accepted : Accepted}
    (haccepted : c.shared.connections[id]? = some accepted) (hlaunches : accepted.launches = 1) :
    accepted.joins = 0 ∧
        (id ∈ c.shared.handlers ∨ ∃ l ∈ c.threads, id ∈ l.duty.owned) ∨
      accepted.joins = 1 ∧ id ∈ c.shared.exited ∧ id ∉ c.shared.handlers ∧
        ∀ l ∈ c.threads, id ∉ l.duty.owned := by
  have hc := holds_books h
  have hsound : c.shared.ledger.Sound := hc.shared
  have ht := tallies_of_connections haccepted
  have hallows := hsound.tally ht
  have hle : accepted.joins ≤ accepted.launches := hallows.joins
  by_cases hjoins : accepted.joins = 0
  · exact Or.inl ⟨hjoins, exists_owner h ht hlaunches hjoins⟩
  · refine Or.inr ⟨by omega, hallows.joined (Nat.pos_of_ne_zero hjoins), fun hmem => ?_, ?_⟩
    · exact hjoins (hallows.recorded hmem).2
    · intro l hl hmem
      obtain ⟨i, hi⟩ := List.getElem?_of_mem hl
      obtain ⟨_, t, ht', _, hzero⟩ := (hc.thread hi).owned hmem
      cases ht.symm.trans ht'
      exact hjoins hzero

/-- A step that takes or releases a slot. -/
inductive Thread.Counts : Thread → Prop where
  | settling {connection : UniqueDescriptor} {handler : Handler} :
    Counts (.handler ⟨connection, handler, .settling⟩)
  | unwinding {connection : UniqueDescriptor} {moved : Bool} :
    Counts (.run (.unwinding connection moved true))

/-- Slots are settled exactly once. In every configuration that can be reached:

`active_handlers` is the number of admitted connections whose `HandlerCompletion` has not run, and
it is at most the maximum; it is below the maximum when it is going to be increased and above zero
when it is going to be decreased, so that it never wraps; a connection gets at most one handler or
sentinel, and one of the same user that has left the accept loop has got one, unless the server is
stopping or the run has failed; the handlers that were started and no others have a thread, and
each of them one; a handler that was started has its record until its thread is over and was joined
once; and every one has been joined when `run()` or the destructor has returned. -/
theorem slots_settled (h : Reachable listener maximum c) :
    (c.shared.activeHandlers.toNat =
        (List.range c.shared.connections.length).countP (admitted c) ∧
      c.shared.activeHandlers ≤ maximum ∧
      (∀ connection, .run (.admitting connection) ∈ c.threads →
        c.shared.activeHandlers < maximum) ∧
      ∀ l ∈ c.threads, l.Counts → 0 < c.shared.activeHandlers) ∧
    (∀ id accepted, c.shared.connections[id]? = some accepted →
      accepted.launches + accepted.sentinels ≤ 1 ∧
      (accepted.verified = true → accepted.owner ≠ .acceptor →
        accepted.launches + accepted.sentinels = 1 ∨ c.shared.stopping = true ∨
          c.shared.failed = true) ∧
      (accepted.launches = 1 → accepted.owner = .closure ∨ ∃ i, Serves c i id) ∧
      ∀ i, Serves c i id → accepted.launches = 1 ∧ ∀ j, Serves c j id → i = j) ∧
    (c.shared.handlers.Nodup ∧
      (∀ id accepted, c.shared.connections[id]? = some accepted →
        accepted.joins ≤ accepted.launches ∧
        (accepted.launches = 1 →
          accepted.joins = 0 ∧
              (id ∈ c.shared.handlers ∨ ∃ l ∈ c.threads, id ∈ l.duty.owned) ∨
            accepted.joins = 1 ∧ id ∈ c.shared.exited ∧ id ∉ c.shared.handlers ∧
              ∀ l ∈ c.threads, id ∉ l.duty.owned)) ∧
      (.run .ended ∈ c.threads ∨ .destroy .ended ∈ c.threads →
        ∀ accepted ∈ c.shared.connections, accepted.launches = 1 → accepted.joins = 1)) := by
  have hc := holds_books h
  have hsound : c.shared.ledger.Sound := hc.shared
  have hmaximum := maximum_eq h
  refine ⟨⟨activeHandlers_eq h, hmaximum ▸ hsound.bounded, ?_, ?_⟩, ?_, hsound.nodup, ?_, ?_⟩
  · intro connection hl
    obtain ⟨i, hi⟩ := List.getElem?_of_mem hl
    obtain ⟨t, _, hfits⟩ := (hc.thread hi).charge rfl
    exact hmaximum ▸ hfits.admissible rfl
  · intro l hl hcounts
    obtain ⟨i, hi⟩ := List.getElem?_of_mem hl
    have hslot : ∃ t, t ∈ c.shared.ledger.tallies ∧ t.slot = true := by
      cases hcounts with
      | settling =>
        obtain ⟨t, ht, hfits⟩ := (hc.thread hi).charge rfl
        exact ⟨t, List.mem_of_getElem? ht, hfits.slot⟩
      | unwinding =>
        obtain ⟨t, ht, hfits⟩ := (hc.thread hi).charge rfl
        exact ⟨t, List.mem_of_getElem? ht, hfits.slot⟩
    have hpositive : 0 < c.shared.activeHandlers.toNat := by
      rw [show c.shared.activeHandlers.toNat = _ from hsound.counted]
      exact List.countP_pos_iff.mpr hslot
    exact UInt32.lt_iff_toNat_lt.mpr hpositive
  · intro id accepted haccepted
    have hallows := hsound.tally (tallies_of_connections haccepted)
    refine ⟨hallows.once, fun hverified howner => ?_, exists_serves h haccepted, fun i hi =>
      ⟨launches_of_serves h haccepted hi, fun j hj => serves_unique h hi hj⟩⟩
    refine (hallows.served hverified (by simpa [Accepted.tally] using howner)).imp_right ?_
    intro hexcused
    exact Bool.or_eq_true_iff.mp hexcused
  · intro id accepted haccepted
    have hallows := hsound.tally (tallies_of_connections haccepted)
    exact ⟨hallows.joins, joined_once h haccepted⟩
  · intro hended accepted hmem hlaunches
    have hjoined : c.shared.ledger.Joined := by
      rcases hended with hl | hl
      all_goals
        obtain ⟨i, hi⟩ := List.getElem?_of_mem hl
        exact (holds_endings h).thread hi
    obtain ⟨id, haccepted⟩ := List.getElem?_of_mem hmem
    exact hjoined id _ (tallies_of_connections haccepted) hlaunches

/-- `run()` has returned. -/
def Thread.returned : Thread → Bool
  | .run .ended => true
  | _ => false

omit [Kernel] in
theorem Thread.eq_of_returned {l : Thread} (h : l.returned = true) : l = .run .ended := by
  unfold Thread.returned at h
  split at h
  · rfl
  · cases h

/-- A handler that finds the server stopping, and a `run()` that joins it. -/
def settledRun : List (Act Choice Call) :=
  [.move 0 .go, .move 0 .go, .move 0 .go, .move 0 (.accept 5 (.accepted [] [] [])), .move 0 .go,
    .move 0 .go, .move 0 .go, .move 0 .go, .move 0 .go, .move 0 .go, .spawn (.handler 0),
    .move 1 .go, .spawn .stop, .move 2 .go, .move 2 .go, .move 2 .go, .move 2 .go, .move 2 .go,
    .move 1 (.enter .plain), .move 1 .go, .move 1 .go, .move 1 .go, .move 1 .go, .move 1 .go,
    .move 1 .go, .move 1 .go, .move 1 .go, .move 0 .go, .move 0 .go, .move 0 .go, .move 0 .go,
    .move 0 .go]

omit [Kernel] in
theorem slots_settled_return :
    letI := sampleKernel
    ∃ c, Reachable 3 1 c ∧ .run .ended ∈ c.threads ∧
      ∃ accepted ∈ c.shared.connections, accepted.launches = 1 ∧ accepted.joins = 1 := by
  let _ : Kernel := sampleKernel
  have hrun : ((server.run (initial 3 1) settledRun).any fun c =>
      c.threads.any Thread.returned &&
        c.shared.connections.any fun accepted => accepted.launches = 1) = true := by
    decide +kernel
  obtain ⟨c, hrun, htest⟩ := (Option.any_eq_true _ _).mp hrun
  obtain ⟨hthread, hconnection⟩ := Bool.and_eq_true_iff.mp htest
  obtain ⟨accepted, hmem, hlaunches⟩ := List.any_eq_true.mp hconnection
  have hlaunches := of_decide_eq_true hlaunches
  have hended : .run .ended ∈ c.threads := by
    obtain ⟨l, hl, hreturned⟩ := List.any_eq_true.mp hthread
    rw [Thread.eq_of_returned hreturned] at hl
    exact hl
  have hreachable : Reachable 3 1 c := by
    refine ⟨settledRun, ?_, hrun⟩
    intro act _
    cases act <;> trivial
  obtain ⟨_, _, _, _, hjoined⟩ := slots_settled hreachable
  exact ⟨c, hreachable, hended, accepted, hmem, hlaunches,
    hjoined (Or.inl hended) accepted hmem hlaunches⟩

end PhotospiderDaemon.Server.Connections
