import Mathlib.Data.List.Nodup
import PhotospiderDaemon.Server.Ledger

/-!
# The ledger is sound

* `Ledger.Sound`: the counter counts the slots, each connection is served at most once, and a
  record is there until its thread has been joined. `Duty.Fits` is what a thread knows about the
  connection it has to do something about; `Ledger.Spares` is what a step leaves to the others.
* `Sound.step`, `fits_own`, `fits_other`, `apart_step`: a step keeps all of it.
* `charged_step`, `owned_step`: no slot, handler or record is ever without a thread that has to do
  something about it.
-/

namespace PhotospiderDaemon.Server.Connections

open Foundation Ipc Orchestration

/-! ## What holds of the ledger -/

namespace Charge

def slot : Charge → Bool
  | reserved | unwound | running | finishing => true
  | _ => false

def launches : Charge → Nat
  | running | finishing | settled | exited => 1
  | _ => 0

/-- The accept loop still has the descriptor. -/
def accepting : Charge → Bool
  | fresh | pending | admissible | reserved => true
  | _ => false

/-- The run has failed. -/
def excused : Charge → Bool
  | unwound | abandoned => true
  | _ => false

def finished : Charge → Bool
  | finishing | settled | exited => true
  | _ => false

end Charge

namespace Ledger

/-- What the ledger may have of connection `id`. -/
structure Allows (v : Ledger) (id : Nat) (t : Tally) : Prop where
  once : t.launches + t.sentinels ≤ 1
  served : t.verified = true → t.accepting = false →
    t.launches + t.sentinels = 1 ∨ v.excused = true
  starting : t.starting = true → t.launches = 1 ∧ t.slot = true
  joins : t.joins ≤ t.launches
  joined : 0 < t.joins → id ∈ v.exited
  slotted : t.launches = 1 → id ∉ v.finished → t.slot = true
  exited : id ∈ v.exited → t.launches = 1 ∧ t.slot = false
  recorded : id ∈ v.records → t.launches = 1 ∧ t.joins = 0

structure Sound (v : Ledger) : Prop where
  counted : v.active.toNat = v.tallies.countP Tally.slot
  bounded : v.active ≤ v.maximum
  nodup : v.records.Nodup
  valid : ∀ {id : Nat}, id ∈ v.records ∨ id ∈ v.exited → id < v.tallies.length
  tally : ∀ {id : Nat} {t : Tally}, v.tallies[id]? = some t → v.Allows id t

end Ledger

/-- What a thread knows about the connection it has to do something about. -/
structure Charge.Fits (v : Ledger) (id : Nat) (charge : Charge) (t : Tally) : Prop where
  starting : t.starting = false
  slot : t.slot = charge.slot
  launches : t.launches = charge.launches
  sentinels : t.sentinels = 0
  accepting : charge.accepting = true → t.accepting = true
  fresh : charge = .fresh → t.verified = false
  excused : charge.excused = true → v.excused = true
  admissible : charge = .admissible → v.active < v.maximum
  finished : charge.finished = true → id ∈ v.finished
  exited : charge = .exited → id ∈ v.exited

structure Duty.Fits (v : Ledger) (d : Duty) : Prop where
  charge : ∀ {id : Nat} {charge : Charge}, d.charge = some (id, charge) →
    ∃ t, v.tallies[id]? = some t ∧ charge.Fits v id t
  owned : ∀ {id : Nat}, id ∈ d.owned →
    id ∉ v.records ∧ ∃ t, v.tallies[id]? = some t ∧ t.launches = 1 ∧ t.joins = 0
  nodup : d.owned.Nodup

/-- Two threads have to do with different connections and records. -/
structure Duty.Apart (d e : Duty) : Prop where
  charge : ∀ {id id' : Nat} {charge charge' : Charge}, d.charge = some (id, charge) →
    e.charge = some (id', charge') → id ≠ id'
  owned : ∀ {id : Nat}, id ∈ d.owned → id ∉ e.owned

/-- What a step leaves to the other threads. -/
structure Ledger.Spares (v : Ledger) (d : Duty) (v' : Ledger) (d' : Duty) : Prop where
  excused : v.excused = true → v'.excused = true
  active : v.active < v.maximum →
    v'.active < v'.maximum ∨ ∃ id, d.charge = some (id, .admissible)
  finished : ∀ {id : Nat}, id ∈ v.finished → id ∈ v'.finished
  exited : ∀ {id : Nat}, id ∈ v.exited → id ∈ v'.exited
  tally : ∀ {id : Nat} {t : Tally}, v.tallies[id]? = some t →
    (∃ charge, d.charge = some (id, charge)) ∨
      t.starting = true ∧ d'.charge = some (id, .running) ∨
      ∃ joins, v'.tallies[id]? = some { t with joins := joins }
  owned : ∀ {id : Nat} {t : Tally}, v.tallies[id]? = some t → t.launches = 1 → id ∉ v.records →
    id ∉ d.owned → ∃ t', v'.tallies[id]? = some t' ∧ t'.launches = 1 ∧ t'.joins = t.joins
  records : ∀ {id : Nat}, id ∈ v'.records →
    id ∈ v.records ∨ d.charge = some (id, .reserved)

namespace Ledger

variable {v v' : Ledger} {d d' e : Duty} {id id' : Nat} {t t' : Tally} {f : Tally → Tally}

/-! ## Changing one tally -/

theorem change_self (h : v.tallies[id]? = some t) : (v.change id f).tallies[id]? = some (f t) := by
  unfold change
  dsimp only
  rw [List.getElem?_modify, h]
  simp

theorem change_of_ne (f : Tally → Tally) (h : id ≠ id') :
    (v.change id f).tallies[id']? = v.tallies[id']? := by
  unfold change
  dsimp only
  rw [List.getElem?_modify]
  simp [h]

theorem change_cases (h : (v.change id f).tallies[id']? = some t') (ht : v.tallies[id]? = some t) :
    id = id' ∧ t' = f t ∨ id ≠ id' ∧ v.tallies[id']? = some t' := by
  by_cases heq : id = id'
  · subst heq
    rw [change_self ht] at h
    exact Or.inl ⟨rfl, (Option.some.inj h).symm⟩
  · rw [change_of_ne f heq] at h
    exact Or.inr ⟨heq, h⟩

theorem length_change : (v.change id f).tallies.length = v.tallies.length := by
  simp [change]

theorem countP_change (p : Tally → Bool) (ht : v.tallies[id]? = some t) :
    (v.change id f).tallies.countP p + (if p t then 1 else 0) =
      v.tallies.countP p + if p (f t) then 1 else 0 := by
  have hset : (v.change id f).tallies = v.tallies.set id (f t) := by
    unfold change
    dsimp only
    rw [List.modify_eq_set_getElem?, ht]
    rfl
  rw [hset]
  exact Program.countP_set_add p (f t) ht

/-- What is allowed of a connection that a step has nothing to do with. -/
theorem Allows.frame (h : v.Allows id t) (hexcused : v.excused = true → v'.excused = true)
    (hexited : id ∈ v'.exited ↔ id ∈ v.exited) (hfinished : id ∈ v.finished → id ∈ v'.finished)
    (hrecords : id ∈ v'.records → id ∈ v.records) : v'.Allows id t where
  once := h.once
  served hverified haccepting := (h.served hverified haccepting).imp_right hexcused
  starting := h.starting
  joins := h.joins
  joined hjoins := hexited.mpr (h.joined hjoins)
  slotted hlaunches hid := h.slotted hlaunches fun hold => hid (hfinished hold)
  exited hid := h.exited (hexited.mp hid)
  recorded hid := h.recorded (hrecords hid)

/-! ## The ledger stays sound -/

theorem Sound.record (h : v.Sound) (hid : id ∈ v.records) :
    ∃ t, v.tallies[id]? = some t ∧ t.launches = 1 ∧ t.joins = 0 := by
  have hlt := h.valid (Or.inl hid)
  have ht : v.tallies[id]? = some v.tallies[id] := List.getElem?_eq_getElem hlt
  exact ⟨_, ht, (h.tally ht).recorded hid⟩

/-- The counter can be decreased while there is a slot. -/
theorem Sound.toNat_sub_one (h : v.Sound) (ht : v.tallies[id]? = some t) (hslot : t.slot = true) :
    (v.active - 1).toNat + 1 = v.active.toNat := by
  have hpositive : 1 ≤ v.active.toNat := by
    rw [h.counted]
    exact List.countP_pos_iff.mpr ⟨t, List.mem_of_getElem? ht, hslot⟩
  have hle : (1 : UInt32) ≤ v.active := UInt32.le_iff_toNat_le.mpr hpositive
  rw [UInt32.toNat_sub_of_le _ _ hle]
  exact Nat.sub_add_cancel hpositive

/-- A step that changes one tally, and not its slot. -/
theorem Sound.change (h : v.Sound) (ht : v.tallies[id]? = some t) (hslot : (f t).slot = t.slot)
    {excused : Bool} (hexcused : v.excused = true → excused = true)
    (hallows : ({ v.change id f with excused := excused } : Ledger).Allows id (f t)) :
    ({ v.change id f with excused := excused } : Ledger).Sound where
  counted := by
    have hcount := countP_change (f := f) Tally.slot ht
    rw [hslot] at hcount
    exact h.counted.trans (Nat.add_right_cancel hcount).symm
  bounded := h.bounded
  nodup := h.nodup
  valid hid := (h.valid hid).trans_eq length_change.symm
  tally := by
    intro id' t' ht'
    rcases change_cases ht' ht with ⟨rfl, rfl⟩ | ⟨hne, hold⟩
    · exact hallows
    · exact (h.tally hold).frame hexcused Iff.rfl (fun h => h) fun h => h

/-- A thread has changed who has the descriptor, or what is known of the peer. -/
theorem Sound.retag (h : v.Sound) (ht : v.tallies[id]? = some t)
    (hsame : (f t).slot = t.slot ∧ (f t).launches = t.launches ∧ (f t).sentinels = t.sentinels ∧
      (f t).joins = t.joins)
    (hstarting : (f t).starting = false) {excused : Bool}
    (hexcused : v.excused = true → excused = true)
    (hserved : (f t).verified = true → (f t).accepting = false →
      t.launches + t.sentinels = 1 ∨ excused = true) :
    ({ v.change id f with excused := excused } : Ledger).Sound := by
  obtain ⟨hslot, hlaunches, hsentinels, hjoins⟩ := hsame
  have hold := h.tally ht
  refine h.change ht hslot hexcused ⟨?_, ?_, ?_, ?_, ?_, ?_, ?_, ?_⟩
  · rw [hlaunches, hsentinels]
    exact hold.once
  · rw [hlaunches, hsentinels]
    exact hserved
  · rw [hstarting]
    rintro ⟨⟩
  · rw [hlaunches, hjoins]
    exact hold.joins
  · rw [hjoins]
    exact hold.joined
  · rw [hlaunches, hslot]
    exact hold.slotted
  · rw [hlaunches, hslot]
    exact hold.exited
  · rw [hlaunches, hjoins]
    exact hold.recorded

theorem Sound.reserve (h : v.Sound) (ht : v.tallies[id]? = some t)
    (hfits : Charge.Fits v id .admissible t) :
    ({ v.change id (fun tally => { tally with slot := true }) with active := v.active + 1 } :
      Ledger).Sound := by
  have hfree : v.active.toNat < v.maximum.toNat := UInt32.lt_iff_toNat_lt.mp (hfits.admissible rfl)
  have hactive : (v.active + 1).toNat = v.active.toNat + 1 := by
    have hmaximum := v.maximum.toNat_lt
    rw [UInt32.toNat_add]
    exact Nat.mod_eq_of_lt (by simpa using by omega)
  have hold := h.tally ht
  refine ⟨?_, ?_, h.nodup, fun hid => (h.valid hid).trans_eq length_change.symm, ?_⟩
  · have hcount := countP_change (f := fun tally => { tally with slot := true }) Tally.slot ht
    rw [hfits.slot] at hcount
    show (v.active + 1).toNat = _
    rw [hactive, h.counted]
    exact hcount.symm
  · show v.active + 1 ≤ v.maximum
    rw [UInt32.le_iff_toNat_le, hactive]
    exact hfree
  · intro id' t' ht'
    rcases change_cases ht' ht with ⟨rfl, rfl⟩ | ⟨hne, hother⟩
    · refine ⟨hold.once, hold.served, fun hstarting => ?_, hold.joins, hold.joined, fun _ _ => rfl,
        fun hid => ?_, hold.recorded⟩
      · exact ⟨(hold.starting hstarting).1, rfl⟩
      · -- a thread that has exited was started
        have hlaunches := (hold.exited hid).1
        rw [hfits.launches] at hlaunches
        cases hlaunches
    · exact (h.tally hother).frame (fun h => h) Iff.rfl (fun h => h) fun h => h

/-- A slot is released. -/
theorem Sound.release (h : v.Sound) (ht : v.tallies[id]? = some t) {charge : Charge}
    (hfits : charge.Fits v id t) (hslot : charge.slot = true)
    (hfinished : charge.launches = 1 → id ∈ v.finished) :
    ({ v.change id (fun tally => { tally with slot := false }) with active := v.active - 1 } :
      Ledger).Sound := by
  have hcount := countP_change (f := fun tally => { tally with slot := false }) Tally.slot ht
  have htrue : t.slot = true := hfits.slot.trans hslot
  have hactive := h.toNat_sub_one ht htrue
  rw [htrue, if_pos rfl, if_neg Bool.false_ne_true, Nat.add_zero, ← h.counted] at hcount
  have hold := h.tally ht
  refine ⟨?_, ?_, h.nodup, fun hid => (h.valid hid).trans_eq length_change.symm, ?_⟩
  · exact Nat.add_right_cancel (hactive.trans hcount.symm)
  · have hbounded := UInt32.le_iff_toNat_le.mp h.bounded
    show v.active - 1 ≤ v.maximum
    rw [UInt32.le_iff_toNat_le]
    omega
  · intro id' t' ht'
    rcases change_cases ht' ht with ⟨rfl, rfl⟩ | ⟨hne, hother⟩
    · refine ⟨hold.once, hold.served, fun hstarting => ?_, hold.joins, hold.joined,
        fun hlaunches hid => ?_, fun hid => ⟨(hold.exited hid).1, rfl⟩, hold.recorded⟩
      · rw [hfits.starting] at hstarting
        cases hstarting
      · exact absurd (hfinished (hfits.launches.symm.trans hlaunches)) hid
    · exact (h.tally hother).frame (fun h => h) Iff.rfl (fun h => h) fun h => h

theorem Sound.launch (h : v.Sound) (ht : v.tallies[id]? = some t)
    (hfits : Charge.Fits v id .reserved t) :
    ({ v.change id (fun tally =>
          { tally with accepting := false, starting := true, launches := tally.launches + 1 }) with
        records := v.records ++ [id] } : Ledger).Sound := by
  have hold := h.tally ht
  have hlaunches : t.launches = 0 := hfits.launches
  have hsentinels := hfits.sentinels
  have hjoins := hold.joins
  have hslot : t.slot = true := hfits.slot
  have hrecord : id ∉ v.records := by
    intro hid
    have hone := (hold.recorded hid).1
    omega
  refine ⟨?_, h.bounded, ?_, fun hid => ?_, ?_⟩
  · have hcount := countP_change (f := fun tally =>
      { tally with accepting := false, starting := true, launches := tally.launches + 1 })
      Tally.slot ht
    exact h.counted.trans (Nat.add_right_cancel hcount).symm
  · refine List.nodup_append.mpr ⟨h.nodup, by simp, ?_⟩
    rintro a ha b hb rfl
    exact hrecord (List.mem_singleton.mp hb ▸ ha)
  · show _ < (v.change id _).tallies.length
    rw [length_change]
    rcases hid with hmem | hmem
    · rcases List.mem_append.mp hmem with hmem | hmem
      · exact h.valid (Or.inl hmem)
      · rw [List.mem_singleton.mp hmem]
        exact (List.getElem?_eq_some_iff.mp ht).1
    · exact h.valid (Or.inr hmem)
  · intro id' t' ht'
    rcases change_cases ht' ht with ⟨rfl, rfl⟩ | ⟨hne, hother⟩
    · refine ⟨?_, ?_, ?_, ?_, hold.joined, fun _ _ => hslot, ?_, ?_⟩
      · show t.launches + 1 + t.sentinels ≤ 1
        omega
      · intro _ _
        left
        show t.launches + 1 + t.sentinels = 1
        omega
      · intro _
        exact ⟨by show t.launches + 1 = 1; omega, hslot⟩
      · show t.joins ≤ t.launches + 1
        omega
      · intro hid
        have hone := (hold.exited hid).1
        omega
      · intro _
        exact ⟨by show t.launches + 1 = 1; omega, by show t.joins = 0; omega⟩
    · refine (h.tally hother).frame (fun h => h) Iff.rfl (fun h => h) fun hid => ?_
      rcases List.mem_append.mp hid with hmem | hmem
      · exact hmem
      · exact absurd (List.mem_singleton.mp hmem).symm hne

/-- A record is joined and destroyed. -/
theorem Sound.join (h : v.Sound) (ht : v.tallies[id]? = some t) (hlaunches : t.launches = 1)
    (hjoins : t.joins = 0) (hexited : id ∈ v.exited) {records : List Nat}
    (hsublist : records.Sublist v.records) (hid : id ∉ records) :
    ({ v.change id (fun tally => { tally with joins := tally.joins + 1 }) with
      records := records } :
      Ledger).Sound := by
  have hold := h.tally ht
  refine ⟨?_, h.bounded, h.nodup.sublist hsublist, fun hmem => ?_, ?_⟩
  · have hcount := countP_change (f := fun tally => { tally with joins := tally.joins + 1 })
      Tally.slot ht
    exact h.counted.trans (Nat.add_right_cancel hcount).symm
  · exact (h.valid (hmem.imp_left fun hmem => hsublist.subset hmem)).trans_eq length_change.symm
  · intro id' t' ht'
    rcases change_cases ht' ht with ⟨rfl, rfl⟩ | ⟨hne, hother⟩
    · refine ⟨hold.once, hold.served, hold.starting, ?_, fun _ => hexited, hold.slotted,
        hold.exited, fun hmem => absurd hmem hid⟩
      show t.joins + 1 ≤ t.launches
      omega
    · exact (h.tally hother).frame (fun h => h) Iff.rfl (fun h => h) fun hmem =>
        hsublist.subset hmem

theorem Sound.accept (h : v.Sound) :
    ({ v with tallies := v.tallies ++ [⟨true, false, false, false, 0, 0, 0⟩] } : Ledger).Sound := by
  refine ⟨?_, h.bounded, h.nodup, fun hid => ?_, ?_⟩
  · show _ = (v.tallies ++ [_]).countP Tally.slot
    rw [List.countP_append, ← h.counted]
    rfl
  · show _ < (v.tallies ++ [_]).length
    rw [List.length_append]
    exact Nat.lt_add_right _ (h.valid hid)
  · intro id t ht
    rcases getElem?_snoc ht with hold | ⟨rfl, rfl⟩
    · exact (h.tally hold).frame (fun h => h) Iff.rfl (fun h => h) fun h => h
    · have hnew : ¬ (v.tallies.length ∈ v.records ∨ v.tallies.length ∈ v.exited) :=
        fun hid => Nat.lt_irrefl _ (h.valid hid)
      exact ⟨by decide, by rintro ⟨⟩, by rintro ⟨⟩, by decide, by rintro ⟨⟩, by rintro ⟨⟩,
        fun hid => absurd (Or.inr hid) hnew, fun hid => absurd (Or.inl hid) hnew⟩

theorem notMem_eraseIdx {records : List Nat} {index : Nat} (hnodup : records.Nodup)
    (hrecord : records[index]? = some id) : id ∉ records.eraseIdx index := by
  intro hmem
  obtain ⟨index', hne, hrecord'⟩ := List.mem_eraseIdx_iff_getElem?.mp hmem
  obtain ⟨hlt, heq⟩ := List.getElem?_eq_some_iff.mp hrecord
  obtain ⟨hlt', heq'⟩ := List.getElem?_eq_some_iff.mp hrecord'
  exact hne ((List.Nodup.getElem_inj_iff hnodup).mp (heq'.trans heq.symm))

/-- A step of a thread keeps the ledger sound. -/
theorem Sound.step (h : v.Sound) (hstep : v.Step d v' d') (hfits : d.Fits v) : v'.Sound := by
  cases hstep with
  | quiet hexcused =>
    exact ⟨h.counted, h.bounded, h.nodup, h.valid, fun ht =>
      (h.tally ht).frame hexcused Iff.rfl (fun h => h) fun h => h⟩
  | accept => exact h.accept
  | verify =>
    obtain ⟨t, ht, hcharge⟩ := hfits.charge rfl
    refine h.retag ht ⟨rfl, rfl, rfl, rfl⟩ hcharge.starting (fun h => h) fun _ haccepting => ?_
    have hheld : t.accepting = true := hcharge.accepting rfl
    rw [hheld] at haccepting
    cases haccepting
  | discard hexcused =>
    obtain ⟨t, ht, hcharge⟩ := hfits.charge rfl
    refine h.retag ht ⟨rfl, rfl, rfl, rfl⟩ rfl hexcused fun hverified _ => ?_
    have hfresh : t.verified = false := hcharge.fresh rfl
    rw [Tally.taken, hfresh] at hverified
    cases hverified
  | drop | unwindMoved =>
    obtain ⟨t, ht, _⟩ := hfits.charge rfl
    exact h.retag ht ⟨rfl, rfl, rfl, rfl⟩ rfl (fun _ => rfl) fun _ _ => Or.inr rfl
  | leave =>
    obtain ⟨t, ht, hcharge⟩ := hfits.charge rfl
    exact h.retag ht ⟨rfl, rfl, rfl, rfl⟩ rfl (fun h => h) fun _ _ => Or.inr (hcharge.excused rfl)
  | @begin id t ht hstarting =>
    refine h.retag ht ⟨rfl, rfl, rfl, rfl⟩ rfl (fun h => h) fun _ _ => Or.inl ?_
    have hlaunches := ((h.tally ht).starting hstarting).1
    have honce := (h.tally ht).once
    omega
  | pass =>
    obtain ⟨t, ht, hcharge⟩ := hfits.charge rfl
    refine h.retag ht ⟨rfl, rfl, rfl, rfl⟩ rfl (fun h => h) fun _ _ => Or.inl ?_
    rw [hcharge.launches, hcharge.sentinels]
    rfl
  | sentinel =>
    obtain ⟨t, ht, hcharge⟩ := hfits.charge rfl
    have hold := h.tally ht
    have hlaunches : t.launches = 0 := hcharge.launches
    have hsentinels := hcharge.sentinels
    refine h.change ht rfl (fun h => h) ⟨?_, fun _ _ => Or.inl ?_, by rintro ⟨⟩, hold.joins,
      hold.joined, hold.slotted, hold.exited, hold.recorded⟩
    · show t.launches + (t.sentinels + 1) ≤ 1
      omega
    · show t.launches + (t.sentinels + 1) = 1
      omega
  | count hfree => exact h
  | abandon | unwind =>
    exact ⟨h.counted, h.bounded, h.nodup, h.valid, fun ht =>
      (h.tally ht).frame (fun _ => rfl) Iff.rfl (fun h => h) fun h => h⟩
  | reserve =>
    obtain ⟨t, ht, hcharge⟩ := hfits.charge rfl
    exact h.reserve ht hcharge
  | launch =>
    obtain ⟨t, ht, hcharge⟩ := hfits.charge rfl
    exact h.launch ht hcharge
  | release hleft =>
    obtain ⟨t, ht, hcharge⟩ := hfits.charge rfl
    exact h.release ht hcharge rfl (by rintro ⟨⟩)
  | settle =>
    obtain ⟨t, ht, hcharge⟩ := hfits.charge rfl
    exact h.release ht hcharge rfl fun _ => hcharge.finished rfl
  | finish =>
    exact ⟨h.counted, h.bounded, h.nodup, h.valid, fun ht =>
      (h.tally ht).frame (fun h => h) Iff.rfl (fun hid => List.mem_cons_of_mem _ hid) fun h => h⟩
  | @exit id =>
    obtain ⟨t, ht, hcharge⟩ := hfits.charge rfl
    have hold := h.tally ht
    refine ⟨h.counted, h.bounded, h.nodup, ?_, ?_⟩
    · rintro id' (hid | hid)
      · exact h.valid (Or.inl hid)
      · rcases List.mem_cons.mp hid with rfl | hid
        · exact (List.getElem?_eq_some_iff.mp ht).1
        · exact h.valid (Or.inr hid)
    · intro id' t' ht'
      by_cases heq : id' = id
      · subst heq
        cases ht.symm.trans ht'
        exact ⟨hold.once, hold.served, hold.starting, hold.joins,
          fun hjoins => List.mem_cons_of_mem _ (hold.joined hjoins), hold.slotted,
          fun _ => ⟨hcharge.launches, hcharge.slot⟩, hold.recorded⟩
      · have hiff : id' ∈ id :: v.exited ↔ id' ∈ v.exited := by simp [heq]
        exact (h.tally ht').frame (fun h => h) hiff (fun h => h) fun h => h
  | @reap _ index id hrecord hexited =>
    obtain ⟨t, ht, hlaunches, hjoins⟩ := h.record (List.mem_of_getElem? hrecord)
    exact h.join ht hlaunches hjoins hexited (List.eraseIdx_sublist _ _)
      (notMem_eraseIdx h.nodup hrecord)
  | swap =>
    refine ⟨h.counted, h.bounded, List.nodup_nil, fun hid => h.valid (hid.imp_left ?_),
      fun ht => ?_⟩
    · rintro ⟨⟩
    · exact (h.tally ht).frame (fun h => h) Iff.rfl (fun h => h) (by rintro ⟨⟩)
  | join hexited =>
    obtain ⟨hid, t, ht, hlaunches, hjoins⟩ := hfits.owned List.mem_cons_self
    exact h.join ht hlaunches hjoins hexited (List.Sublist.refl _) hid

/-! ## What the thread of a step knows afterwards -/

/-- What is known of a connection that a step has nothing to do with. -/
theorem charge_frame {charge : Charge} (h : charge.Fits v id t) {joins : Nat}
    (hexcused : v.excused = true → v'.excused = true)
    (hactive : charge = .admissible → v'.active < v'.maximum)
    (hfinished : id ∈ v.finished → id ∈ v'.finished) (hexited : id ∈ v.exited → id ∈ v'.exited) :
    charge.Fits v' id { t with joins := joins } :=
  ⟨h.starting, h.slot, h.launches, h.sentinels, h.accepting, h.fresh,
    fun hcharge => hexcused (h.excused hcharge), hactive,
    fun hcharge => hfinished (h.finished hcharge), fun hcharge => hexited (h.exited hcharge)⟩

/-- A thread with a connection and no records. -/
theorem fits_charge {charge : Charge} (ht : v.tallies[id]? = some t)
    (hcharge : charge.Fits v id t) :
    Duty.Fits v ⟨some (id, charge), []⟩ := by
  refine ⟨?_, by rintro id' ⟨⟩, List.nodup_nil⟩
  rintro id' charge' ⟨⟩
  exact ⟨t, ht, hcharge⟩

theorem fits_none : Duty.Fits v ⟨none, []⟩ :=
  ⟨by rintro id charge ⟨⟩, by rintro id ⟨⟩, List.nodup_nil⟩

/-- A record that a thread does not own is joined and destroyed. -/
theorem fits_joined (hfits : d.Fits v) (hid : id ∉ d.owned) {records : List Nat}
    (hsublist : records.Sublist v.records) :
    d.Fits { v.change id (fun tally => { tally with joins := tally.joins + 1 }) with
      records := records } := by
  refine ⟨fun {id' charge} hcharge => ?_, fun {id'} hid' => ?_, hfits.nodup⟩
  · obtain ⟨t', ht', hold⟩ := hfits.charge hcharge
    by_cases heq : id = id'
    · subst heq
      exact ⟨_, change_self ht', charge_frame hold (fun h => h) hold.admissible
        (fun h => h) fun h => h⟩
    · exact ⟨t', (change_of_ne _ heq).trans ht',
        charge_frame hold (fun h => h) hold.admissible (fun h => h) fun h => h⟩
  · obtain ⟨hrecord, t', ht', hlaunches, hjoins⟩ := hfits.owned hid'
    have hne : id ≠ id' := by
      rintro rfl
      exact hid hid'
    exact ⟨fun hmem => hrecord (hsublist.subset hmem), t',
      (change_of_ne _ hne).trans ht', hlaunches, hjoins⟩

theorem fits_own (h : v.Sound) (hstep : v.Step d v' d') (hfits : d.Fits v) : d'.Fits v' := by
  cases hstep with
  | quiet hexcused =>
    refine ⟨fun hcharge => ?_, hfits.owned, hfits.nodup⟩
    obtain ⟨t, ht, hold⟩ := hfits.charge hcharge
    exact ⟨t, ht, charge_frame hold hexcused hold.admissible (fun h => h) fun h => h⟩
  | accept =>
    refine fits_charge List.getElem?_concat_length ⟨rfl, rfl, rfl, rfl, fun _ => rfl, fun _ => rfl,
      by rintro ⟨⟩, by rintro ⟨⟩, by rintro ⟨⟩, by rintro ⟨⟩⟩
  | verify =>
    obtain ⟨t, ht, hold⟩ := hfits.charge rfl
    exact fits_charge (change_self ht) ⟨hold.starting, hold.slot, hold.launches, hold.sentinels,
      hold.accepting, by rintro ⟨⟩, by rintro ⟨⟩, by rintro ⟨⟩, by rintro ⟨⟩, by rintro ⟨⟩⟩
  | discard | drop | sentinel | launch | leave => exact fits_none
  | count hfree =>
    obtain ⟨t, ht, hold⟩ := hfits.charge rfl
    exact fits_charge ht ⟨hold.starting, hold.slot, hold.launches, hold.sentinels, hold.accepting,
      by rintro ⟨⟩, by rintro ⟨⟩, fun _ => hfree, by rintro ⟨⟩, by rintro ⟨⟩⟩
  | reserve =>
    obtain ⟨t, ht, hold⟩ := hfits.charge rfl
    exact fits_charge (change_self ht) ⟨hold.starting, rfl, hold.launches, hold.sentinels,
      hold.accepting, by rintro ⟨⟩, by rintro ⟨⟩, by rintro ⟨⟩, by rintro ⟨⟩, by rintro ⟨⟩⟩
  | abandon | unwind =>
    obtain ⟨t, ht, hold⟩ := hfits.charge rfl
    exact fits_charge ht ⟨hold.starting, hold.slot, hold.launches, hold.sentinels,
      by rintro ⟨⟩, by rintro ⟨⟩, fun _ => rfl, by rintro ⟨⟩, by rintro ⟨⟩, by rintro ⟨⟩⟩
  | unwindMoved =>
    obtain ⟨t, ht, hold⟩ := hfits.charge rfl
    exact fits_charge (change_self ht) ⟨rfl, hold.slot, hold.launches, hold.sentinels,
      by rintro ⟨⟩, by rintro ⟨⟩, fun _ => rfl, by rintro ⟨⟩, by rintro ⟨⟩, by rintro ⟨⟩⟩
  | release hleft =>
    obtain ⟨t, ht, hold⟩ := hfits.charge rfl
    rcases hleft with rfl | rfl
    · exact fits_none
    · exact fits_charge (change_self ht) ⟨hold.starting, rfl, hold.launches, hold.sentinels,
        by rintro ⟨⟩, by rintro ⟨⟩, fun _ => hold.excused rfl, by rintro ⟨⟩, by rintro ⟨⟩,
        by rintro ⟨⟩⟩
  | @begin id t ht hstarting =>
    obtain ⟨hlaunches, hslot⟩ := (h.tally ht).starting hstarting
    have honce := (h.tally ht).once
    have hsentinels : t.sentinels = 0 := by omega
    exact fits_charge (change_self ht) ⟨rfl, hslot, hlaunches, hsentinels,
      by rintro ⟨⟩, by rintro ⟨⟩, by rintro ⟨⟩, by rintro ⟨⟩, by rintro ⟨⟩, by rintro ⟨⟩⟩
  | pass =>
    obtain ⟨t, ht, hold⟩ := hfits.charge rfl
    exact fits_charge (change_self ht) ⟨rfl, hold.slot, hold.launches, hold.sentinels,
      by rintro ⟨⟩, by rintro ⟨⟩, by rintro ⟨⟩, by rintro ⟨⟩, by rintro ⟨⟩, by rintro ⟨⟩⟩
  | finish =>
    obtain ⟨t, ht, hold⟩ := hfits.charge rfl
    exact fits_charge ht ⟨hold.starting, hold.slot, hold.launches, hold.sentinels,
      by rintro ⟨⟩, by rintro ⟨⟩, by rintro ⟨⟩, by rintro ⟨⟩, fun _ => List.mem_cons_self,
      by rintro ⟨⟩⟩
  | settle =>
    obtain ⟨t, ht, hold⟩ := hfits.charge rfl
    exact fits_charge (change_self ht) ⟨hold.starting, rfl, hold.launches, hold.sentinels,
      by rintro ⟨⟩, by rintro ⟨⟩, by rintro ⟨⟩, by rintro ⟨⟩, fun _ => hold.finished rfl,
      by rintro ⟨⟩⟩
  | exit =>
    obtain ⟨t, ht, hold⟩ := hfits.charge rfl
    exact fits_charge ht ⟨hold.starting, hold.slot, hold.launches, hold.sentinels,
      by rintro ⟨⟩, by rintro ⟨⟩, by rintro ⟨⟩, by rintro ⟨⟩, fun _ => hold.finished rfl,
      fun _ => List.mem_cons_self⟩
  | @reap _ index id hrecord hexited =>
    have hmem := List.mem_of_getElem? hrecord
    exact fits_joined hfits (fun hid => (hfits.owned hid).1 hmem) (List.eraseIdx_sublist _ _)
  | swap =>
    refine ⟨fun hcharge => ?_, fun hid => ⟨List.not_mem_nil, h.record hid⟩, h.nodup⟩
    obtain ⟨t, ht, hold⟩ := hfits.charge hcharge
    exact ⟨t, ht, charge_frame hold (fun h => h) hold.admissible (fun h => h) fun h => h⟩
  | @join charge id owned hexited =>
    have hrest : Duty.Fits v ⟨charge, owned⟩ :=
      ⟨hfits.charge, fun hid => hfits.owned (List.mem_cons_of_mem _ hid),
        (List.nodup_cons.mp hfits.nodup).2⟩
    exact fits_joined hrest (List.nodup_cons.mp hfits.nodup).1 (List.Sublist.refl _)

/-! ## What the other threads know afterwards -/

/-- Nothing but flags changes. -/
theorem spares_flags {excused : Bool} (hexcused : v.excused = true → excused = true)
    {finished exited : List Nat} (hfinished : v.finished ⊆ finished) (hexited : v.exited ⊆ exited) :
    v.Spares d { v with excused := excused, finished := finished, exited := exited } d' :=
  ⟨hexcused, Or.inl, fun hid => hfinished hid, fun hid => hexited hid,
    fun {_ t} ht => Or.inr (Or.inr ⟨t.joins, ht⟩),
    fun {_ t} ht hlaunches _ _ => ⟨t, ht, hlaunches, rfl⟩, Or.inl⟩

/-- A thread that changes the tally of the connection it has to do something about. -/
theorem spares_charge {charge : Charge} (hcharge : d.charge = some (id, charge))
    (ht : v.tallies[id]? = some t) (hsame : (f t).launches = t.launches ∧ (f t).joins = t.joins)
    {excused : Bool} (hexcused : v.excused = true → excused = true) {active : UInt32}
    (hactive : v.active < v.maximum → active < v.maximum ∨ charge = .admissible) :
    v.Spares d { v.change id f with excused := excused, active := active } d' := by
  refine ⟨hexcused, fun hfree => ?_, fun h => h, fun h => h, ?_, ?_, Or.inl⟩
  · refine (hactive hfree).imp_right ?_
    rintro rfl
    exact ⟨id, hcharge⟩
  · intro id' t' ht'
    by_cases heq : id = id'
    · subst heq
      exact Or.inl ⟨charge, hcharge⟩
    · exact Or.inr (Or.inr ⟨t'.joins, (change_of_ne f heq).trans ht'⟩)
  · intro id' t' ht' hlaunches _ _
    by_cases heq : id = id'
    · subst heq
      cases ht.symm.trans ht'
      exact ⟨f t, change_self ht, hsame.1.trans hlaunches, hsame.2⟩
    · exact ⟨t', (change_of_ne f heq).trans ht', hlaunches, rfl⟩

/-- A record of nobody or of this thread is joined and destroyed. -/
theorem spares_joined (hid : id ∈ v.records ∨ id ∈ d.owned) {records : List Nat}
    (hsublist : records.Sublist v.records) :
    v.Spares d { v.change id (fun tally => { tally with joins := tally.joins + 1 }) with
      records := records } d' := by
  refine ⟨fun h => h, Or.inl, fun h => h, fun h => h, ?_, ?_, fun hmem =>
    Or.inl (hsublist.subset hmem)⟩
  · intro id' t' ht'
    by_cases heq : id = id'
    · subst heq
      exact Or.inr (Or.inr ⟨t'.joins + 1, change_self ht'⟩)
    · exact Or.inr (Or.inr ⟨t'.joins, (change_of_ne _ heq).trans ht'⟩)
  · intro id' t' ht' hlaunches hrecord howned
    have hne : id ≠ id' := by
      rintro rfl
      exact hid.elim hrecord howned
    exact ⟨t', (change_of_ne _ hne).trans ht', hlaunches, rfl⟩

/-- A slot that is released leaves the others room. -/
theorem Sound.sub_one_lt (h : v.Sound) (ht : v.tallies[id]? = some t) (hslot : t.slot = true)
    (hfree : v.active < v.maximum) : v.active - 1 < v.maximum := by
  have hactive := h.toNat_sub_one ht hslot
  have hlt := UInt32.lt_iff_toNat_lt.mp hfree
  rw [UInt32.lt_iff_toNat_lt]
  omega

theorem spares_of_step (h : v.Sound) (hstep : v.Step d v' d') (hfits : d.Fits v) :
    v.Spares d v' d' := by
  cases hstep with
  | quiet hexcused => exact spares_flags hexcused (fun _ h => h) fun _ h => h
  | count => exact spares_flags (fun h => h) (fun _ h => h) fun _ h => h
  | abandon | unwind => exact spares_flags (fun _ => rfl) (fun _ h => h) fun _ h => h
  | finish => exact spares_flags (fun h => h) (fun _ hid => List.mem_cons_of_mem _ hid) fun _ h => h
  | exit => exact spares_flags (fun h => h) (fun _ h => h) fun _ hid => List.mem_cons_of_mem _ hid
  | accept =>
    refine ⟨fun h => h, Or.inl, fun h => h, fun h => h, ?_, ?_, Or.inl⟩
    · intro id t ht
      have hlt := (List.getElem?_eq_some_iff.mp ht).1
      exact Or.inr (Or.inr ⟨t.joins, (List.getElem?_append_left hlt).trans ht⟩)
    · intro id t ht hlaunches _ _
      have hlt := (List.getElem?_eq_some_iff.mp ht).1
      exact ⟨t, (List.getElem?_append_left hlt).trans ht, hlaunches, rfl⟩
  | verify | sentinel | leave | pass =>
    obtain ⟨t, ht, _⟩ := hfits.charge rfl
    exact spares_charge rfl ht ⟨rfl, rfl⟩ (fun h => h) Or.inl
  | discard hexcused =>
    obtain ⟨t, ht, _⟩ := hfits.charge rfl
    exact spares_charge rfl ht ⟨rfl, rfl⟩ hexcused Or.inl
  | drop | unwindMoved =>
    obtain ⟨t, ht, _⟩ := hfits.charge rfl
    exact spares_charge rfl ht ⟨rfl, rfl⟩ (fun _ => rfl) Or.inl
  | reserve =>
    obtain ⟨t, ht, _⟩ := hfits.charge rfl
    exact spares_charge rfl ht ⟨rfl, rfl⟩ (fun h => h) fun _ => Or.inr rfl
  | release | settle =>
    obtain ⟨t, ht, hcharge⟩ := hfits.charge rfl
    exact spares_charge rfl ht ⟨rfl, rfl⟩ (fun h => h) fun hfree =>
      Or.inl (h.sub_one_lt ht hcharge.slot hfree)
  | @launch id =>
    obtain ⟨t, ht, hcharge⟩ := hfits.charge rfl
    have hlaunches : t.launches = 0 := hcharge.launches
    refine ⟨fun h => h, Or.inl, fun h => h, fun h => h, ?_, ?_, ?_⟩
    · intro id' t' ht'
      by_cases heq : id = id'
      · subst heq
        exact Or.inl ⟨.reserved, rfl⟩
      · exact Or.inr (Or.inr ⟨t'.joins, (change_of_ne _ heq).trans ht'⟩)
    · intro id' t' ht' hlaunches' _ _
      have hne : id ≠ id' := by
        rintro rfl
        cases ht.symm.trans ht'
        omega
      exact ⟨t', (change_of_ne _ hne).trans ht', hlaunches', rfl⟩
    · intro id' hid'
      rcases List.mem_append.mp hid' with hmem | hmem
      · exact Or.inl hmem
      · rw [List.mem_singleton.mp hmem]
        exact Or.inr rfl
  | @begin id t ht hstarting =>
    refine ⟨fun h => h, Or.inl, fun h => h, fun h => h, ?_, ?_, Or.inl⟩
    · intro id' t' ht'
      by_cases heq : id = id'
      · subst heq
        cases ht.symm.trans ht'
        exact Or.inr (Or.inl ⟨hstarting, rfl⟩)
      · exact Or.inr (Or.inr ⟨t'.joins, (change_of_ne _ heq).trans ht'⟩)
    · intro id' t' ht' hlaunches _ _
      by_cases heq : id = id'
      · subst heq
        exact ⟨_, change_self ht', hlaunches, rfl⟩
      · exact ⟨t', (change_of_ne _ heq).trans ht', hlaunches, rfl⟩
  | reap hrecord hexited =>
    exact spares_joined (Or.inl (List.mem_of_getElem? hrecord)) (List.eraseIdx_sublist _ _)
  | swap =>
    exact ⟨fun h => h, Or.inl, fun h => h, fun h => h,
      fun {_ t} ht => Or.inr (Or.inr ⟨t.joins, ht⟩),
      fun {_ t} ht hlaunches _ _ => ⟨t, ht, hlaunches, rfl⟩, by rintro id ⟨⟩⟩
  | join hexited => exact spares_joined (Or.inr List.mem_cons_self) (List.Sublist.refl _)

theorem fits_other (hfits : d.Fits v) (hspares : v.Spares d v' d') (hother : e.Fits v)
    (happart : d.Apart e)
    (hone : ∀ {id id'}, d.charge = some (id, .admissible) → e.charge = some (id', .admissible) →
      False) : e.Fits v' := by
  refine ⟨fun {id charge} hcharge => ?_, fun {id} hid => ?_, hother.nodup⟩
  · obtain ⟨t, ht, hold⟩ := hother.charge hcharge
    rcases hspares.tally ht with ⟨charge', hown⟩ | ⟨hstarting, _⟩ | ⟨joins, ht'⟩
    · exact absurd rfl (happart.charge hown hcharge)
    · rw [hold.starting] at hstarting
      cases hstarting
    · refine ⟨_, ht', charge_frame hold hspares.excused ?_ hspares.finished hspares.exited⟩
      rintro rfl
      rcases hspares.active (hold.admissible rfl) with hfree | ⟨id', hown⟩
      · exact hfree
      · exact (hone hown hcharge).elim
  · obtain ⟨hrecord, t, ht, hlaunches, hjoins⟩ := hother.owned hid
    refine ⟨fun hmem => ?_, ?_⟩
    · rcases hspares.records hmem with hmem | hreserved
      · exact hrecord hmem
      · obtain ⟨t', ht', hcharge⟩ := hfits.charge hreserved
        cases ht.symm.trans ht'
        cases hlaunches.symm.trans hcharge.launches
    · obtain ⟨t', ht', hlaunches', hjoins'⟩ := hspares.owned ht hlaunches hrecord fun hown =>
        happart.owned hown hid
      exact ⟨t', ht', hlaunches', hjoins'.trans hjoins⟩

theorem apart_step (hstep : v.Step d v' d') (hother : e.Fits v) (happart : d.Apart e) :
    d'.Apart e := by
  cases hstep with
  | quiet | reap => exact happart
  | accept =>
    refine ⟨?_, by rintro id ⟨⟩⟩
    rintro id id' charge charge' ⟨⟩ hcharge' heq
    obtain ⟨t, ht, _⟩ := hother.charge hcharge'
    have hlt := (List.getElem?_eq_some_iff.mp ht).1
    omega
  | verify | count | reserve | abandon | unwind | unwindMoved | pass | finish | settle | exit =>
    refine ⟨?_, by rintro id ⟨⟩⟩
    rintro id id' charge charge' ⟨⟩
    exact happart.charge rfl
  | discard | drop | sentinel | launch | leave =>
    exact ⟨by rintro id id' charge charge' ⟨⟩, by rintro id ⟨⟩⟩
  | release hleft =>
    refine ⟨?_, by rintro id ⟨⟩⟩
    rcases hleft with rfl | rfl
    · rintro id id' charge charge' ⟨⟩
    · rintro id id' charge charge' ⟨⟩
      exact happart.charge rfl
  | begin ht hstarting =>
    refine ⟨?_, by rintro id ⟨⟩⟩
    rintro id id' charge charge' ⟨⟩ hcharge' rfl
    obtain ⟨t', ht', hold⟩ := hother.charge hcharge'
    cases ht.symm.trans ht'
    rw [hold.starting] at hstarting
    cases hstarting
  | swap => exact ⟨happart.charge, fun hid howned => (hother.owned howned).1 hid⟩
  | join hexited => exact ⟨happart.charge, fun hid => happart.owned (List.mem_cons_of_mem _ hid)⟩

/-! ## Nothing gets lost -/

/-- The connection that a thread has to do something about keeps a thread, a closure has it, or it
needs none. -/
theorem charge_kept (hstep : v.Step d v' d') (hfits : d.Fits v) {charge : Charge}
    (hcharge : d.charge = some (id, charge)) :
    (∃ charge', d'.charge = some (id, charge')) ∨
      ∃ t, v'.tallies[id]? = some t ∧ (t.starting = true ∨ t.slot = false ∧ t.launches = 0) := by
  obtain ⟨t, ht, hold⟩ := hfits.charge hcharge
  cases hstep with
  | quiet | reap | swap | join => exact Or.inl ⟨_, hcharge⟩
  | accept | begin => cases hcharge
  | verify | count | reserve | abandon | unwind | unwindMoved | pass | finish | settle | exit =>
    cases hcharge
    exact Or.inl ⟨_, rfl⟩
  | discard | drop | sentinel | leave =>
    cases hcharge
    exact Or.inr ⟨_, change_self ht, Or.inr ⟨hold.slot, hold.launches⟩⟩
  | launch =>
    cases hcharge
    exact Or.inr ⟨_, change_self ht, Or.inl rfl⟩
  | release =>
    cases hcharge
    exact Or.inr ⟨_, change_self ht, Or.inr ⟨rfl, hold.launches⟩⟩

theorem maximum_step (hstep : v.Step d v' d') : v'.maximum = v.maximum := by
  cases hstep <;> rfl

theorem length_step (hstep : v.Step d v' d') :
    v'.tallies.length = v.tallies.length ∨
      v'.tallies.length = v.tallies.length + 1 ∧ d'.charge = some (v.tallies.length, .fresh) := by
  cases hstep with
  | accept => exact Or.inr ⟨by simp, rfl⟩
  | quiet | count | abandon | unwind | finish | exit | swap => exact Or.inl rfl
  | _ => exact Or.inl length_change

/-- A connection with a slot or a handler has a thread, or a closure has it. -/
theorem charged_step (h : v.Sound) (hstep : v.Step d v' d') (hfits : d.Fits v)
    (ht' : v'.tallies[id]? = some t') (hneed : t'.slot = true ∨ t'.launches = 1) :
    t'.starting = true ∨ (∃ charge, d'.charge = some (id, charge)) ∨
      ∃ t, v.tallies[id]? = some t ∧ (t.slot = true ∨ t.launches = 1) ∧ t.starting = false ∧
        ∀ charge, d.charge ≠ some (id, charge) := by
  by_cases hlt : id < v.tallies.length
  · have ht : v.tallies[id]? = some v.tallies[id] := List.getElem?_eq_getElem hlt
    by_cases hcharge : ∃ charge, d.charge = some (id, charge)
    · obtain ⟨charge, hcharge⟩ := hcharge
      rcases charge_kept hstep hfits hcharge with hkept |
        ⟨t'', ht'', hstarting | ⟨hslot, hlaunches⟩⟩
      · exact Or.inr (Or.inl hkept)
      · cases ht'.symm.trans ht''
        exact Or.inl hstarting
      · cases ht'.symm.trans ht''
        simp [hslot, hlaunches] at hneed
    · rcases (spares_of_step h hstep hfits).tally ht with hown | ⟨_, hrunning⟩ | ⟨joins, hsame⟩
      · exact absurd hown hcharge
      · exact Or.inr (Or.inl ⟨_, hrunning⟩)
      · cases ht'.symm.trans hsame
        by_cases hstarting : v.tallies[id].starting = true
        · exact Or.inl hstarting
        · exact Or.inr (Or.inr ⟨_, ht, hneed, Bool.eq_false_iff.mpr hstarting,
            not_exists.mp hcharge⟩)
  · have hlt' := (List.getElem?_eq_some_iff.mp ht').1
    rcases length_step hstep with hlength | ⟨hlength, hfresh⟩
    · omega
    · obtain rfl : id = v.tallies.length := by omega
      exact Or.inr (Or.inl ⟨_, hfresh⟩)

/-- A handler that was started and not joined is one that was so before, or it has a record. -/
theorem unjoined_back (hstep : v.Step d v' d') (hfits : d.Fits v) (ht' : v'.tallies[id]? = some t')
    (hlaunches : t'.launches = 1) (hjoins : t'.joins = 0) :
    (d.charge = some (id, .reserved) ∧ id ∈ v'.records) ∨
      ∃ t, v.tallies[id]? = some t ∧ t.launches = 1 ∧ t.joins = 0 := by
  cases hstep with
  | quiet | count | abandon | unwind | finish | exit | swap =>
    exact Or.inr ⟨t', ht', hlaunches, hjoins⟩
  | accept =>
    rcases getElem?_snoc ht' with hold | ⟨_, rfl⟩
    · exact Or.inr ⟨t', hold, hlaunches, hjoins⟩
    · cases hlaunches
  | verify | discard | drop | sentinel | reserve | unwindMoved | release | leave | pass | settle =>
    obtain ⟨t, ht, _⟩ := hfits.charge rfl
    rcases change_cases ht' ht with ⟨rfl, rfl⟩ | ⟨_, hold⟩
    · exact Or.inr ⟨t, ht, hlaunches, hjoins⟩
    · exact Or.inr ⟨t', hold, hlaunches, hjoins⟩
  | begin ht hstarting =>
    rcases change_cases ht' ht with ⟨rfl, rfl⟩ | ⟨_, hold⟩
    · exact Or.inr ⟨_, ht, hlaunches, hjoins⟩
    · exact Or.inr ⟨t', hold, hlaunches, hjoins⟩
  | launch =>
    obtain ⟨t, ht, _⟩ := hfits.charge rfl
    rcases change_cases ht' ht with ⟨rfl, rfl⟩ | ⟨_, hold⟩
    · exact Or.inl ⟨rfl, List.mem_append_right _ (List.mem_singleton_self _)⟩
    · exact Or.inr ⟨t', hold, hlaunches, hjoins⟩
  | @reap _ index id' | @join _ id' =>
    by_cases heq : id' = id
    · subst heq
      obtain ⟨t, ht, rfl⟩ : ∃ t, v.tallies[id']? = some t ∧
          { t with joins := t.joins + 1 } = t' := by
        have hlt := (List.getElem?_eq_some_iff.mp ht').1
        have hlt' : id' < v.tallies.length := hlt.trans_eq length_change
        have ht : v.tallies[id']? = some v.tallies[id'] := List.getElem?_eq_getElem hlt'
        exact ⟨_, ht, Option.some.inj ((change_self ht).symm.trans ht')⟩
      cases hjoins
    · exact Or.inr ⟨t', (change_of_ne _ heq).symm.trans ht', hlaunches, hjoins⟩

/-- A record stays, or a thread owns it, or it has been joined. -/
theorem owned_step (hstep : v.Step d v' d') (hfits : d.Fits v) (ht' : v'.tallies[id]? = some t')
    (hlaunches : t'.launches = 1) (hjoins : t'.joins = 0) :
    id ∈ v'.records ∨ id ∈ d'.owned ∨
      (∃ t, v.tallies[id]? = some t ∧ t.launches = 1 ∧ t.joins = 0) ∧ id ∉ v.records ∧
        id ∉ d.owned := by
  rcases unjoined_back hstep hfits ht' hlaunches hjoins with ⟨_, hmem⟩ | hold
  · exact Or.inl hmem
  by_cases hrecord : id ∈ v.records
  · cases hstep with
    | swap => exact Or.inr (Or.inl hrecord)
    | launch => exact Or.inl (List.mem_append_left _ hrecord)
    | @reap _ index id' hindex =>
      left
      obtain ⟨index', hindex'⟩ := List.getElem?_of_mem hrecord
      refine List.mem_eraseIdx_iff_getElem?.mpr ⟨index', ?_, hindex'⟩
      rintro rfl
      cases hindex.symm.trans hindex'
      obtain ⟨t, ht, _⟩ := hold
      cases (change_self ht).symm.trans ht'
      cases hjoins
    | _ => exact Or.inl hrecord
  · by_cases howned : id ∈ d.owned
    · cases hstep with
      | quiet | reap => exact Or.inr (Or.inl howned)
      | @join _ id' =>
        rcases List.mem_cons.mp howned with rfl | hrest
        · obtain ⟨t, ht, _⟩ := hold
          cases (change_self ht).symm.trans ht'
          cases hjoins
        · exact Or.inr (Or.inl hrest)
      | _ => cases howned
    · exact Or.inr (Or.inr ⟨hold, hrecord, howned⟩)

/-- Every handler that was started has been joined. -/
def Joined (v : Ledger) : Prop :=
  ∀ (id : Nat) (t : Tally), v.tallies[id]? = some t → t.launches = 1 → t.joins = 1

theorem Joined.step (hall : v.Joined) (h : v.Sound) (hstep : v.Step d v' d') (hfits : d.Fits v)
    (hreserved : ∀ id, d.charge ≠ some (id, .reserved)) : v'.Joined := by
  intro id t' ht' hlaunches
  have hle := ((h.step hstep hfits).tally ht').joins
  by_contra hjoins
  rcases unjoined_back hstep hfits ht' hlaunches (by omega) with ⟨hcharge, _⟩ | ⟨t, ht, hone, hzero⟩
  · exact hreserved id hcharge
  · have hjoined := hall id t ht hone
    omega

end Ledger

end PhotospiderDaemon.Server.Connections
