import PhotospiderDaemon.Server.Settlement
import PhotospiderDaemon.Server.StreamLaw

/-!
# The records of handlers

The constructor reserves storage for `maximum_active_connections` records. A record is only erased
by the reaping pass in front of an admission, but the admission itself depends on
`active_handlers`, which a handler decreases on its own. A handler that does so when the pass has
already left its record behind makes room in the counter and not in the vector, so that there can
be one record too many (`records_outgrow`). Without such a handler the storage is enough
(`records_bounded`).
-/

namespace PhotospiderDaemon.Server.Connections

open Foundation Ipc Orchestration

/-- A record that the reaping pass has left behind, before the counter is read. -/
def Thread.Passed (s : Impl) (id : Nat) : Thread → Prop
  | .run (.reaping _ index) => id ∈ s.handlers.take index
  | .run (.counting _) => id ∈ s.handlers
  | _ => False

/-- No handler releases its slot while the reaping pass has left its record behind and the counter
has not been read. -/
def Timely (c : Config Impl Thread) : Act Choice Call → Prop
  | .spawn _ => True
  | .move i _ => ∀ connection handler,
    c.threads[i]? = some (.handler ⟨connection, handler, .settling⟩) →
      ∀ l ∈ c.threads, ¬ l.Passed c.shared connection.id

namespace Ledger

variable {v v' : Ledger} {d d' : Duty} {id : Nat} {t : Tally}

/-- Connection `id` has a slot. -/
def Slotted (v : Ledger) (id : Nat) : Prop := ∃ t, v.tallies[id]? = some t ∧ t.slot = true

theorem Slotted.change (hslotted : v.Slotted id) {id' : Nat} {f : Tally → Tally}
    (hkeeps : id' = id → ∀ t, t.slot = true → (f t).slot = true) : (v.change id' f).Slotted id := by
  obtain ⟨t, ht, hslot⟩ := hslotted
  by_cases heq : id' = id
  · subst heq
    exact ⟨f t, change_self ht, hkeeps rfl t hslot⟩
  · exact ⟨t, (change_of_ne f heq).trans ht, hslot⟩

/-- A slot stays until it is released. -/
theorem Slotted.step (hslotted : v.Slotted id) (hstep : v.Step d v' d') :
    v'.Slotted id ∨ d.charge = some (id, .finishing) ∨ d.charge = some (id, .unwound) := by
  cases hstep with
  | quiet | count | abandon | unwind | finish | exit | swap => exact Or.inl hslotted
  | accept =>
    obtain ⟨t, ht, hslot⟩ := hslotted
    have hlt := (List.getElem?_eq_some_iff.mp ht).1
    exact Or.inl ⟨t, (List.getElem?_append_left hlt).trans ht, hslot⟩
  | reserve => exact Or.inl (hslotted.change fun _ _ _ => rfl)
  | @release id' =>
    by_cases heq : id' = id
    · exact Or.inr (Or.inr (by rw [heq]))
    · exact Or.inl (hslotted.change fun h => absurd h heq)
  | @settle id' =>
    by_cases heq : id' = id
    · exact Or.inr (Or.inl (by rw [heq]))
    · exact Or.inl (hslotted.change fun h => absurd h heq)
  | verify | discard | drop | sentinel | launch | unwindMoved | leave | begin | pass |
      reap | join =>
    exact Or.inl (hslotted.change fun _ _ h => h)

/-- Different connections with slots are counted. -/
theorem Sound.length_le (h : v.Sound) {records : List Nat} (hnodup : records.Nodup)
    (hslotted : ∀ id ∈ records, v.Slotted id) : records.length ≤ v.active.toNat := by
  have hcount : v.active.toNat =
      ((List.range v.tallies.length).filter fun id => v.tallies[id]?.any Tally.slot).length := by
    rw [h.counted, ← List.countP_eq_length_filter]
    refine countP_range fun ht => ?_
    rw [ht]
    rfl
  rw [hcount]
  refine (List.subperm_of_subset hnodup fun id hid => ?_).length_le
  obtain ⟨t, ht, hslot⟩ := hslotted id hid
  refine List.mem_filter.mpr ⟨List.mem_range.mpr (List.getElem?_eq_some_iff.mp ht).1, ?_⟩
  rw [ht]
  exact hslot

end Ledger

/-! ## The reaping pass -/

variable {listener : Nat} {maximum : UInt32} {c : Config Impl Thread}

/-- What the accept loop knows of the records: those that the reaping pass has left behind have
slots, and after the test of the capacity there is room for one more. -/
def Room (maximum : UInt32) (s : Impl) : Thread → Prop
  | .run (.reaping _ index) => ∀ id ∈ s.handlers.take index, s.ledger.Slotted id
  | .run (.counting _) => ∀ id ∈ s.handlers, s.ledger.Slotted id
  | .run (.admitting _) | .run (.launching _) => s.handlers.length < maximum.toNat
  | _ => True

/-- A step of the accept loop. -/
theorem room_of_runMove {i : Nat} {s s' : Impl} {stage stage' : RunStage}
    (h : RunMove i s stage s' stage') (hsound : s.ledger.Sound)
    (hmaximum : s.maximumActiveConnections = maximum) (hlength : s.handlers.length ≤ maximum.toNat)
    (hroom : Room maximum s (.run stage)) :
    s'.handlers.length ≤ maximum.toNat ∧ Room maximum s' (.run stage') := by
  cases h with
  | advance hadvance =>
    refine ⟨hlength, ?_⟩
    cases hadvance with
    | reaps => rintro id ⟨⟩
    | @reaped connection index hrecord =>
      intro id hid
      refine hroom id ?_
      rwa [List.take_of_length_le (List.getElem?_eq_none_iff.mp hrecord)]
    | @passes connection index record hrecord hfinished =>
      intro id hid
      rw [List.take_add_one, hrecord] at hid
      rcases List.mem_append.mp hid with hmem | hmem
      · exact hroom id hmem
      · obtain rfl : id = record := by simpa using hmem
        obtain ⟨t, ht, hlaunches, _⟩ := hsound.record (List.mem_of_getElem? hrecord)
        exact ⟨t, ht, (hsound.tally ht).slotted hlaunches hfinished⟩
    | free hfree =>
      have hle := hsound.length_le hsound.nodup hroom
      have hlt := UInt32.lt_iff_toNat_lt.mp (UInt32.not_le.mp hfree)
      rw [hmaximum] at hlt
      exact Nat.lt_of_le_of_lt hle hlt
    | _ => trivial
  | @reap connection index record hrecord hfinished hexited =>
    have hstep := ledgerStep_of_runMove (.reap hrecord hfinished hexited : RunMove i s
      (.reaping connection index) _ _)
    refine ⟨(List.length_eraseIdx_le _ _).trans hlength, fun id hid => ?_⟩
    have hmem : id ∈ s.handlers.take index := by
      have hlt := (List.getElem?_eq_some_iff.mp hrecord).1
      have htake : (s.handlers.eraseIdx index).take index = s.handlers.take index := by
        rw [List.eraseIdx_eq_take_drop_succ, List.take_left' (List.length_take_of_le hlt.le)]
      exact htake ▸ hid
    rcases (hroom id hmem).step hstep with hkept | ⟨⟨⟩⟩ | ⟨⟨⟩⟩
    exact hkept
  | launch =>
    refine ⟨?_, trivial⟩
    show (s.handlers ++ [_]).length ≤ _
    rw [List.length_append]
    exact hroom
  | swap => exact ⟨Nat.zero_le _, trivial⟩
  | reserve => exact ⟨hlength, hroom⟩
  | failing hmove | stop hmove => cases hmove <;> exact ⟨hlength, trivial⟩
  | @leave held => cases held <;> exact ⟨hlength, trivial⟩
  | _ => exact ⟨hlength, trivial⟩

/-- The destructor only takes records away. -/
theorem length_of_last {i : Nat} {s s' : Impl} {stage stage' : RunStage}
    (h : RunMove i s stage s' stage') (hlast : stage.last = true) (hentering : stage ≠ .entering) :
    s'.handlers.length ≤ s.handlers.length := by
  cases h with
  | advance hadvance => exact Nat.le_refl _
  | begin => exact absurd rfl hentering
  | stop hmove => cases hmove <;> exact Nat.le_refl _
  | swap => exact Nat.zero_le _
  | join => exact Nat.le_refl _
  | @leave held => cases held <;> exact Nat.le_refl _
  | _ => cases hlast

/-- Only `run()` relies on the records, from the reaping pass on. -/
theorem room_of_idle {s : Impl} {l : Thread} (h : l.runs = false ∨ l.span = none) :
    Room maximum s l := by
  cases l with
  | run stage =>
    cases stage with
    | reaping | counting | admitting | launching => exact h.elim (by rintro ⟨⟩) (by rintro ⟨⟩)
    | _ => trivial
  | _ => trivial

variable [Kernel]

/-- A step of a thread that is neither in `run()` nor in the destructor leaves the records alone,
and of the slots it can only release its own. -/
theorem spares_records {i : Nat} {l l' : Thread} {choice : Choice} {s' : Impl}
    (hmoves : server.Moves c i l choice s' l') (hspan : l.span = none)
    (hruns : l.runs = false) :
    s'.handlers = c.shared.handlers ∧ ∀ id, c.shared.ledger.Slotted id →
      s'.ledger.Slotted id ∨ ∃ connection handler,
        l = .handler ⟨connection, handler, .settling⟩ ∧ connection.id = id := by
  have hstep := ledgerStep_of_moves hmoves
  cases threadMove hmoves with
  | run => cases hruns
  | destroy hlifetime => exact ⟨rfl, fun id hslotted => Or.inl hslotted⟩
  | @destroying stage stage' _ hstage hmove =>
    cases stage with
    | entering => exact absurd rfl hstage
    | _ => cases hspan
  | begin =>
    refine ⟨rfl, fun id hslotted => Or.inl ?_⟩
    rcases hslotted.step hstep with hkept | ⟨⟨⟩⟩ | ⟨⟨⟩⟩
    exact hkept
  | @handler connection handler handler' stage stage' _ hmove =>
    refine ⟨?_, fun id hslotted => ?_⟩
    · cases hmove with
      | stop hmove => cases hmove <;> rfl
      | _ => rfl
    · rcases hslotted.step hstep with hkept | hcharge | hcharge
      · exact Or.inl hkept
      · cases stage with
        | settling =>
          cases hcharge
          exact Or.inr ⟨connection, handler, rfl, rfl⟩
        | _ => cases hcharge
      · cases stage <;> cases hcharge
  | stop hmove =>
    refine ⟨by cases hmove <;> rfl, fun id hslotted => Or.inl ?_⟩
    rcases hslotted.step hstep with hkept | ⟨⟨⟩⟩ | ⟨⟨⟩⟩
    exact hkept
  | openFile | closeFile => exact ⟨rfl, fun id hslotted => Or.inl hslotted⟩

/-- A step of a handler, or of a thread outside. -/
theorem room_other {i : Nat} {l l' m : Thread} {choice : Choice} {s' : Impl}
    (hmoves : server.Moves c i l choice s' l') (hspan : l.span = none) (hruns : l.runs = false)
    (hact : Timely c (.move i choice)) (hm : m ∈ c.threads) (hroom : Room maximum c.shared m) :
    Room maximum s' m := by
  obtain ⟨hhandlers, hslots⟩ := spares_records hmoves hspan hruns
  have hkeeps : ∀ id, m.Passed c.shared id → c.shared.ledger.Slotted id → s'.ledger.Slotted id := by
    intro id hpassed hslotted
    rcases hslots id hslotted with hkept | ⟨connection, handler, rfl, rfl⟩
    · exact hkept
    · exact absurd hpassed (hact connection handler hmoves.thread m hm)
  cases m with
  | run stage =>
    cases stage with
    | reaping connection index =>
      intro id hid
      rw [hhandlers] at hid
      exact hkeeps id hid (hroom id hid)
    | counting connection =>
      intro id hid
      rw [hhandlers] at hid
      exact hkeeps id hid (hroom id hid)
    | admitting | launching =>
      show s'.handlers.length < _
      rw [hhandlers]
      exact hroom
    | _ => trivial
  | _ => trivial

theorem room_within (h : server.Within Timely (initial listener maximum) c) :
    c.shared.handlers.length ≤ maximum.toNat ∧ ∀ l ∈ c.threads, Room maximum c.shared l := by
  induction h with
  | refl =>
    refine ⟨Nat.zero_le _, fun l hl => ?_⟩
    obtain rfl := List.mem_singleton.mp hl
    trivial
  | @next c₁ c₂ act hwithin hact hnext ih =>
    obtain ⟨hlength, hroom⟩ := ih
    have hreachable : Reachable listener maximum c₁ := hwithin.leads
    rcases Program.next_cases hnext with ⟨request, rfl, rfl⟩ |
      ⟨i, l, choice, s', l', rfl, hmoves, rfl⟩
    · refine ⟨hlength, fun l hl => ?_⟩
      rcases List.mem_append.mp hl with hl | hl
      · exact hroom l hl
      · rw [List.mem_singleton.mp hl]
        cases request <;> trivial
    · have hspans := holds_spans hreachable
      have hown := hroom l (List.mem_of_getElem? hmoves.thread)
      -- what holds of the thread of the step and of the others
      have hall : Room maximum s' l' →
          (∀ j m, i ≠ j → c₁.threads[j]? = some m → Room maximum s' m) →
          ∀ m ∈ c₁.threads.set i l', Room maximum s' m := by
        intro hself hothers m hm
        obtain ⟨j, hj⟩ := List.getElem?_of_mem hm
        rcases getElem?_set_some hj with ⟨rfl, rfl⟩ | ⟨hne, hj⟩
        · exact hself
        · exact hothers j m hne hj
      cases threadMove hmoves with
      | @run stage stage' _ hmove =>
        obtain ⟨hlength', hself⟩ := room_of_runMove hmove (holds_books hreachable).shared
          (maximum_eq hreachable) hlength hown
        refine ⟨hlength', hall hself fun j m hne hj => room_of_idle (Or.inl ?_)⟩
        exact (hspans.pair hne hmoves.thread hj).2.resolve_left (by rintro ⟨⟩)
      | @destroying stage stage' _ hstage hmove =>
        have hle := length_of_last hmove ((hspans.thread hmoves.thread).last rfl) hstage
        have hspan : (Thread.destroy stage).span ≠ none := by
          cases stage with
          | entering => exact absurd rfl hstage
          | _ => rintro ⟨⟩
        refine ⟨hle.trans hlength, hall trivial fun j m hne hj => room_of_idle (Or.inr ?_)⟩
        exact (hspans.pair hne hmoves.thread hj).1.resolve_left hspan
      | destroy | begin | handler | stop | openFile | closeFile =>
        refine ⟨?_, hall trivial fun j m hne hj => ?_⟩
        · exact (congrArg List.length (spares_records hmoves rfl rfl).1).trans_le hlength
        · exact room_other hmoves rfl rfl hact (List.mem_of_getElem? hj)
            (hroom m (List.mem_of_getElem? hj))

/-- The records stay within the storage that the constructor has reserved, in every run in which no
handler releases its slot while the reaping pass has left its record behind and the counter has not
been read. -/
theorem records_bounded (h : server.Within Timely (initial listener maximum) c) :
    c.shared.handlers.length ≤ maximum.toNat ∧
      ∀ connection, .run (.launching connection) ∈ c.threads →
        c.shared.handlers.length < maximum.toNat := by
  obtain ⟨hlength, hroom⟩ := room_within h
  exact ⟨hlength, fun connection hl => hroom _ hl⟩

/-- The reaping pass is under way, or the counter is not read yet. -/
def Thread.reaps : Thread → Bool
  | .run (.reaping _ _) | .run (.counting _) => true
  | _ => false

def Thread.settles : Thread → Bool
  | .handler ⟨_, _, .settling⟩ => true
  | _ => false

def Thread.launching? : Thread → Option UniqueDescriptor
  | .run (.launching connection) => some connection
  | _ => none

omit [Kernel] in
theorem Thread.eq_launching {l : Thread} {connection : UniqueDescriptor}
    (h : l.launching? = some connection) : l = .run (.launching connection) := by
  unfold Thread.launching? at h
  split at h <;> cases h
  rfl

/-- No handler releases its slot during a reaping pass. -/
def tidy (c : Config Impl Thread) : Act Choice Call → Bool
  | .spawn _ => true
  | .move i _ => !c.threads[i]?.any Thread.settles || !c.threads.any Thread.reaps

omit [Kernel] in
theorem timely_of_tidy (c : Config Impl Thread) (act : Act Choice Call) (h : tidy c act = true) :
    Timely c act := by
  cases act with
  | spawn call => trivial
  | move i choice =>
    intro connection handler hl l hmem hpassed
    have hreaps : l.reaps = false := by
      simp only [tidy, hl, Option.any_some, Thread.settles, Bool.not_true, Bool.false_or,
        Bool.not_eq_true', List.any_eq_false] at h
      simpa using h l hmem
    unfold Thread.Passed at hpassed
    split at hpassed <;> first | cases hreaps | exact hpassed

/-- The second of two handlers ends before the third connection is accepted. -/
def reapingRun : List (Act Choice Call) :=
  [List.replicate 3 (.move 0 .go), [.move 0 (.accept 5 (.accepted [] [.ready 0] []))],
    List.replicate 6 (.move 0 .go), [.spawn (.handler 0), .move 1 .go, .move 0 .go, .move 0 .go],
    [.move 0 (.accept 6 (.accepted [] [.ready 0] []))], List.replicate 7 (.move 0 .go),
    [.spawn (.handler 1), .move 2 .go, .move 2 (.enter .plain), .move 2 .go, .move 2 .go,
      .move 2 (.turn failingTurn)], List.replicate 6 (.move 2 .go),
    [.move 0 .go, .move 0 .go, .move 0 (.accept 7 (.accepted [] [] []))],
    List.replicate 7 (.move 0 .go)].flatten

omit [Kernel] in
/-- The record of the handler that has ended is erased, and the one that is left makes no third
with the new one. -/
theorem records_bounded_launch :
    letI := sampleKernel
    ∃ c connection, server.Within Timely (initial 3 2) c ∧
      .run (.launching connection) ∈ c.threads ∧ c.shared.handlers = [0] ∧
      c.shared.handlers.length < (2 : UInt32).toNat := by
  let _ : Kernel := sampleKernel
  have hrun : ((server.runWithin tidy (initial 3 2) reapingRun).any fun c =>
      c.threads.any (fun l => l.launching?.isSome) && decide (c.shared.handlers = [0])) = true := by
    decide +kernel
  obtain ⟨c, hrun, htest⟩ := (Option.any_eq_true _ _).mp hrun
  obtain ⟨hlaunching, hhandlers⟩ := Bool.and_eq_true_iff.mp htest
  obtain ⟨l, hmem, hl⟩ := List.any_eq_true.mp hlaunching
  have hwithin : server.Within Timely (initial 3 2) c := .of_runWithin timely_of_tidy .refl hrun
  obtain ⟨connection, hconnection⟩ := Option.isSome_iff_exists.mp hl
  rw [Thread.eq_launching hconnection] at hmem
  exact ⟨c, connection, hwithin, hmem, of_decide_eq_true hhandlers,
    (records_bounded hwithin).2 connection hmem⟩

/-- The first handler is done when the reaping pass for the second connection has left its record
behind. -/
def outgrowingRun : List (Act Choice Call) :=
  [.move 0 .go, .move 0 .go, .move 0 .go, .move 0 (.accept 5 (.accepted [] [.ready 0] [])),
    .move 0 .go, .move 0 .go, .move 0 .go, .move 0 .go, .move 0 .go, .move 0 .go,
    .spawn (.handler 0), .move 1 .go, .move 0 .go, .move 0 .go,
    .move 0 (.accept 6 (.accepted [] [] [])), .move 0 .go, .move 0 .go, .move 0 .go,
    .move 1 (.enter .plain), .move 1 .go, .move 1 .go, .move 1 (.turn failingTurn), .move 1 .go,
    .move 1 .go, .move 1 .go, .move 1 .go, .move 1 .go, .move 0 .go, .move 0 .go, .move 0 .go,
    .move 0 .go]

omit [Kernel] in
/-- With a maximum of one there are two records. -/
theorem records_outgrow :
    letI := sampleKernel
    ∃ c, Reachable 3 1 c ∧ (1 : UInt32).toNat < c.shared.handlers.length := by
  let _ : Kernel := sampleKernel
  have hrun : ((server.run (initial 3 1) outgrowingRun).any fun c =>
      decide (1 < c.shared.handlers.length)) = true := by
    decide +kernel
  obtain ⟨c, hrun, hlength⟩ := (Option.any_eq_true _ _).mp hrun
  refine ⟨c, ⟨outgrowingRun, ?_, hrun⟩, of_decide_eq_true hlength⟩
  intro act _
  cases act <;> trivial

end PhotospiderDaemon.Server.Connections
