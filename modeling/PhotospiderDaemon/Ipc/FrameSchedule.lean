import PhotospiderDaemon.Ipc.FrameFaults

/-!
# Torn frames

Which reads and writes are left by an exception inside of a frame. This is decided before they
begin: by which of their allocations fail, by the outcomes of the coming `send` and `recv` calls,
and by the header that waits in the stream.

* `writeFrameOrRaise_sending`: the schedule of the `send` calls decides how a write ends.
* `readFrameOrRaise_of_tears`, `readFrameOrRaise_raised`: a read that throws is torn or has taken
  a whole frame.
-/

namespace PhotospiderDaemon.Ipc

open Foundation

/-! ## Torn writes -/

/-- How a schedule of `send` calls moves a frame with a payload of the given size. -/
def sending (size : Nat) (events : List (TransferEvent Bytes)) : Passage Bytes Unit :=
  let header := passage 4 (fun _ _ => ()) events 4 4 ()
  match header.ending with
  | .complete =>
    let payload := passage size (fun _ _ => ()) header.events size size ()
    { payload with moved := 4 + payload.moved }
  | _ => header

/-- The write is broken off behind its first byte, and there is no storage for its status. -/
def WriteTears (diagnostic : Bool) (size : Nat) (events : List (TransferEvent Bytes)) : Prop :=
  diagnostic = true ∧ (sending size events).ending.Broken ∧ 0 < (sending size events).moved

section Transport

variable [Kernel] {descriptor : Int} {diagnostic : Bool}

/-- How a write ends whose schedule ends in the given way. -/
def WriteEnds (outcome : Outcome Status Outgoing) : Ending Bytes → Prop
  | .complete => ∃ o, outcome = .returned Status.success o
  | .stopped | .failed _ => ∃ status o, outcome = .returned status o ∧ status.ok = false
  | .blocked => ∃ o, outcome = .blocked o

theorem writeExact_passage (source : Bytes) (outgoing : Outgoing) :
    (writeExact source outgoing).state = ⟨outgoing.sent ++ source.take
        (passage source.length (fun _ _ => ()) outgoing.events source.length
          source.length ()).moved,
      (passage source.length (fun _ _ => ()) outgoing.events source.length source.length
        ()).events⟩ ∧
      WriteEnds (writeExact source outgoing)
        (passage source.length (fun _ _ => ()) outgoing.events source.length source.length
          ()).ending := by
  obtain ⟨hending, hsent, hevents⟩ := transmit_passage (fun _ _ => ()) outgoing.events
    (Nat.le_refl source.length) outgoing.sent ()
  rw [← hending, ← hsent, ← hevents]
  unfold writeExact
  obtain ⟨ending, sent, unsent, events⟩ := transmit outgoing.events source outgoing.sent
  cases ending with
  | complete => exact ⟨rfl, _, rfl⟩
  | stopped => exact ⟨rfl, _, _, rfl, by simp⟩
  | failed errno => exact ⟨rfl, _, _, rfl, by simp⟩
  | blocked => exact ⟨rfl, _, rfl⟩

/-- The schedule of the `send` calls decides how a write ends and what it has sent. -/
theorem writeFrame_sending (hd : 0 ≤ descriptor) {payload : Bytes} (hpayload : InRange payload)
    (outgoing : Outgoing) :
    (writeFrame descriptor payload outgoing).state.sent = outgoing.sent ++
        (frame payload).take (sending payload.length outgoing.events).moved ∧
      WriteEnds (writeFrame descriptor payload outgoing)
        (sending payload.length outgoing.events).ending := by
  have haccept : ¬ (decide (descriptor < 0) || payload.isEmpty ||
      decide (payload.length > maximumFramePayloadBytes) ||
      decide (payload.length > 2 ^ 32 - 1)) = true := by
    have hne := List.length_pos_iff.mp hpayload.1
    have hlt := hpayload.length_lt
    have hle := hpayload.2
    simp only [Bool.or_eq_true, decide_eq_true_eq, List.isEmpty_iff, not_or]
    exact ⟨⟨⟨by omega, hne⟩, by omega⟩, by omega⟩
  obtain ⟨hstate, hends⟩ := writeExact_passage (frameHeader payload.length) outgoing
  change _ = Outgoing.mk (_ ++ List.take (passage 4 _ _ 4 4 ()).moved _)
    (passage 4 _ _ 4 4 ()).events at hstate
  change WriteEnds _ (passage 4 _ _ 4 4 ()).ending at hends
  obtain ⟨hmoved, -, hcomplete⟩ := passage_moved 4 (fun _ _ => ()) outgoing.events 4 4 ()
  have hshort : (frame payload).take (passage 4 (fun _ _ => ()) outgoing.events 4 4 ()).moved =
      (frameHeader payload.length).take
        (passage 4 (fun _ _ => ()) outgoing.events 4 4 ()).moved :=
    List.take_append_of_le_length hmoved
  unfold writeFrame sending
  rw [if_neg haccept]
  generalize passage 4 (fun _ _ => ()) outgoing.events 4 4 () = header at *
  obtain ⟨ending, moved, state, events⟩ := header
  dsimp only at hstate hends hmoved hcomplete hshort ⊢
  cases ending with
  | complete =>
    obtain ⟨o, ho⟩ := hends
    obtain rfl := hcomplete.mp rfl
    rw [ho] at hstate ⊢
    obtain rfl : o = _ := hstate
    simp only [Status.ok_success, if_true]
    obtain ⟨hstate', hends'⟩ := writeExact_passage payload
      ⟨outgoing.sent ++ (frameHeader payload.length).take 4, events⟩
    refine ⟨?_, hends'⟩
    have hheader : (frameHeader payload.length).length = 4 := rfl
    rw [hstate', frame, List.take_append, hheader, Nat.add_sub_cancel_left, List.append_assoc,
      List.take_of_length_le (Nat.le_of_eq hheader),
      List.take_of_length_le (Nat.le_trans (Nat.le_of_eq hheader) (Nat.le_add_right 4 _))]
  | stopped =>
    obtain ⟨status, o, ho, hstatus⟩ := hends
    rw [ho] at hstate ⊢
    simp only [hstatus, hshort]
    exact ⟨congrArg Outgoing.sent hstate, status, o, rfl, hstatus⟩
  | failed errno =>
    obtain ⟨status, o, ho, hstatus⟩ := hends
    rw [ho] at hstate ⊢
    simp only [hstatus, hshort]
    exact ⟨congrArg Outgoing.sent hstate, status, o, rfl, hstatus⟩
  | blocked =>
    obtain ⟨o, ho⟩ := hends
    rw [ho] at hstate ⊢
    simp only [hshort]
    exact ⟨congrArg Outgoing.sent hstate, o, rfl⟩

/-- A write throws exactly if it is broken off and there is no storage for its status. -/
theorem writeFrameOrRaise_sending (diagnostic : Bool) (hd : 0 ≤ descriptor) {payload : Bytes}
    (hpayload : InRange payload) (outgoing : Outgoing) :
    ((∃ o, writeFrameOrRaise diagnostic descriptor payload outgoing = .raised o) ↔
        diagnostic = true ∧ (sending payload.length outgoing.events).ending.Broken) ∧
      ((∃ o, writeFrameOrRaise diagnostic descriptor payload outgoing =
          .returned Status.success o) ↔
        (sending payload.length outgoing.events).ending = .complete) ∧
      (writeFrameOrRaise diagnostic descriptor payload outgoing).state.sent = outgoing.sent ++
        (frame payload).take (sending payload.length outgoing.events).moved := by
  obtain ⟨hsent, hends⟩ := writeFrame_sending hd hpayload outgoing
  unfold writeFrameOrRaise
  generalize sending payload.length outgoing.events = p at *
  obtain ⟨ending, moved, state, events⟩ := p
  dsimp only at hsent hends ⊢
  cases ending with
  | complete =>
    obtain ⟨o, ho⟩ := hends
    rw [ho] at hsent ⊢
    simpa [Attempt.state, Ending.Broken] using hsent
  | stopped | failed errno =>
    obtain ⟨status, o, ho, hstatus⟩ := hends
    have hne : status ≠ Status.success := by
      rintro rfl
      simp at hstatus
    rw [ho] at hsent ⊢
    cases diagnostic <;> simpa [Attempt.state, hstatus, hne, Ending.Broken] using hsent
  | blocked =>
    obtain ⟨o, ho⟩ := hends
    rw [ho] at hsent ⊢
    simpa [Attempt.state, Ending.Broken] using hsent

/-! ## Torn reads -/

omit [Kernel] in
/-- How the coming `recv` calls move the header of a frame. -/
def headerPassage (connection : Connection) : Passage Bytes Unit :=
  passage 4 (fun _ _ => ()) connection.events connection.stream.length 4 ()

omit [Kernel] in
/-- The coming `recv` calls move a whole header, and the length in it is accepted. -/
structure Announces (connection : Connection) (size : Nat) : Prop where
  header : (headerPassage connection).ending = .complete
  size_eq : frameSize (connection.stream.take 4) = size
  pos : 0 < size
  le : size ≤ maximumFramePayloadBytes

omit [Kernel] in
/-- The read is left by an exception before a whole frame was taken: there is no storage for the
payload, or the read is broken off and there is no storage for its status. -/
inductive ReadTears (growth : Option Nat) (diagnostic : Bool) (connection : Connection) : Prop where
  | header (hbroken : (headerPassage connection).ending.Broken) (hdiagnostic : diagnostic = true)
  | length (hheader : (headerPassage connection).ending = .complete)
      (hlength : frameSize (connection.stream.take 4) = 0 ∨
        maximumFramePayloadBytes < frameSize (connection.stream.take 4))
      (hdiagnostic : diagnostic = true)
  | reserve {size : Nat} (hannounces : Announces connection size) (hgrowth : growth = some 0)
  | growth {size calls : Nat} (hannounces : Announces connection size)
      (hgrowth : growth = some (calls + 1))
      (hexceeded : storageExceeded size (connection.stream.length - 4) calls
        (headerPassage connection).events = true)
      (hshort : (payloadPassage size (connection.stream.length - 4)
        ((headerPassage connection).events.take (calls + 1))).moved < size)
  | payload {size : Nat} (hannounces : Announces connection size)
      (hbroken : (payloadPassage size (connection.stream.length - 4)
        (headerPassage connection).events).ending.Broken)
      (hdiagnostic : diagnostic = true)

/-- How a read ends whose schedule ends in the given way. -/
def ReadEnds (outcome : Outcome (Except Status Bytes) Connection) : Ending Bytes → Prop
  | .complete => ∃ bytes c, outcome = .returned (.ok bytes) c
  | .stopped | .failed _ => ∃ status c, outcome = .returned (.error status) c
  | .blocked => ∃ c, outcome = .blocked c

omit [Kernel] in
theorem ReadEnds.error_iff {outcome : Outcome (Except Status Bytes) Connection}
    {ending : Ending Bytes} (h : ReadEnds outcome ending) :
    (∃ status c, outcome = .returned (.error status) c) ↔ ending.Broken := by
  cases ending with
  | complete =>
    obtain ⟨bytes, c, rfl⟩ := h
    simp [Ending.Broken]
  | stopped | failed errno => exact iff_of_true h trivial
  | blocked =>
    obtain ⟨c, rfl⟩ := h
    simp [Ending.Broken]

theorem conclude_ends {σ : Type} (r : Receipt Bytes σ) (endOfStream : Status)
    (connection : Connection) : ReadEnds (conclude r endOfStream connection) r.ending := by
  unfold conclude
  cases r.ending with
  | complete => exact ⟨_, _, rfl⟩
  | stopped => exact ⟨_, _, rfl⟩
  | failed errno => exact ⟨_, _, rfl⟩
  | blocked => exact ⟨_, rfl⟩

theorem readPayload_ends (size : Nat) (connection : Connection) :
    ReadEnds (readPayload size connection)
      (payloadPassage size connection.stream.length connection.events).ending := by
  have hending := (receive_passage size readChunkBytes captureInto Storage.insert connection.events
    connection.stream [] connection.progress (.reserve size)).1
  exact hending ▸ conclude_ends _ _ _

omit [Kernel] in
/-- The state behind the header of a frame. -/
def behindHeader (connection : Connection) : Connection :=
  ⟨connection.stream.drop 4, (headerPassage connection).events, resetProgress connection.progress⟩

theorem readExact_header (connection : Connection) :
    ReadEnds (readExact 4 { connection with progress := resetProgress connection.progress })
        (headerPassage connection).ending ∧
      ((headerPassage connection).ending = .complete → 4 ≤ connection.stream.length ∧
        readExact 4 { connection with progress := resetProgress connection.progress } =
          .returned (.ok (connection.stream.take 4)) (behindHeader connection)) := by
  obtain ⟨hending, hreceived, hstream, hevents⟩ := receive_passage 4 4 (fun (_ : Unit) _ => ())
    (fun (_ : Unit) _ => ()) connection.events connection.stream [] () ()
  change _ = (headerPassage connection).ending at hending
  change _ = _ ++ connection.stream.take (headerPassage connection).moved at hreceived
  change _ = connection.stream.drop (headerPassage connection).moved at hstream
  change _ = (headerPassage connection).events at hevents
  refine ⟨hending ▸ conclude_ends _ _ _, fun hcomplete => ?_⟩
  obtain ⟨-, havailable, hmoved⟩ :=
    passage_moved 4 (fun _ _ => ()) connection.events connection.stream.length 4 ()
  have hfour : (headerPassage connection).moved = 4 := hmoved.mp hcomplete
  refine ⟨hmoved.mp hcomplete ▸ havailable, ?_⟩
  unfold readExact conclude behindHeader
  dsimp only
  rw [hending, hcomplete]
  dsimp only
  rw [hreceived, hstream, hevents, hfour, List.nil_append]

theorem Announces.length_header {connection : Connection} {size : Nat}
    (h : Announces connection size) :
    (connection.stream.take 4).length = 4 := by
  rw [List.length_take]
  exact Nat.min_eq_left ((readExact_header connection).2 h.header).1

/-- An accepted header starts the payload, and nothing else does. -/
theorem payloadStart_iff (hd : 0 ≤ descriptor) {connection c : Connection} {size : Nat} :
    payloadStart descriptor connection = some (size, c) ↔
      Announces connection size ∧ c = behindHeader connection := by
  obtain ⟨hends, hread⟩ := readExact_header connection
  unfold payloadStart
  rw [if_neg (Int.not_lt.mpr hd)]
  cases hending : (headerPassage connection).ending with
  | complete =>
    rw [(hread hending).2]
    dsimp only
    split
    · rename_i hbounds
      simp only [Bool.or_eq_true, decide_eq_true_eq] at hbounds
      refine iff_of_false nofun fun h => ?_
      have hsize := h.1.size_eq
      have hpos := h.1.pos
      have hle := h.1.le
      omega
    · rename_i hbounds
      simp only [Bool.or_eq_true, decide_eq_true_eq, not_or] at hbounds
      constructor
      · intro h
        cases h
        exact ⟨⟨hending, rfl, by omega, by omega⟩, rfl⟩
      · rintro ⟨h, rfl⟩
        rw [h.size_eq]
  | stopped | failed errno =>
    rw [hending] at hends
    obtain ⟨status, c', hc⟩ := hends
    rw [hc]
    exact iff_of_false nofun fun h => by cases hending.symm.trans h.1.header
  | blocked =>
    rw [hending] at hends
    obtain ⟨c', hc⟩ := hends
    rw [hc]
    exact iff_of_false nofun fun h => by cases hending.symm.trans h.1.header

/-- Where the storage of a payload is missing. -/
theorem payloadFailure_cases {calls size : Nat} {c c' : Connection}
    (h : payloadFailure calls size c = some c') :
    calls = 0 ∧ c' = c ∨
      ∃ earlier, calls = earlier + 1 ∧
        storageExceeded size c.stream.length earlier c.events = true ∧
        c'.stream = c.stream.drop
          (payloadPassage size c.stream.length (c.events.take (earlier + 1))).moved := by
  cases calls with
  | zero =>
    cases h
    exact Or.inl ⟨rfl, rfl⟩
  | succ earlier =>
    dsimp only [payloadFailure] at h
    split at h
    · rename_i hexceeded
      cases h
      exact Or.inr ⟨earlier, rfl, hexceeded, readPayload_passage _ _⟩
    · cases h

omit [Kernel] in
theorem Announces.eq {connection : Connection} {size size' : Nat} (h : Announces connection size)
    (h' : Announces connection size') : size = size' :=
  h.size_eq.symm.trans h'.size_eq

/-- A read that has no storage for its payload is torn, or has taken a whole frame. -/
theorem growthFailure_tears (diagnostic : Bool) (hd : 0 ≤ descriptor) {growth : Option Nat}
    {connection c : Connection} (h : growthFailure growth descriptor connection = some c) :
    (∃ consumed, connection.stream = consumed ++ c.stream ∧ ¬ FrameBegins consumed) ∧
        ReadTears growth diagnostic connection ∨
      (∃ payload, InRange payload ∧ connection.stream = frame payload ++ c.stream) ∧
        ¬ ReadTears growth diagnostic connection := by
  unfold growthFailure at h
  split at h
  · cases h
  · rename_i calls
    split at h
    · cases h
    · rename_i size c₀ hstart
      obtain ⟨hannounces, rfl⟩ := (payloadStart_iff hd).mp hstart
      have hlength := hannounces.length_header
      have hbehind : (behindHeader connection).stream.length = connection.stream.length - 4 :=
        List.length_drop
      have hsplit : connection.stream =
          connection.stream.take 4 ++ (behindHeader connection).stream :=
        (List.take_append_drop 4 _).symm
      obtain rfl := hannounces.size_eq
      rcases payloadFailure_cases h with ⟨rfl, rfl⟩ | ⟨earlier, rfl, hexceeded, hstream⟩
      · refine Or.inl ⟨⟨_, hsplit, fun hbegins => ?_⟩, .reserve hannounces rfl⟩
        exact absurd hbegins.length_lt (Nat.not_lt.mpr (Nat.le_of_eq hlength))
      · obtain ⟨hmoved, havailable, hcomplete⟩ := passage_moved readChunkBytes Storage.insert
          ((headerPassage connection).events.take (earlier + 1))
          (behindHeader connection).stream.length (frameSize (connection.stream.take 4))
          (.reserve (frameSize (connection.stream.take 4)))
        have hfront := front_cases hlength hannounces.pos hannounces.le hmoved havailable
        have hconsumed : connection.stream = (connection.stream.take 4 ++
            (behindHeader connection).stream.take (payloadPassage
              (frameSize (connection.stream.take 4)) (behindHeader connection).stream.length
              ((headerPassage connection).events.take (earlier + 1))).moved) ++ c.stream := by
          rw [hstream, List.append_assoc]
          exact hsplit.trans (congrArg _ (List.take_append_drop _ _).symm)
        rw [hbehind] at hexceeded hfront hcomplete hconsumed
        rcases hfront with ⟨⟨payload, hpayload, hframe⟩, hwhole⟩ | ⟨hnone, hshort⟩
        · refine Or.inr ⟨⟨payload, hpayload, hconsumed.trans (congrArg (· ++ c.stream) hframe)⟩, ?_⟩
          intro htears
          cases htears with
          | header hbroken => simp [hannounces.header, Ending.Broken] at hbroken
          | length _ hbounds =>
            have hpos := hannounces.pos
            have hle := hannounces.le
            omega
          | reserve _ hgrowth => cases hgrowth
          | growth hannounces' hgrowth _ hshort =>
            cases hgrowth
            obtain rfl := hannounces.eq hannounces'
            exact Nat.lt_irrefl _ (hwhole ▸ hshort)
          | payload hannounces' hbroken =>
            obtain rfl := hannounces.eq hannounces'
            have hall := passage_take (earlier + 1) readChunkBytes Storage.insert
              (headerPassage connection).events _ _ _ (hcomplete.mpr hwhole)
            simp [payloadPassage, hall, Ending.Broken] at hbroken
        · exact Or.inl ⟨⟨_, hconsumed, hnone⟩, .growth hannounces rfl hexceeded hshort⟩

/-- A read behind an accepted header fails exactly if its schedule breaks off the payload. -/
theorem readFrame_announced (hd : 0 ≤ descriptor) {connection : Connection} {size : Nat}
    (h : Announces connection size) :
    (∃ status c, readFrame descriptor connection = .returned (.error status) c) ↔
      (payloadPassage size (connection.stream.length - 4)
        (headerPassage connection).events).ending.Broken := by
  obtain ⟨-, -, -, -, -, -, hread⟩ := payloadStart_spec ((payloadStart_iff hd).mpr ⟨h, rfl⟩)
  have hends := readPayload_ends size (behindHeader connection)
  rw [show (behindHeader connection).stream.length = _ from List.length_drop] at hends
  rw [hread]
  exact hends.error_iff

/-- A read without one fails exactly if its schedule breaks off the header, or if the length in
the header is not accepted. -/
theorem readFrame_unannounced (hd : 0 ≤ descriptor) {connection : Connection}
    (h : ∀ size, ¬ Announces connection size) :
    (∃ status c, readFrame descriptor connection = .returned (.error status) c) ↔
      (headerPassage connection).ending.Broken ∨ (headerPassage connection).ending = .complete ∧
        (frameSize (connection.stream.take 4) = 0 ∨
          maximumFramePayloadBytes < frameSize (connection.stream.take 4)) := by
  obtain ⟨hends, hread⟩ := readExact_header connection
  unfold readFrame
  rw [if_neg (Int.not_lt.mpr hd)]
  by_cases hcomplete : (headerPassage connection).ending = .complete
  · have hbounds : frameSize (connection.stream.take 4) = 0 ∨
        maximumFramePayloadBytes < frameSize (connection.stream.take 4) := by
      by_contra hbounds
      exact h _ ⟨hcomplete, rfl, by omega, by omega⟩
    simp only [(hread hcomplete).2]
    rw [if_pos (by simpa using hbounds)]
    exact iff_of_true ⟨_, _, rfl⟩ (Or.inr ⟨hcomplete, hbounds⟩)
  · rw [or_iff_left fun hheader => hcomplete hheader.1, ← hends.error_iff]
    cases hheader :
      readExact 4 { connection with progress := resetProgress connection.progress } with
    | blocked c => simp
    | returned result c =>
      cases result with
      | error status => simp
      | ok header =>
        -- Only a complete schedule returns a header.
        rw [hheader] at hends
        cases hending : (headerPassage connection).ending with
        | complete => exact absurd hending hcomplete
        | stopped | failed errno | blocked =>
          rw [hending] at hends
          simp [ReadEnds] at hends

/-- Where no storage of the payload is missing, a read is torn exactly if it fails and there is
no storage for its status. -/
theorem readFrame_tears_iff (hd : 0 ≤ descriptor) {growth : Option Nat} {connection : Connection}
    (hgrowth : growthFailure growth descriptor connection = none) :
    ReadTears growth diagnostic connection ↔
      (∃ status c, readFrame descriptor connection = .returned (.error status) c) ∧
        diagnostic = true := by
  by_cases hannounced : ∃ size, Announces connection size
  · obtain ⟨size, hannounces⟩ := hannounced
    have hstored : ∀ calls, growth = some calls →
        payloadFailure calls size (behindHeader connection) = none := by
      rintro calls rfl
      unfold growthFailure at hgrowth
      rwa [(payloadStart_iff hd).mpr ⟨hannounces, rfl⟩] at hgrowth
    rw [readFrame_announced hd hannounces]
    refine ⟨fun htears => ?_, fun ⟨hbroken, hdiagnostic⟩ => .payload hannounces hbroken hdiagnostic⟩
    cases htears with
    | header hbroken => simp [hannounces.header, Ending.Broken] at hbroken
    | length _ hbounds =>
      have hsize := hannounces.size_eq
      have hpos := hannounces.pos
      have hle := hannounces.le
      omega
    | reserve _ hfails => exact absurd (hstored _ hfails) nofun
    | growth hannounces' hfails hexceeded =>
      obtain rfl := hannounces.eq hannounces'
      rw [← show (behindHeader connection).stream.length = _ from List.length_drop] at hexceeded
      cases (if_pos hexceeded).symm.trans (hstored _ hfails)
    | payload hannounces' hbroken hdiagnostic =>
      obtain rfl := hannounces.eq hannounces'
      exact ⟨hbroken, hdiagnostic⟩
  · have hnone : ∀ size, ¬ Announces connection size := not_exists.mp hannounced
    rw [readFrame_unannounced hd hnone]
    constructor
    · intro htears
      cases htears with
      | header hbroken hdiagnostic => exact ⟨Or.inl hbroken, hdiagnostic⟩
      | length hheader hbounds hdiagnostic => exact ⟨Or.inr ⟨hheader, hbounds⟩, hdiagnostic⟩
      | reserve hannounces => exact absurd hannounces (hnone _)
      | growth hannounces => exact absurd hannounces (hnone _)
      | payload hannounces => exact absurd hannounces (hnone _)
    · rintro ⟨hbroken | ⟨hheader, hbounds⟩, hdiagnostic⟩
      · exact .header hbroken hdiagnostic
      · exact .length hheader hbounds hdiagnostic

/-- A torn read throws inside of a frame. -/
theorem readFrameOrRaise_of_tears (hd : 0 ≤ descriptor) {growth : Option Nat}
    {connection : Connection} (h : ReadTears growth diagnostic connection) :
    ∃ c consumed, readFrameOrRaise growth diagnostic descriptor connection = .raised c ∧
      connection.stream = consumed ++ c.stream ∧ ¬ FrameBegins consumed := by
  unfold readFrameOrRaise
  cases hgrowth : growthFailure growth descriptor connection with
  | some c =>
    rcases growthFailure_tears diagnostic hd hgrowth with
      ⟨⟨consumed, hconsumed⟩, -⟩ | ⟨-, hnot⟩
    · exact ⟨c, consumed, rfl, hconsumed⟩
    · exact absurd h hnot
  | none =>
    obtain ⟨⟨status, c, hread⟩, hdiagnostic⟩ := (readFrame_tears_iff hd hgrowth).mp h
    obtain ⟨consumed, hstream, ⟨_, _, hok, -⟩ | ⟨-, hnone⟩⟩ :=
      readFrame_consumed descriptor connection
    · cases hread.symm.trans hok
    · rw [hread] at hstream
      exact ⟨c, consumed, by simp only [hread, hdiagnostic, if_true], hstream, hnone⟩

/-- A read that throws is torn or has taken a whole frame. -/
theorem readFrameOrRaise_raised (hd : 0 ≤ descriptor) {growth : Option Nat}
    {connection c : Connection}
    (h : readFrameOrRaise growth diagnostic descriptor connection = .raised c) :
    ReadTears growth diagnostic connection ∨
      ∃ payload, InRange payload ∧ connection.stream = frame payload ++ c.stream := by
  unfold readFrameOrRaise at h
  split at h
  · rename_i hgrowth
    cases h
    exact (growthFailure_tears diagnostic hd hgrowth).imp And.right And.left
  · rename_i hgrowth
    refine Or.inl ((readFrame_tears_iff hd hgrowth).mpr ?_)
    split at h
    · cases h
    · cases h
    · rename_i status c' hread
      split at h
      · rename_i hdiagnostic
        exact ⟨⟨status, c', hread⟩, hdiagnostic⟩
      · cases h

end Transport

end PhotospiderDaemon.Ipc
