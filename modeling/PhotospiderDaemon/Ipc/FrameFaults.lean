import PhotospiderDaemon.Ipc.FrameStream

/-!
# Frames when a call fails

`read_frame` and `write_frame` under any schedule of their system calls, and what they leave
behind when an allocation throws. A read allocates where it reserves storage for its payload,
where the payload outgrows that storage, and where it builds a failure status; a write only
where it builds one. Nothing here unwinds the bytes that were moved before the exception.

* `readFrame_consumed`: a read that does not return a payload has stopped inside a frame.
* `writeFrame_part`: a write that does not succeed has not sent its frame.
* `readFrameOrRaise_consumed`, `writeFrameOrRaise_part`: the same with exceptions.
-/

namespace PhotospiderDaemon.Ipc

open Foundation

/-- A call has returned, is still waiting, or was left by `std::bad_alloc`. -/
inductive Attempt (α σ : Type) where
  | blocked (state : σ)
  | returned (value : α) (state : σ)
  | raised (state : σ)

/-- The state that a call leaves behind. -/
def Attempt.state {α σ : Type} : Attempt α σ → σ
  | blocked state => state
  | returned _ state => state
  | raised state => state

/-- The state after a call, unless it is still waiting. -/
def Attempt.ended {α σ : Type} : Attempt α σ → Option σ
  | blocked _ => none
  | returned _ state => some state
  | raised state => some state

section Kernel

variable [Kernel]

/-- The storage of a payload: how many bytes are in it, and how many it holds. -/
structure Storage where
  size : Nat
  capacity : Nat

/-- `payload->reserve`, with one chunk at most. -/
def Storage.reserve (size : Nat) : Storage := ⟨0, min size readChunkBytes⟩

/-- `payload->insert` at the end. Storage that is too small is replaced by twice its size, or by
what is needed if that is more. -/
def Storage.insert (storage : Storage) (count : Nat) : Storage :=
  let size := storage.size + count
  if size ≤ storage.capacity then ⟨size, storage.capacity⟩
  else ⟨size, storage.size + max storage.size count⟩

/-- How a schedule of `recv` calls moves a payload of the given size. -/
def payloadPassage (size available : Nat) (events : List (TransferEvent Bytes)) :
    Passage Bytes Storage :=
  passage readChunkBytes Storage.insert events available size (.reserve size)

/-- What comes with the call behind the first `calls` of a payload does not fit into the storage
that there is until then. -/
def storageExceeded (size available calls : Nat) (events : List (TransferEvent Bytes)) : Bool :=
  (payloadPassage size available (events.take calls)).state.capacity <
    (payloadPassage size available (events.take (calls + 1))).moved

/-- The state in which the storage of a payload cannot be had: before the first of its `recv`
calls, where it is reserved, or after the given one of them, if it has to grow there. -/
def payloadFailure (calls size : Nat) (connection : Connection) : Option Connection :=
  match calls with
  | 0 => some connection
  | calls + 1 =>
    if storageExceeded size connection.stream.length calls connection.events then
      let events := connection.events.take (calls + 1)
      some { (readPayload size { connection with events }).state with
        events := connection.events.drop (calls + 1) }
    else none

/-- The length in the header of a frame, if it is accepted, and the state in which the payload
is going to be read. -/
def payloadStart (descriptor : Int) (connection : Connection) : Option (Nat × Connection) :=
  if descriptor < 0 then none
  else
    match readExact 4 { connection with progress := resetProgress connection.progress } with
    | .returned (.ok header) connection =>
      if frameSize header = 0 || frameSize header > maximumFramePayloadBytes then none
      else some (frameSize header, connection)
    | _ => none

/-- The state in which a read cannot have the storage of its payload. -/
def growthFailure (growth : Option Nat) (descriptor : Int) (connection : Connection) :
    Option Connection :=
  match growth with
  | none => none
  | some calls =>
    match payloadStart descriptor connection with
    | none => none
    | some (size, connection) => payloadFailure calls size connection

/-- `read_frame`, where the storage of the payload or a failure status may fail to be
allocated. -/
def readFrameOrRaise (growth : Option Nat) (diagnostic : Bool) (descriptor : Int)
    (connection : Connection) : Attempt (Except Status Bytes) Connection :=
  match growthFailure growth descriptor connection with
  | some c => .raised c
  | none =>
    match readFrame descriptor connection with
    | .blocked c => .blocked c
    | .returned (.ok payload) c => .returned (.ok payload) c
    | .returned (.error status) c => if diagnostic then .raised c else .returned (.error status) c

/-- `write_frame`, whose failure status may fail to be allocated. -/
def writeFrameOrRaise (diagnostic : Bool) (descriptor : Int) (payload : Bytes)
    (outgoing : Outgoing) : Attempt Status Outgoing :=
  match writeFrame descriptor payload outgoing with
  | .blocked o => .blocked o
  | .returned status o =>
    if status.ok then .returned status o
    else if diagnostic then .raised o
    else .returned status o

/-! ## Reading -/

/-- A read of the payload that does not return it has not taken all of it. -/
theorem readPayload_short {size : Nat} {connection : Connection}
    (h : ∀ payload c, readPayload size connection ≠ .returned (.ok payload) c) :
    connection.stream.length < (readPayload size connection).state.stream.length + size := by
  obtain ⟨parts, hreceives⟩ := receive_spec size (by decide : 0 < readChunkBytes) captureInto
    connection.events connection.stream [] connection.progress
  have hshort :=
    receive_short size readChunkBytes captureInto connection.events connection.stream []
    connection.progress
  have hreceived := hreceives.received_eq
  have hstream := congrArg List.length hreceives.stream_eq
  unfold readPayload at h ⊢
  generalize receive size readChunkBytes captureInto connection.events connection.stream []
    connection.progress = r at h hshort hreceived hstream ⊢
  dsimp only at h ⊢
  rw [conclude_state]
  have hincomplete : r.ending ≠ .complete := by
    intro hcomplete
    refine h r.received ⟨r.stream, r.events, r.state⟩ ?_
    rw [conclude, hcomplete]
  have hlength := hshort hincomplete
  rw [hreceived, List.nil_append] at hlength
  rw [List.length_append] at hstream
  dsimp only
  omega

/-- A read has taken one whole frame if it returns the payload, and otherwise less. -/
theorem readFrame_consumed (descriptor : Int) (connection : Connection) :
    ∃ consumed, connection.stream = consumed ++ (readFrame descriptor connection).state.stream ∧
      ((∃ payload c, readFrame descriptor connection = .returned (.ok payload) c ∧
          InRange payload ∧ consumed = frame payload) ∨
        (∀ payload c, readFrame descriptor connection ≠ .returned (.ok payload) c) ∧
          ¬ FrameBegins consumed) := by
  obtain ⟨stream, events, progress⟩ := connection
  unfold readFrame
  by_cases hd : descriptor < 0
  · simp only [if_pos hd]
    exact ⟨[], rfl, Or.inr ⟨by simp, not_frameBegins_nil⟩⟩
  simp only [if_neg hd]
  obtain ⟨header, hreads, hprogress⟩ := readExact_spec 4 (by decide)
    ⟨stream, events, resetProgress progress⟩
  have hstream := hreads.stream_eq
  -- A frame is longer than a header.
  have hshort : ¬ FrameBegins header :=
    fun hbegins => absurd hbegins.length_lt (Nat.not_lt.mpr hreads.length_le)
  rcases hreads.cases with ⟨c, hc, hlength, -⟩ | ⟨status, c, hc, -⟩ | ⟨c, hc, -⟩
  all_goals
    simp only [hc, Outcome.state_returned, Outcome.state_blocked] at hprogress hstream ⊢
  · split
    · exact ⟨header, hstream, Or.inr ⟨by simp, hshort⟩⟩
    · rename_i hsize
      simp only [Bool.or_eq_true, decide_eq_true_eq, not_or, Nat.not_lt] at hsize
      obtain ⟨taken, hpayload, -⟩ := readPayload_spec (frameSize header) hprogress
      refine ⟨header ++ taken, by rw [List.append_assoc, ← hpayload.stream_eq, hstream], ?_⟩
      by_cases hok : ∃ payload c', readPayload (frameSize header) c = .returned (.ok payload) c'
      · refine Or.inl ?_
        rcases hpayload.cases with ⟨c', hc', hfull, -⟩ | ⟨status, c', hc', -⟩ | ⟨c', hc', -⟩
        · refine ⟨taken, c', hc', ⟨?_, ?_⟩, ?_⟩
          · rw [hfull]
            exact Nat.pos_of_ne_zero hsize.1
          · rw [hfull]
            exact hsize.2
          · rw [frame, hfull, frameHeader_frameSize hlength]
        all_goals
          obtain ⟨payload, c'', hreturned⟩ := hok
          rw [hc'] at hreturned
          cases hreturned
      · refine Or.inr ⟨fun payload c' hreturned => hok ⟨payload, c', hreturned⟩, fun hbegins => ?_⟩
        have hbound := (hbegins.size hlength).2
        have hless := readPayload_short fun payload c' hreturned => hok ⟨payload, c', hreturned⟩
        have htotal := congrArg List.length hpayload.stream_eq
        rw [List.length_append] at htotal
        omega
  · exact ⟨header, hstream, Or.inr ⟨by simp, hshort⟩⟩
  · exact ⟨header, hstream, Or.inr ⟨by simp, hshort⟩⟩

/-- A schedule without failures that moves as many times as the frame is long reads it. -/
theorem readFrame_whole {descriptor : Int} (hd : 0 ≤ descriptor) {connection : Connection}
    (hs : Steady connection.events) {payload rest : Bytes} (hpayload : InRange payload)
    (hstream : connection.stream = frame payload ++ rest)
    (hcalls : (frame payload).length ≤ transfers connection.events) :
    ∃ c, readFrame descriptor connection = .returned (.ok payload) c ∧ c.stream = rest ∧
      Steady c.events ∧ transfers connection.events ≤ transfers c.events +
        (frame payload).length := by
  have hbegins : FrameBegins connection.stream := ⟨payload, rest, hpayload, hstream⟩
  rcases readFrame_cases hd hs with ⟨payload', c, hc, hrange, heq, hsteady, hle⟩ |
    ⟨status, c, -, hnone, -⟩ | ⟨c, hc, hle, -⟩
  · obtain ⟨rfl, rfl⟩ := frame_append_inj hpayload hrange (hstream.symm.trans heq)
    exact ⟨c, hc, rfl, hsteady, hle⟩
  · exact absurd hbegins hnone
  · -- So many calls have moved more than the frame.
    obtain ⟨consumed, hconsumed, hcases⟩ := readFrame_consumed descriptor connection
    rw [hc] at hconsumed hcases
    rcases hcases with ⟨_, _, hok, -⟩ | ⟨-, hnone⟩
    · cases hok
    · have hlength := congrArg List.length hconsumed
      rw [List.length_append] at hlength
      change _ = _ + c.stream.length at hlength
      have hlong : (frame payload).length ≤ consumed.length := by omega
      have hfront : frame payload <+: consumed ++ c.stream :=
        ⟨rest, by rw [← hstream]; exact hconsumed⟩
      obtain ⟨more, hmore⟩ := List.prefix_of_prefix_length_le hfront (List.prefix_append _ _) hlong
      exact absurd ⟨payload, more, hpayload, hmore.symm⟩ hnone

/-- Behind an accepted header, `read_frame` is `read_payload`. -/
theorem payloadStart_spec {descriptor : Int} {connection c : Connection} {size : Nat}
    (h : payloadStart descriptor connection = some (size, c)) :
    ∃ header, header.length = 4 ∧ connection.stream = header ++ c.stream ∧ frameSize header = size ∧
      0 < size ∧ size ≤ maximumFramePayloadBytes ∧
      readFrame descriptor connection = readPayload size c := by
  unfold payloadStart at h
  split at h
  · cases h
  · rename_i hd
    obtain ⟨header, hreads, -⟩ := readExact_spec 4 (by decide)
      { connection with progress := resetProgress connection.progress }
    have hstream := hreads.stream_eq
    split at h
    · rename_i hread
      split at h
      · cases h
      · rename_i hsize
        cases h
        rw [hread] at hstream
        rcases hreads.cases with ⟨_, hc, hlength, -⟩ | ⟨_, _, hc, -⟩ | ⟨_, hc, -⟩ <;>
          cases hread.symm.trans hc
        have hpayload : readFrame descriptor connection = readPayload (frameSize header) c := by
          simp only [readFrame, if_neg hd, hread, if_neg hsize]
        simp only [Bool.or_eq_true, decide_eq_true_eq, not_or, Nat.not_lt] at hsize
        exact ⟨header, hlength, hstream, rfl, Nat.pos_of_ne_zero hsize.1, hsize.2, hpayload⟩
    · cases h

/-- What a schedule of `recv` calls leaves of a stream when the payload is read. -/
theorem readPayload_passage (size : Nat) (connection : Connection) :
    (readPayload size connection).state.stream = connection.stream.drop
      (payloadPassage size connection.stream.length connection.events).moved := by
  rw [readPayload, conclude_state]
  exact (receive_passage size readChunkBytes captureInto Storage.insert connection.events
    connection.stream [] connection.progress (.reserve size)).2.2.1

omit [Kernel] in
/-- The front of a stream is a header and a part of the payload that it announces. -/
theorem front_cases {header stream : Bytes} (hlength : header.length = 4)
    (hpos : 0 < frameSize header) (hle : frameSize header ≤ maximumFramePayloadBytes) {moved : Nat}
    (hmoved : moved ≤ frameSize header) (havailable : moved ≤ stream.length) :
    (∃ payload, InRange payload ∧ header ++ stream.take moved = frame payload) ∧
        moved = frameSize header ∨
      ¬ FrameBegins (header ++ stream.take moved) ∧ moved < frameSize header := by
  have htaken : (stream.take moved).length = moved := by
    rw [List.length_take]
    exact Nat.min_eq_left havailable
  rcases Nat.lt_or_eq_of_le hmoved with hless | heq
  · refine Or.inr ⟨fun hbegins => ?_, hless⟩
    have hsize := (hbegins.size hlength).2
    omega
  · refine Or.inl ⟨⟨stream.take moved, ⟨by omega, by omega⟩, ?_⟩, heq⟩
    rw [frame, htaken, heq, frameHeader_frameSize hlength]

/-- A read that has no storage for its payload has taken the header and what its calls have
moved, which is at most one frame. -/
theorem growthFailure_consumed {growth : Option Nat} {descriptor : Int} {connection c : Connection}
    (h : growthFailure growth descriptor connection = some c) :
    ∃ consumed, connection.stream = consumed ++ c.stream ∧
      ((∃ payload, InRange payload ∧ consumed = frame payload) ∨ ¬ FrameBegins consumed) := by
  unfold growthFailure at h
  split at h
  · cases h
  · rename_i calls
    split at h
    · cases h
    · rename_i size c' hstart
      obtain ⟨header, hlength, hstream, rfl, hpos, hle, -⟩ := payloadStart_spec hstart
      cases calls with
      | zero =>
        cases h
        exact ⟨header, hstream, Or.inr fun hbegins =>
          absurd hbegins.length_lt (Nat.not_lt.mpr (Nat.le_of_eq hlength))⟩
      | succ calls =>
        dsimp only [payloadFailure] at h
        split at h
        · cases h
          rw [readPayload_passage]
          obtain ⟨hmoved, havailable, -⟩ := passage_moved readChunkBytes Storage.insert
            (c'.events.take (calls + 1)) c'.stream.length (frameSize header)
            (.reserve (frameSize header))
          refine ⟨header ++ c'.stream.take (payloadPassage (frameSize header) c'.stream.length
            (c'.events.take (calls + 1))).moved, ?_, ?_⟩
          · rw [List.append_assoc, List.take_append_drop, hstream]
          · exact (front_cases hlength hpos hle hmoved havailable).imp And.left And.left
        · cases h

/-- A read has taken one whole frame if it returns the payload, less if it fails, and at most
one frame if it throws. -/
theorem readFrameOrRaise_consumed (growth : Option Nat) (diagnostic : Bool) (descriptor : Int)
    (connection : Connection) :
    ∃ consumed, connection.stream =
        consumed ++ (readFrameOrRaise growth diagnostic descriptor connection).state.stream ∧
      ((∃ payload, InRange payload ∧ consumed = frame payload) ∨ ¬ FrameBegins consumed) ∧
      (∀ payload c, readFrameOrRaise growth diagnostic descriptor connection =
        .returned (.ok payload) c → InRange payload ∧ consumed = frame payload) := by
  unfold readFrameOrRaise
  split
  · rename_i c hgrowth
    obtain ⟨consumed, hstream, hcases⟩ := growthFailure_consumed hgrowth
    exact ⟨consumed, hstream, hcases, nofun⟩
  · obtain ⟨consumed, hstream, hcases⟩ := readFrame_consumed descriptor connection
    refine ⟨consumed, ?_⟩
    rcases hcases with ⟨payload, c, hread, hpayload⟩ | ⟨hnot, hnone⟩
    · rw [hread] at hstream ⊢
      refine ⟨hstream, Or.inl ⟨payload, hpayload⟩, fun payload' c' heq => ?_⟩
      cases heq
      exact hpayload
    · split
      · rename_i hread
        rw [hread] at hstream
        exact ⟨hstream, Or.inr hnone, nofun⟩
      · rename_i payload c hread
        exact absurd hread (hnot payload c)
      · rename_i hread
        rw [hread] at hstream
        split
        · exact ⟨hstream, Or.inr hnone, nofun⟩
        · exact ⟨hstream, Or.inr hnone, nofun⟩

/-! ## Writing -/

/-- A write that has sent a part of its bytes, all of them exactly when it succeeds. -/
structure SendsPart (bytes : Bytes) (outgoing : Outgoing) (outcome : Outcome Status Outgoing)
    (part : Bytes) : Prop where
  sent_eq : outcome.state.sent = outgoing.sent ++ part
  front : part <+: bytes
  cases : (∃ o, outcome = .returned Status.success o ∧ part = bytes) ∨
    part ≠ bytes ∧ ((∃ o, outcome = .blocked o) ∨
      ∃ status o, outcome = .returned status o ∧ status.ok = false)

theorem writeExact_part (source : Bytes) (outgoing : Outgoing) :
    ∃ part, SendsPart source outgoing (writeExact source outgoing) part := by
  obtain ⟨part, hsent, hsource, hcomplete⟩ := transmit_part outgoing.events source outgoing.sent
  have hincomplete : (transmit outgoing.events source outgoing.sent).unsent ≠ [] →
      part ≠ source := by
    intro hunsent hpart
    rw [hpart] at hsource
    exact hunsent (List.append_right_eq_self.mp hsource.symm)
  have hfront : part <+: source := ⟨_, hsource.symm⟩
  refine ⟨part, ?_⟩
  unfold writeExact
  cases hending : (transmit outgoing.events source outgoing.sent).ending with
  | complete =>
    have hunsent := hcomplete.mp hending
    rw [hunsent, List.append_nil] at hsource
    simp only [hending]
    exact ⟨hsent, hfront, Or.inl ⟨_, rfl, hsource.symm⟩⟩
  | stopped =>
    have hunsent := mt hcomplete.mpr (by rw [hending]; nofun)
    simp only [hending]
    exact ⟨hsent, hfront, Or.inr ⟨hincomplete hunsent, Or.inr ⟨_, _, rfl, by simp⟩⟩⟩
  | failed errno =>
    have hunsent := mt hcomplete.mpr (by rw [hending]; nofun)
    simp only [hending]
    exact ⟨hsent, hfront, Or.inr ⟨hincomplete hunsent, Or.inr ⟨_, _, rfl, by simp⟩⟩⟩
  | blocked =>
    have hunsent := mt hcomplete.mpr (by rw [hending]; nofun)
    simp only [hending]
    exact ⟨hsent, hfront, Or.inr ⟨hincomplete hunsent, Or.inl ⟨_, rfl⟩⟩⟩

/-- A write has sent its frame exactly when it succeeds. -/
theorem writeFrame_part (descriptor : Int) (payload : Bytes) (outgoing : Outgoing) :
    ∃ part, SendsPart (frame payload) outgoing (writeFrame descriptor payload outgoing) part ∧
      (part ≠ [] → InRange payload) := by
  unfold writeFrame
  split
  · have hne : [] ≠ frame payload := (frame_ne_nil payload).symm
    exact ⟨[], ⟨(List.append_nil _).symm, List.nil_prefix,
      Or.inr ⟨hne, Or.inr ⟨_, _, rfl, by simp⟩⟩⟩, fun h => absurd rfl h⟩
  · rename_i haccept
    simp only [Bool.or_eq_true, decide_eq_true_eq, List.isEmpty_iff, not_or, Nat.not_lt] at haccept
    have hrange : InRange payload := ⟨List.length_pos_of_ne_nil haccept.1.1.2, haccept.1.2⟩
    obtain ⟨part, hpart⟩ := writeExact_part (frameHeader payload.length) outgoing
    obtain ⟨rest, hrest⟩ := hpart.front
    have hsent := hpart.sent_eq
    rcases hpart.cases with ⟨o, ho, rfl⟩ | ⟨hne, hcases⟩
    · rw [ho] at hsent ⊢
      obtain ⟨part, hpart'⟩ := writeExact_part payload o
      simp only [Status.ok_success, if_true]
      refine ⟨frameHeader payload.length ++ part, ⟨?_, ?_, ?_⟩, fun _ => hrange⟩
      · rw [hpart'.sent_eq, ← List.append_assoc]
        exact congrArg (· ++ part) hsent
      · exact (List.prefix_append_right_inj _).mpr hpart'.front
      · rcases hpart'.cases with ⟨o', ho', rfl⟩ | ⟨hne, hcases⟩
        · exact Or.inl ⟨o', ho', rfl⟩
        · exact Or.inr ⟨fun heq => hne (List.append_cancel_left heq), hcases⟩
    · have hshort : part ≠ frame payload := by
        intro heq
        have hlength := congrArg List.length hrest
        have hpayload := hrange.1
        rw [heq, List.length_append, length_frame] at hlength
        change payload.length + 4 + rest.length = 4 at hlength
        omega
      have hfront : part <+: frame payload := hpart.front.trans (List.prefix_append _ _)
      refine ⟨part, ?_, fun _ => hrange⟩
      rcases hcases with ⟨o, ho⟩ | ⟨status, o, ho, hstatus⟩
      · rw [ho] at hsent ⊢
        exact ⟨hsent, hfront, Or.inr ⟨hshort, Or.inl ⟨o, rfl⟩⟩⟩
      · rw [ho] at hsent ⊢
        simp only [hstatus]
        exact ⟨hsent, hfront, Or.inr ⟨hshort, Or.inr ⟨status, o, rfl, hstatus⟩⟩⟩

/-- A schedule without failures that moves as many times as the frame is long sends it. -/
theorem writeFrame_whole {descriptor : Int} (hd : 0 ≤ descriptor) {payload : Bytes}
    (hpayload : InRange payload) {outgoing : Outgoing} (hs : Steady outgoing.events)
    (hcalls : (frame payload).length ≤ transfers outgoing.events) :
    ∃ o, writeFrame descriptor payload outgoing = .returned Status.success o ∧
      o.sent = outgoing.sent ++ frame payload ∧ Steady o.events ∧
      transfers outgoing.events ≤ transfers o.events + (frame payload).length := by
  rcases writeFrame_spec hd hpayload hs with h | ⟨o, -, -, hlt⟩
  · exact h
  · omega

/-- With exceptions, a write that does not succeed has still sent a part of its frame. -/
theorem writeFrameOrRaise_part (diagnostic : Bool) (descriptor : Int) (payload : Bytes)
    (outgoing : Outgoing) :
    ∃ part, (writeFrameOrRaise diagnostic descriptor payload outgoing).state.sent =
        outgoing.sent ++ part ∧ part <+: frame payload ∧ (part ≠ [] → InRange payload) ∧
      ((∃ o, writeFrameOrRaise diagnostic descriptor payload outgoing =
          .returned Status.success o ∧ part = frame payload) ∨
        part ≠ frame payload ∧
          ((∃ o, writeFrameOrRaise diagnostic descriptor payload outgoing = .blocked o) ∨
            (∃ o, writeFrameOrRaise diagnostic descriptor payload outgoing = .raised o) ∨
            ∃ status o, writeFrameOrRaise diagnostic descriptor payload outgoing =
              .returned status o ∧ status.ok = false)) := by
  obtain ⟨part, hpart, hrange⟩ := writeFrame_part descriptor payload outgoing
  have hsent := hpart.sent_eq
  unfold writeFrameOrRaise
  rcases hpart.cases with ⟨o, ho, heq⟩ | ⟨hne, ⟨o, ho⟩ | ⟨status, o, ho, hstatus⟩⟩
  · rw [ho] at hsent ⊢
    simp only [Status.ok_success, if_true]
    exact ⟨part, hsent, hpart.front, hrange, Or.inl ⟨o, rfl, heq⟩⟩
  · rw [ho] at hsent ⊢
    exact ⟨part, hsent, hpart.front, hrange, Or.inr ⟨hne, Or.inl ⟨o, rfl⟩⟩⟩
  · rw [ho] at hsent ⊢
    simp only [hstatus]
    refine ⟨part, ?_, hpart.front, hrange, Or.inr ⟨hne, Or.inr ?_⟩⟩
    · cases diagnostic <;> exact hsent
    · cases diagnostic with
      | true => exact Or.inl ⟨o, rfl⟩
      | false => exact Or.inr ⟨status, o, rfl, hstatus⟩

end Kernel

end PhotospiderDaemon.Ipc
