import Mathlib.Data.List.Basic

/-!
# Transfers in parts

A system call that moves bytes may move fewer than asked, may be interrupted, and may fail.
The outcome of the coming calls is a list of events, so a finite list stands for every
prefix of a schedule: a loop that uses up the list is still waiting in a call. `receive` and
`transmit` are the two loops over such calls.

* `receive_spec`: whatever the schedule, a receiving loop has taken a prefix of the stream,
  cut into the chunks that it has noted.
* `transmit_spec`: whatever the schedule, a sending loop has sent a prefix of its source.
* `receive_passage`, `transmit_passage`: the schedule alone decides how a loop ends and how many
  bytes it moves.

The first two say how many calls that moved bytes a run can use up, which bounds how long a
schedule without failures can keep the loop waiting.
-/

namespace PhotospiderDaemon.Foundation

variable {ε σ : Type}

/-- The outcome of one call. -/
inductive TransferEvent (ε : Type) where
  | interrupted
  | ready (count : Nat)
  | failed (error : ε)

/-- How a loop of calls ends. A loop is stopped by a call that moves nothing. -/
inductive Ending (ε : Type) where
  | complete
  | stopped
  | failed (error : ε)
  | blocked

/-- The loop was left before it had moved everything. -/
def Ending.Broken : Ending ε → Prop
  | stopped | failed _ => True
  | complete | blocked => False

namespace TransferEvent

/-- The call moves bytes if there are any. -/
def isReady : TransferEvent ε → Bool
  | ready _ => true
  | _ => false

/-- The call moves at least one byte, or is interrupted. -/
def Steady : TransferEvent ε → Prop
  | interrupted => True
  | ready count => 0 < count
  | failed _ => False

end TransferEvent

/-- The number of calls that are not interrupted and do not fail. -/
def transfers (events : List (TransferEvent ε)) : Nat := events.countP TransferEvent.isReady

@[simp] theorem transfers_interrupted (events : List (TransferEvent ε)) :
    transfers (.interrupted :: events) = transfers events :=
  List.countP_cons_of_neg Bool.false_ne_true

@[simp] theorem transfers_failed (error : ε) (events : List (TransferEvent ε)) :
    transfers (.failed error :: events) = transfers events :=
  List.countP_cons_of_neg Bool.false_ne_true

@[simp] theorem transfers_ready (count : Nat) (events : List (TransferEvent ε)) :
    transfers (.ready count :: events) = transfers events + 1 := List.countP_cons_of_pos rfl

/-- A schedule without failures. -/
def Steady (events : List (TransferEvent ε)) : Prop := ∀ event ∈ events, event.Steady

theorem Steady.tail {event : TransferEvent ε} {events : List (TransferEvent ε)}
    (h : Steady (event :: events)) : Steady events :=
  fun event hevent => h event (List.mem_cons_of_mem _ hevent)

theorem Steady.of_suffix {events events' : List (TransferEvent ε)} (h : Steady events)
    (hsuffix : events' <:+ events) : Steady events' :=
  fun event hevent => h event (hsuffix.subset hevent)

/-! ## Receiving -/

/-- The state of a receiving loop when it ends. -/
structure Receipt (ε σ : Type) where
  ending : Ending ε
  received : List UInt8
  state : σ
  stream : List UInt8
  events : List (TransferEvent ε)

/-- Receive until `size` bytes are there, at most `chunk` in one call. Each received part is
noted in a state. -/
def receive (size chunk : Nat) (note : σ → List UInt8 → σ) :
    List (TransferEvent ε) → List UInt8 → List UInt8 → σ → Receipt ε σ
  | [], stream, received, state =>
    ⟨if size ≤ received.length then .complete else .blocked, received, state, stream, []⟩
  | event :: events, stream, received, state =>
    if size ≤ received.length then ⟨.complete, received, state, stream, event :: events⟩
    else
      match event with
      | .interrupted => receive size chunk note events stream received state
      | .failed error => ⟨.failed error, received, state, stream, events⟩
      | .ready count =>
        let taken := stream.take (min count (min (size - received.length) chunk))
        if taken.isEmpty then ⟨.stopped, received, state, stream, events⟩
        else receive size chunk note events (stream.drop taken.length) (received ++ taken)
          (note state taken)

/-- A receipt of a loop that has taken the given parts. -/
structure Receives (size : Nat) (note : σ → List UInt8 → σ) (events : List (TransferEvent ε))
    (stream received : List UInt8) (state : σ) (parts : List (List UInt8)) (r : Receipt ε σ) :
    Prop where
  received_eq : r.received = received ++ parts.flatten
  stream_eq : stream = parts.flatten ++ r.stream
  state_eq : r.state = parts.foldl note state
  length_le : received.length ≤ size → r.received.length ≤ size
  events_suffix : r.events <:+ events
  complete : r.ending = .complete → size ≤ r.received.length
  stopped : r.ending = .stopped → r.received.length < size ∧ (Steady events → r.stream = [])
  failed : ∀ error, r.ending = .failed error → ¬ Steady events
  blocked : r.ending = .blocked → r.received.length < size ∧ r.events = []
  transfers_le : transfers events ≤
    transfers r.events + parts.flatten.length + if r.ending matches .stopped then 1 else 0

namespace Receives

variable {size : Nat} {note : σ → List UInt8 → σ} {events : List (TransferEvent ε)}
  {stream received : List UInt8} {state : σ} {parts : List (List UInt8)} {r : Receipt ε σ}

/-- Nothing was received: either all is there, or the list of events was used up. -/
theorem idle {ending : Ending ε} (hdone : ending = .complete ∧ size ≤ received.length ∨
      ending = .blocked ∧ received.length < size ∧ events = []) :
    Receives size note events stream received state []
      ⟨ending, received, state, stream, events⟩ where
  received_eq := by simp
  stream_eq := by simp
  state_eq := rfl
  length_le := id
  events_suffix := List.suffix_refl events
  complete h := by rcases hdone with ⟨-, h'⟩ | ⟨h', -⟩ <;> simp_all
  stopped h := by rcases hdone with ⟨h', -⟩ | ⟨h', -⟩ <;> simp_all
  failed _ h := by rcases hdone with ⟨h', -⟩ | ⟨h', -⟩ <;> simp_all
  blocked h := by rcases hdone with ⟨h', -⟩ | ⟨-, h'⟩ <;> simp_all
  transfers_le := by simp

/-- The call fails. -/
theorem failing (error : ε) : Receives size note (.failed error :: events) stream received state []
    ⟨.failed error, received, state, stream, events⟩ where
  received_eq := by simp
  stream_eq := by simp
  state_eq := rfl
  length_le := id
  events_suffix := List.suffix_cons _ events
  complete h := by cases h
  stopped h := by cases h
  failed _ _ hs := hs _ List.mem_cons_self
  blocked h := by cases h
  transfers_le := by simp

/-- The call moves nothing. In a steady schedule the stream has ended. -/
theorem stopping {count : Nat} (hsize : received.length < size) (hend : 0 < count → stream = []) :
    Receives size note (.ready count :: events) stream received state []
      ⟨.stopped, received, state, stream, events⟩ where
  received_eq := by simp
  stream_eq := by simp
  state_eq := rfl
  length_le := id
  events_suffix := List.suffix_cons _ events
  complete h := by cases h
  stopped _ := ⟨hsize, fun hs => hend (hs _ List.mem_cons_self)⟩
  failed _ h := by cases h
  blocked h := by cases h
  transfers_le := by simp

theorem interrupted (h : Receives size note events stream received state parts r) :
    Receives size note (.interrupted :: events) stream received state parts r :=
  { h with
    events_suffix := h.events_suffix.trans (List.suffix_cons _ events)
    stopped := fun hstop => ⟨(h.stopped hstop).1, fun hs => (h.stopped hstop).2 hs.tail⟩
    failed := fun error herror hs => h.failed error herror hs.tail
    transfers_le := by simpa using h.transfers_le }

/-- One part was received. -/
theorem ready (count : Nat) {taken : List UInt8} (hpos : taken ≠ [])
    (hsize : received.length ≤ size → received.length + taken.length ≤ size)
    (h : Receives size note events stream (received ++ taken) (note state taken) parts r) :
    Receives size note (.ready count :: events) (taken ++ stream) received state
      (taken :: parts) r where
  received_eq := by rw [h.received_eq, List.flatten_cons, List.append_assoc]
  stream_eq := by rw [List.flatten_cons, List.append_assoc, ← h.stream_eq]
  state_eq := h.state_eq
  length_le hle := h.length_le (by simpa using hsize hle)
  events_suffix := h.events_suffix.trans (List.suffix_cons _ events)
  complete := h.complete
  stopped hstop := ⟨(h.stopped hstop).1, fun hs => (h.stopped hstop).2 hs.tail⟩
  failed error herror hs := h.failed error herror hs.tail
  blocked := h.blocked
  transfers_le := by
    have hlength := List.length_pos_of_ne_nil hpos
    have hle := h.transfers_le
    rw [transfers_ready, List.flatten_cons, List.length_append]
    omega

end Receives

theorem receive_spec (size : Nat) {chunk : Nat} (hchunk : 0 < chunk) (note : σ → List UInt8 → σ)
    (events : List (TransferEvent ε)) (stream received : List UInt8) (state : σ) :
    ∃ parts, Receives size note events stream received state parts
      (receive size chunk note events stream received state) := by
  induction events generalizing stream received state with
  | nil =>
    refine ⟨[], Receives.idle ?_⟩
    by_cases hsize : size ≤ received.length
    · exact Or.inl ⟨if_pos hsize, hsize⟩
    · exact Or.inr ⟨if_neg hsize, Nat.lt_of_not_le hsize, rfl⟩
  | cons event events ih =>
    unfold receive
    by_cases hsize : size ≤ received.length
    · rw [if_pos hsize]
      exact ⟨[], Receives.idle (Or.inl ⟨rfl, hsize⟩)⟩
    rw [if_neg hsize]
    cases event with
    | interrupted =>
      obtain ⟨parts, h⟩ := ih stream received state
      exact ⟨parts, h.interrupted⟩
    | failed error => exact ⟨[], Receives.failing error⟩
    | ready count =>
      dsimp only
      split
      next hempty =>
        refine ⟨[], Receives.stopping (Nat.lt_of_not_le hsize) fun hcount => ?_⟩
        have hwanted : 0 < min count (min (size - received.length) chunk) := by omega
        rw [List.isEmpty_iff, List.take_eq_nil_iff] at hempty
        exact hempty.resolve_left (by omega)
      next hempty =>
        generalize htaken : stream.take (min count (min (size - received.length) chunk)) = taken
        have hlength : taken.length ≤ size - received.length := by
          rw [← htaken, List.length_take]
          omega
        have hstream : stream = taken ++ stream.drop taken.length := by
          have hinitial : taken <+: stream := htaken ▸ List.take_prefix _ stream
          obtain ⟨rest, rfl⟩ := hinitial
          simp
        obtain ⟨parts, h⟩ := ih (stream.drop taken.length) (received ++ taken) (note state taken)
        refine ⟨taken :: parts, ?_⟩
        have hready := h.ready count (by simpa [htaken] using hempty) (by omega)
        rwa [← hstream] at hready

/-- A loop that is not complete has fewer bytes than it wanted. -/
theorem receive_short (size chunk : Nat) (note : σ → List UInt8 → σ)
    (events : List (TransferEvent ε)) (stream received : List UInt8) (state : σ)
    (h : (receive size chunk note events stream received state).ending ≠ .complete) :
    (receive size chunk note events stream received state).received.length < size := by
  induction events generalizing stream received state with
  | nil =>
    unfold receive at h ⊢
    dsimp only at h ⊢
    by_contra hsize
    exact h (if_pos (Nat.le_of_not_lt hsize))
  | cons event events ih =>
    unfold receive at h ⊢
    by_cases hsize : size ≤ received.length
    · rw [if_pos hsize] at h
      exact absurd rfl h
    rw [if_neg hsize] at h ⊢
    cases event with
    | interrupted => exact ih stream received state h
    | failed error => exact Nat.lt_of_not_le hsize
    | ready count =>
      dsimp only at h ⊢
      split at h
      · rename_i hempty
        rw [if_pos hempty]
        exact Nat.lt_of_not_le hsize
      · rename_i hempty
        rw [if_neg hempty]
        exact ih _ _ _ h

/-! ## Sending -/

/-- The state of a sending loop when it ends. -/
structure Dispatch (ε : Type) where
  ending : Ending ε
  sent : List UInt8
  unsent : List UInt8
  events : List (TransferEvent ε)

/-- Send until nothing is left. -/
def transmit : List (TransferEvent ε) → List UInt8 → List UInt8 → Dispatch ε
  | [], source, sent => ⟨if source.isEmpty then .complete else .blocked, sent, source, []⟩
  | event :: events, source, sent =>
    if source.isEmpty then ⟨.complete, sent, source, event :: events⟩
    else
      match event with
      | .interrupted => transmit events source sent
      | .failed error => ⟨.failed error, sent, source, events⟩
      | .ready count =>
        if min count source.length = 0 then ⟨.stopped, sent, source, events⟩
        else transmit events (source.drop (min count source.length))
          (sent ++ source.take (min count source.length))

/-- Whatever the schedule, a sending loop has sent a part from the front of its source, and
all of it exactly when it is complete. -/
theorem transmit_part (events : List (TransferEvent ε)) (source sent : List UInt8) :
    ∃ part, (transmit events source sent).sent = sent ++ part ∧
      source = part ++ (transmit events source sent).unsent ∧
      ((transmit events source sent).ending = .complete ↔
        (transmit events source sent).unsent = []) := by
  induction events generalizing source sent with
  | nil =>
    refine ⟨[], (List.append_nil sent).symm, rfl, ?_⟩
    unfold transmit
    cases source <;> simp
  | cons event events ih =>
    unfold transmit
    by_cases hsource : source.isEmpty = true
    · rw [if_pos hsource]
      exact ⟨[], (List.append_nil sent).symm, rfl, by simpa using hsource⟩
    rw [if_neg hsource]
    cases event with
    | interrupted => exact ih source sent
    | failed error => exact ⟨[], (List.append_nil sent).symm, rfl, by simpa using hsource⟩
    | ready count =>
      dsimp only
      split
      · exact ⟨[], (List.append_nil sent).symm, rfl, by simpa using hsource⟩
      · obtain ⟨part, hsent, hsplit, hcomplete⟩ := ih (source.drop (min count source.length))
          (sent ++ source.take (min count source.length))
        refine ⟨source.take (min count source.length) ++ part, ?_, ?_, hcomplete⟩
        · rw [hsent, List.append_assoc]
        · rw [List.append_assoc, ← hsplit, List.take_append_drop]

/-- In a steady schedule a sending loop sends a prefix of its source and only stops at the
end of the source or of the schedule. -/
structure Transmits (events : List (TransferEvent ε)) (source sent : List UInt8) (d : Dispatch ε) :
    Prop where
  sent_eq : d.sent ++ d.unsent = sent ++ source
  sent_prefix : sent <+: d.sent
  events_suffix : d.events <:+ events
  ending : d.ending = .complete ∧ d.unsent = [] ∨
    d.ending = .blocked ∧ d.events = [] ∧ d.unsent ≠ []
  transfers_le : transfers events ≤ transfers d.events + (source.length - d.unsent.length)
  unsent_le : d.unsent.length ≤ source.length

theorem transmit_spec {events : List (TransferEvent ε)} (hs : Steady events)
    (source sent : List UInt8) : Transmits events source sent (transmit events source sent) := by
  induction events generalizing source sent with
  | nil =>
    refine ⟨rfl, List.prefix_refl sent, List.suffix_refl [], ?_, by simp [transmit], Nat.le_refl _⟩
    by_cases hsource : source.isEmpty = true
    · exact Or.inl ⟨if_pos hsource, List.isEmpty_iff.mp hsource⟩
    · exact Or.inr ⟨if_neg hsource, rfl, fun hnil => hsource (List.isEmpty_iff.mpr hnil)⟩
  | cons event events ih =>
    unfold transmit
    by_cases hsource : source.isEmpty = true
    · rw [if_pos hsource]
      exact ⟨rfl, List.prefix_refl sent, List.suffix_refl _,
        Or.inl ⟨rfl, List.isEmpty_iff.mp hsource⟩, by simp, Nat.le_refl _⟩
    rw [if_neg hsource]
    cases event with
    | interrupted =>
      have h := ih hs.tail source sent
      exact { h with
        events_suffix := h.events_suffix.trans (List.suffix_cons _ events)
        transfers_le := by simpa using h.transfers_le }
    | failed error => exact (hs _ List.mem_cons_self).elim
    | ready count =>
      have hcount : 0 < count := hs _ List.mem_cons_self
      have hlength : 0 < source.length := by
        rwa [List.isEmpty_iff, ← List.length_eq_zero_iff, ← Ne, ← Nat.pos_iff_ne_zero] at hsource
      dsimp only
      rw [if_neg (by omega)]
      have h := ih hs.tail (source.drop (min count source.length))
        (sent ++ source.take (min count source.length))
      have hle := h.transfers_le
      have hunsent := h.unsent_le
      rw [List.length_drop] at hle hunsent
      refine ⟨?_, (List.prefix_append _ _).trans h.sent_prefix,
        h.events_suffix.trans (List.suffix_cons _ events), h.ending, ?_, by omega⟩
      · rw [h.sent_eq, List.append_assoc, List.take_append_drop]
      · rw [transfers_ready]
        omega

/-! ## Schedules -/

/-- How a schedule ends a loop, how many bytes it has moved, and what was noted of their parts. -/
structure Passage (ε σ : Type) where
  ending : Ending ε
  moved : Nat
  state : σ
  events : List (TransferEvent ε)

/-- What a schedule does for a loop that wants `size` bytes, at most `chunk` in one call, when
`available` bytes can be moved. The length of each part is noted in a state. -/
def passage (chunk : Nat) (note : σ → Nat → σ) :
    List (TransferEvent ε) → Nat → Nat → σ → Passage ε σ
  | [], _, size, state => ⟨if size = 0 then .complete else .blocked, 0, state, []⟩
  | event :: events, available, size, state =>
    if size = 0 then ⟨.complete, 0, state, event :: events⟩
    else
      match event with
      | .interrupted => passage chunk note events available size state
      | .failed error => ⟨.failed error, 0, state, events⟩
      | .ready count =>
        let part := min (min count (min size chunk)) available
        if part = 0 then ⟨.stopped, 0, state, events⟩
        else
          let rest := passage chunk note events (available - part) (size - part) (note state part)
          { rest with moved := part + rest.moved }

/-- A schedule moves at most what is wanted, and all of it exactly if the loop is complete. -/
theorem passage_moved (chunk : Nat) (note : σ → Nat → σ) (events : List (TransferEvent ε))
    (available size : Nat) (state : σ) :
    (passage chunk note events available size state).moved ≤ size ∧
      (passage chunk note events available size state).moved ≤ available ∧
      ((passage chunk note events available size state).ending = .complete ↔
        (passage chunk note events available size state).moved = size) := by
  induction events generalizing available size state with
  | nil =>
    unfold passage
    by_cases hsize : size = 0 <;> simp [hsize, eq_comm]
  | cons event events ih =>
    unfold passage
    by_cases hsize : size = 0
    · simp [hsize]
    rw [if_neg hsize]
    cases event with
    | interrupted => exact ih available size state
    | failed error => simp [eq_comm, hsize]
    | ready count =>
      have hpart : min (min count (min size chunk)) available ≤ size ∧
          min (min count (min size chunk)) available ≤ available := by omega
      dsimp only
      generalize min (min count (min size chunk)) available = part at hpart ⊢
      split
      · simp [eq_comm, hsize]
      · obtain ⟨hle, havailable, hcomplete⟩ := ih (available - part) (size - part) (note state part)
        dsimp only
        exact ⟨by omega, by omega, hcomplete.trans (by omega)⟩

/-- A loop that is complete after some calls needs no more of them. -/
theorem passage_take (calls chunk : Nat) (note : σ → Nat → σ) (events : List (TransferEvent ε))
    (available size : Nat) (state : σ)
    (h : (passage chunk note (events.take calls) available size state).ending = .complete) :
    (passage chunk note events available size state).ending = .complete := by
  induction events generalizing calls available size state with
  | nil => simpa using h
  | cons event events ih =>
    cases calls with
    | zero =>
      unfold passage
      by_cases hsize : size = 0
      · rw [if_pos hsize]
      · simp [passage, hsize] at h
    | succ calls =>
      rw [List.take_succ_cons] at h
      unfold passage at h ⊢
      by_cases hsize : size = 0
      · rw [if_pos hsize]
      rw [if_neg hsize] at h ⊢
      cases event with
      | interrupted => exact ih calls available size state h
      | failed error => cases h
      | ready count =>
        dsimp only at h ⊢
        split at h
        · cases h
        · rename_i hpart
          rw [if_neg hpart]
          exact ih calls _ _ _ h

theorem receive_passage {τ : Type} (size chunk : Nat) (note : σ → List UInt8 → σ)
    (noteLength : τ → Nat → τ) (events : List (TransferEvent ε)) (stream received : List UInt8)
    (state : σ) (noted : τ) :
    (receive size chunk note events stream received state).ending =
        (passage chunk noteLength events stream.length (size - received.length) noted).ending ∧
      (receive size chunk note events stream received state).received = received ++ stream.take
        (passage chunk noteLength events stream.length (size - received.length) noted).moved ∧
      (receive size chunk note events stream received state).stream = stream.drop
        (passage chunk noteLength events stream.length (size - received.length) noted).moved ∧
      (receive size chunk note events stream received state).events =
        (passage chunk noteLength events stream.length (size - received.length) noted).events := by
  induction events generalizing stream received state noted with
  | nil => simp [receive, passage, Nat.sub_eq_zero_iff_le]
  | cons event events ih =>
    unfold receive passage
    by_cases hsize : size ≤ received.length
    · rw [if_pos hsize, if_pos (Nat.sub_eq_zero_of_le hsize)]
      simp
    rw [if_neg hsize, if_neg (Nat.sub_ne_zero_of_lt (Nat.lt_of_not_le hsize))]
    cases event with
    | interrupted => exact ih stream received state noted
    | failed error => simp
    | ready count =>
      dsimp only
      generalize hwanted : min count (min (size - received.length) chunk) = wanted
      have hlength : (stream.take wanted).length = min wanted stream.length := List.length_take
      by_cases hempty : min wanted stream.length = 0
      · have hnil : (stream.take wanted).isEmpty = true :=
          List.isEmpty_iff.mpr (List.length_eq_zero_iff.mp (hlength.trans hempty))
        rw [if_pos hempty, if_pos hnil]
        simp
      · have hne : ¬ (stream.take wanted).isEmpty = true := fun hnil =>
          hempty (hlength.symm.trans (List.length_eq_zero_iff.mpr (List.isEmpty_iff.mp hnil)))
        rw [if_neg hempty, if_neg hne, hlength]
        have hih := ih (stream.drop (min wanted stream.length)) (received ++ stream.take wanted)
          (note state (stream.take wanted)) (noteLength noted (min wanted stream.length))
        rw [List.length_drop, List.length_append, hlength, ← Nat.sub_sub] at hih
        obtain ⟨hending, hreceived, hstream, hevents⟩ := hih
        refine ⟨hending, hreceived.trans ?_, hstream.trans ?_, hevents⟩
        · rw [List.append_assoc, List.take_add, ← List.take_eq_take_min]
        · rw [List.drop_drop]

theorem transmit_passage {chunk : Nat} (note : σ → Nat → σ) (events : List (TransferEvent ε))
    {source : List UInt8} (hchunk : source.length ≤ chunk) (sent : List UInt8) (state : σ) :
    (transmit events source sent).ending =
        (passage chunk note events source.length source.length state).ending ∧
      (transmit events source sent).sent = sent ++ source.take
        (passage chunk note events source.length source.length state).moved ∧
      (transmit events source sent).events =
        (passage chunk note events source.length source.length state).events := by
  induction events generalizing source sent state with
  | nil => simp [transmit, passage]
  | cons event events ih =>
    unfold transmit passage
    by_cases hsource : source = []
    · simp [hsource]
    have hlength : source.length ≠ 0 := mt List.length_eq_zero_iff.mp hsource
    rw [if_neg (mt List.isEmpty_iff.mp hsource), if_neg hlength]
    cases event with
    | interrupted => exact ih hchunk sent state
    | failed error => simp
    | ready count =>
      have hpart : min (min count (min source.length chunk)) source.length =
          min count source.length := by omega
      dsimp only
      rw [hpart]
      split
      · simp
      · have hrest : (source.drop (min count source.length)).length ≤ chunk :=
          Nat.le_trans (List.drop_sublist _ _).length_le hchunk
        have hih := ih hrest (sent ++ source.take (min count source.length))
          (note state (min count source.length))
        rw [List.length_drop] at hih
        obtain ⟨hending, hsent, hevents⟩ := hih
        refine ⟨hending, hsent.trans ?_, hevents⟩
        rw [List.append_assoc, List.take_add]

end PhotospiderDaemon.Foundation
