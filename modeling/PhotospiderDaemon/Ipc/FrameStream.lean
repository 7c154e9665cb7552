import PhotospiderDaemon.Ipc.Frame
import Mathlib.Data.Nat.Bitwise

/-!
# Streams of frames

What a peer sends on a connection is a byte stream; the frames in it are determined by the
stream alone. `LongestFrames` says which frames a stream holds, without reference to the
reader, and the reader is then shown to return exactly these, however its calls are cut and
interrupted.

* `frame_append_inj`: a stream begins with at most one frame.
* `readFrame_cases`: what one read does in a schedule without failures.
* `readFrames_spec`: what repeated reading does, by induction over the frames read.
* `writeFrames_spec`: what repeated writing does.
* `framing_lossless`: writing and reading, arbitrary streams, and the retained bytes.
-/

namespace PhotospiderDaemon.Ipc

open Foundation

/-! ## The frames of a stream -/

/-- The payloads that `write_frame` accepts. -/
def InRange (payload : Bytes) : Prop :=
  1 ≤ payload.length ∧ payload.length ≤ maximumFramePayloadBytes

instance (payload : Bytes) : Decidable (InRange payload) :=
  inferInstanceAs (Decidable (_ ∧ _))

/-- The bytes of one frame. -/
def frame (payload : Bytes) : Bytes := frameHeader payload.length ++ payload

/-- The bytes of a sequence of frames. -/
def frames (payloads : List Bytes) : Bytes := (payloads.map frame).flatten

/-- The stream begins with a complete frame. -/
def FrameBegins (stream : Bytes) : Prop :=
  ∃ payload rest, InRange payload ∧ stream = frame payload ++ rest

/-- What has arrived of the payload of the first frame of a stream. A length outside the bounds
frames no payload. -/
def arrivedPayload (stream : Bytes) : Bytes :=
  if frameSize (stream.take 4) > maximumFramePayloadBytes then []
  else (stream.drop 4).take (frameSize (stream.take 4))

/-- The longest prefix of the stream that is a sequence of complete frames, and what is left. -/
structure LongestFrames (stream : Bytes) (payloads : List Bytes) (tail : Bytes) : Prop where
  stream_eq : stream = frames payloads ++ tail
  inRange : ∀ payload ∈ payloads, InRange payload
  longest : ∀ payloads' tail', stream = frames payloads' ++ tail' →
    (∀ payload ∈ payloads', InRange payload) → (frames payloads').length ≤ (frames payloads).length

@[simp] theorem frames_nil : frames [] = [] := rfl

@[simp] theorem frames_cons (payload : Bytes) (payloads : List Bytes) :
    frames (payload :: payloads) = frame payload ++ frames payloads := rfl

theorem frames_concat (payloads : List Bytes) (payload : Bytes) :
    frames (payloads ++ [payload]) = frames payloads ++ frame payload := by
  simp [frames]

@[simp] theorem length_frame (payload : Bytes) : (frame payload).length = payload.length + 4 := by
  rw [frame, List.length_append, Nat.add_comm]
  rfl

theorem frame_ne_nil (payload : Bytes) : frame payload ≠ [] :=
  List.ne_nil_of_length_pos (by simp)

/-! ## Headers -/

/-- One more byte below an assembled prefix. -/
theorem shiftLeft_or_byte (high : Nat) (byte : UInt8) :
    high <<< 8 ||| byte.toNat = high * 256 + byte.toNat := by
  rw [Nat.shiftLeft_eq, Nat.mul_comm, ← Nat.two_pow_add_eq_or_of_lt byte.toNat_lt, Nat.mul_comm]

theorem frameSize_eq (a b c d : UInt8) :
    frameSize [a, b, c, d] = ((a.toNat * 256 + b.toNat) * 256 + c.toNat) * 256 + d.toNat := by
  have hshift : frameSize [a, b, c, d] =
      ((a.toNat <<< 8 ||| b.toNat) <<< 8 ||| c.toNat) <<< 8 ||| d.toNat := by
    simp only [frameSize, Nat.shiftLeft_or_distrib, ← Nat.shiftLeft_add]
  rw [hshift, shiftLeft_or_byte, shiftLeft_or_byte, shiftLeft_or_byte]

theorem frameSize_frameHeader {size : Nat} (h : size < 2 ^ 32) :
    frameSize (frameHeader size) = size := by
  rw [frameHeader, frameSize_eq]
  simp only [UInt8.toNat_ofNat', Nat.shiftRight_eq_div_pow]
  omega

theorem frameHeader_frameSize {header : Bytes} (h : header.length = 4) :
    frameHeader (frameSize header) = header := by
  match header, h with
  | [a, b, c, d], _ =>
    have ha := a.toNat_lt
    have hb := b.toNat_lt
    have hc := c.toNat_lt
    have hd := d.toNat_lt
    rw [frameSize_eq, frameHeader]
    simp only [Nat.shiftRight_eq_div_pow, List.cons.injEq, ← UInt8.toNat_inj, UInt8.toNat_ofNat',
      and_true]
    omega

theorem InRange.length_lt {payload : Bytes} (h : InRange payload) : payload.length < 2 ^ 32 :=
  Nat.lt_of_le_of_lt h.2 (by decide)

theorem arrivedPayload_append {header : Bytes} (h : header.length = 4) (rest : Bytes) :
    arrivedPayload (header ++ rest) =
      if frameSize header > maximumFramePayloadBytes then [] else rest.take (frameSize header) := by
  rw [arrivedPayload, ← h, List.take_left, List.drop_left]

theorem arrivedPayload_short {stream : Bytes} (h : stream.length < 4) :
    arrivedPayload stream = [] := by
  rw [arrivedPayload, List.drop_of_length_le (Nat.le_of_lt h), List.take_nil, ite_self]

theorem arrivedPayload_frame {payload : Bytes} (h : InRange payload) (rest : Bytes) :
    arrivedPayload (frame payload ++ rest) = payload := by
  have hsize := frameSize_frameHeader h.length_lt
  rw [frame, List.append_assoc, arrivedPayload_append rfl, hsize, if_neg (Nat.not_lt.mpr h.2),
    List.take_left]

/-! ## A stream holds one sequence of frames -/

theorem FrameBegins.length_lt {stream : Bytes} (h : FrameBegins stream) : 4 < stream.length := by
  obtain ⟨payload, rest, hpayload, rfl⟩ := h
  have hlength := hpayload.1
  rw [List.length_append, length_frame]
  omega

theorem not_frameBegins_nil : ¬ FrameBegins [] :=
  fun h => absurd h.length_lt (Nat.not_lt_zero 4)

/-- A stream that begins with a frame has its length in front and the payload behind it. -/
theorem FrameBegins.size {header rest : Bytes} (hlength : header.length = 4)
    (h : FrameBegins (header ++ rest)) :
    (1 ≤ frameSize header ∧ frameSize header ≤ maximumFramePayloadBytes) ∧
      frameSize header ≤ rest.length := by
  obtain ⟨payload, rest', hpayload, heq⟩ := h
  rw [frame, List.append_assoc] at heq
  obtain ⟨rfl, rfl⟩ := List.append_inj heq hlength
  rw [frameSize_frameHeader hpayload.length_lt, List.length_append]
  exact ⟨hpayload, Nat.le_add_right _ _⟩

theorem frame_append_inj {payload payload' rest rest' : Bytes} (h : InRange payload)
    (h' : InRange payload') (heq : frame payload ++ rest = frame payload' ++ rest') :
    payload = payload' ∧ rest = rest' := by
  rw [frame, frame, List.append_assoc, List.append_assoc] at heq
  obtain ⟨hheader, hrest⟩ := List.append_inj heq rfl
  have hlength : payload.length = payload'.length := by
    rw [← frameSize_frameHeader h.length_lt, hheader, frameSize_frameHeader h'.length_lt]
  exact List.append_inj hrest hlength

/-- A frame that was cut off begins with no frame. -/
theorem not_frameBegins_of_cut {part payload : Bytes} (h : InRange payload)
    (hpart : part <+: frame payload) (hne : part ≠ frame payload) : ¬ FrameBegins part := by
  rintro ⟨payload', rest', hpayload', rfl⟩
  obtain ⟨rest, hrest⟩ := hpart
  rw [List.append_assoc, ← List.append_nil (frame payload)] at hrest
  obtain ⟨rfl, hnil⟩ := frame_append_inj hpayload' h hrest
  rw [(List.append_eq_nil_iff.mp hnil).1, List.append_nil] at hne
  exact hne rfl

/-- Frames in front of a tail that begins with none contain every other sequence of frames. -/
theorem prefix_of_not_frameBegins {payloads payloads' : List Bytes} {tail tail' : Bytes}
    (h : ∀ payload ∈ payloads, InRange payload) (h' : ∀ payload ∈ payloads', InRange payload)
    (htail : ¬ FrameBegins tail) (heq : frames payloads ++ tail = frames payloads' ++ tail') :
    payloads' <+: payloads := by
  induction payloads' generalizing payloads with
  | nil => exact List.nil_prefix
  | cons payload' payloads' ih =>
    rw [frames_cons, List.append_assoc] at heq
    have hhead := h' payload' List.mem_cons_self
    cases payloads with
    | nil => exact absurd ⟨payload', _, hhead, heq⟩ htail
    | cons payload payloads =>
      rw [frames_cons, List.append_assoc] at heq
      obtain ⟨rfl, hrest⟩ := frame_append_inj (h payload List.mem_cons_self) hhead heq
      refine List.cons_prefix_cons.mpr ⟨rfl, ih (fun p hp => h p (List.mem_cons_of_mem _ hp))
        (fun p hp => h' p (List.mem_cons_of_mem _ hp)) hrest⟩

theorem length_frames_le_of_prefix {payloads payloads' : List Bytes} (h : payloads' <+: payloads) :
    (frames payloads').length ≤ (frames payloads).length := by
  obtain ⟨rest, rfl⟩ := h
  simp [frames]

theorem longestFrames_of_not_frameBegins {stream tail : Bytes} {payloads : List Bytes}
    (hstream : stream = frames payloads ++ tail) (h : ∀ payload ∈ payloads, InRange payload)
    (htail : ¬ FrameBegins tail) : LongestFrames stream payloads tail where
  stream_eq := hstream
  inRange := h
  longest _ _ heq h' :=
    length_frames_le_of_prefix (prefix_of_not_frameBegins h h' htail (hstream ▸ heq))

theorem LongestFrames.not_frameBegins {stream tail : Bytes} {payloads : List Bytes}
    (h : LongestFrames stream payloads tail) : ¬ FrameBegins tail := by
  rintro ⟨payload, rest, hpayload, rfl⟩
  have hlonger := h.longest (payloads ++ [payload]) rest (by simp [h.stream_eq, frames])
    (by simpa [or_imp, forall_and, hpayload] using h.inRange)
  simp only [frames, List.map_append, List.flatten_append, List.length_append, List.map_cons,
    List.map_nil, List.flatten_cons, List.flatten_nil, List.append_nil, length_frame] at hlonger
  omega

theorem exists_longestFrames (stream : Bytes) :
    ∃ payloads tail, LongestFrames stream payloads tail := by
  induction hn : stream.length using Nat.strong_induction_on generalizing stream with
  | _ n ih =>
    by_cases hbegins : FrameBegins stream
    · obtain ⟨payload, rest, hpayload, rfl⟩ := hbegins
      obtain ⟨payloads, tail, h⟩ := ih rest.length (by simp at hn; omega) rest rfl
      refine ⟨payload :: payloads, tail, longestFrames_of_not_frameBegins ?_ ?_ h.not_frameBegins⟩
      · rw [frames_cons, List.append_assoc, ← h.stream_eq]
      · exact List.forall_mem_cons.mpr ⟨hpayload, h.inRange⟩
    · exact ⟨[], stream, longestFrames_of_not_frameBegins rfl (by simp) hbegins⟩

variable [Kernel]

/-! ## One read -/

/-- Wherever a read stands, the progress object holds the first eleven of the payload bytes
taken from the stream so far. -/
theorem readFrame_progress (descriptor : Int) (connection : Connection) :
    ∃ consumed, connection.stream = consumed ++ (readFrame descriptor connection).state.stream ∧
      (consumed.drop 4).length ≤ frameSize (consumed.take 4) ∧
      (readFrame descriptor connection).state.progress =
        connection.progress.map fun _ => ⟨(consumed.drop 4).take 11⟩ := by
  unfold readFrame
  by_cases hd : descriptor < 0
  · simp only [hd, if_true]
    exact ⟨[], rfl, Nat.zero_le _, by simp [resetProgress]⟩
  simp only [hd, if_false]
  obtain ⟨header, hreads, hprogress⟩ := readExact_spec 4 (by decide)
    { connection with progress := resetProgress connection.progress }
  have hstream := hreads.stream_eq
  have hshort : header.drop 4 = [] := List.drop_of_length_le hreads.length_le
  rcases hreads.cases with ⟨c, hc, hlength, -⟩ | ⟨status, c, hc, -⟩ | ⟨c, hc, -⟩
  all_goals
    simp only [hc, Outcome.state_returned, Outcome.state_blocked] at hprogress hstream ⊢
  · split
    · exact ⟨header, hstream, by simp [hshort], by rw [hshort]; exact hprogress⟩
    · obtain ⟨payload, hpayload, hcapture⟩ := readPayload_spec (frameSize header) hprogress
      refine ⟨header ++ payload, ?_, ?_, ?_⟩
      · rw [List.append_assoc, ← hpayload.stream_eq]
        exact hstream
      · rw [← hlength, List.drop_left, List.take_left]
        exact hpayload.length_le
      · rw [hcapture, ← hlength, List.drop_left]
  · exact ⟨header, hstream, by simp [hshort], by rw [hshort]; exact hprogress⟩
  · exact ⟨header, hstream, by simp [hshort], by rw [hshort]; exact hprogress⟩

/-- What a read does after a header with an admissible length. -/
theorem readPayload_cases {header : Bytes} (hlength : header.length = 4)
    (hsize : 1 ≤ frameSize header ∧ frameSize header ≤ maximumFramePayloadBytes) {c : Connection}
    {progress : Option FrameReadProgress} (hprogress : c.progress = resetProgress progress)
    (hs : Steady c.events) :
    (∃ payload c', readPayload (frameSize header) c = .returned (.ok payload) c' ∧
      InRange payload ∧ header ++ c.stream = frame payload ++ c'.stream ∧ Steady c'.events ∧
      transfers c.events ≤ transfers c'.events + payload.length) ∨
    (∃ c', readPayload (frameSize header) c = .returned (.error truncatedFrame) c' ∧
      ¬ FrameBegins (header ++ c.stream)) ∨
    (∃ c', readPayload (frameSize header) c = .blocked c' ∧
      transfers c.events + c'.stream.length ≤ c.stream.length ∧
      (FrameBegins (header ++ c.stream) → c'.stream ≠ [])) := by
  obtain ⟨payload, hpayload, -⟩ := readPayload_spec (frameSize header) hprogress
  have hrest := hpayload.stream_eq
  have hsuffix := hpayload.events_suffix
  -- A frame would need more bytes than the stream still had.
  have htruncated : ∀ rest : Bytes, c.stream = payload ++ rest → payload.length < frameSize header →
      FrameBegins (header ++ c.stream) → rest ≠ [] := by
    intro rest hstream hshort hbegins hempty
    have hbound := (hbegins.size hlength).2
    rw [hstream, hempty, List.append_nil] at hbound
    omega
  rcases hpayload.cases with ⟨c', hc, hfull, hle⟩ | ⟨status, c', hc, hend⟩ |
    ⟨c', hc, -, hshort, hle⟩
  all_goals rw [hc] at hrest hsuffix
  · have hframe : frame payload = header ++ payload := by
      rw [frame, hfull, frameHeader_frameSize hlength]
    refine Or.inl ⟨payload, c', hc, by rwa [InRange, hfull], ?_, hs.of_suffix hsuffix, hfull ▸ hle⟩
    rw [hframe, List.append_assoc, hrest]
    rfl
  · obtain ⟨hempty, hshort, rfl⟩ := hend hs
    exact Or.inr (Or.inl ⟨c', hc, fun hbegins => htruncated _ hrest hshort hbegins hempty⟩)
  · refine Or.inr (Or.inr ⟨c', hc, ?_, htruncated _ hrest hshort⟩)
    rw [hrest, List.length_append]
    exact Nat.add_le_add_right hle _

/-- What one read does in a schedule without failures. -/
theorem readFrame_cases {descriptor : Int} (hd : 0 ≤ descriptor) {connection : Connection}
    (hs : Steady connection.events) :
    (∃ payload c, readFrame descriptor connection = .returned (.ok payload) c ∧ InRange payload ∧
      connection.stream = frame payload ++ c.stream ∧ Steady c.events ∧
      transfers connection.events ≤ transfers c.events + (frame payload).length) ∨
    (∃ status c, readFrame descriptor connection = .returned (.error status) c ∧
      ¬ FrameBegins connection.stream ∧
      (connection.stream = [] ∧ status.code = .notFound ∨
        connection.stream ≠ [] ∧ status.code = .invalidArgument)) ∨
    (∃ c, readFrame descriptor connection = .blocked c ∧
      transfers connection.events + c.stream.length ≤ connection.stream.length ∧
      (FrameBegins connection.stream → c.stream ≠ [])) := by
  obtain ⟨stream, events, progress⟩ := connection
  unfold readFrame
  simp only [if_neg (Int.not_lt.mpr hd)]
  obtain ⟨header, hreads, hprogress⟩ := readExact_spec 4 (by decide)
    ⟨stream, events, resetProgress progress⟩
  have hstream : stream = _ := hreads.stream_eq
  have hsuffix := hreads.events_suffix
  rcases hreads.cases with ⟨c, hc, hlength, hle⟩ | ⟨status, c, hc, hend⟩ | ⟨c, hc, -, hshort, hle⟩
  all_goals
    simp only [hc, Outcome.state_returned, Outcome.state_blocked] at hprogress hstream hsuffix ⊢
    subst hstream
  · have hle : transfers events ≤ transfers c.events + 4 := hle
    have hnonempty : header ++ c.stream ≠ [] := by
      rw [← List.length_pos_iff, List.length_append]
      omega
    by_cases hsize : (decide (frameSize header = 0) ||
        decide (frameSize header > maximumFramePayloadBytes)) = true
    · rw [if_pos hsize]
      refine Or.inr (Or.inl ⟨_, _, rfl, fun hbegins => ?_, Or.inr ⟨hnonempty, rfl⟩⟩)
      have hbounds := (hbegins.size hlength).1
      simp only [Bool.or_eq_true, decide_eq_true_eq] at hsize
      omega
    · rw [if_neg hsize]
      simp only [Bool.or_eq_true, decide_eq_true_eq, not_or, Nat.not_lt] at hsize
      rcases readPayload_cases hlength ⟨Nat.pos_of_ne_zero hsize.1, hsize.2⟩ hprogress
          (hs.of_suffix hsuffix) with ⟨payload, c', hc', hrange, hframe, hsteady, hle'⟩ |
        ⟨c', hc', hnone⟩ | ⟨c', hc', hle', hmore⟩
      · refine Or.inl ⟨payload, c', hc', hrange, hframe, hsteady, ?_⟩
        rw [length_frame]
        omega
      · exact Or.inr (Or.inl ⟨_, c', hc', hnone, Or.inr ⟨hnonempty, rfl⟩⟩)
      · refine Or.inr (Or.inr ⟨c', hc', ?_, hmore⟩)
        rw [List.length_append]
        omega
  · obtain ⟨hempty, hshort, rfl⟩ := hend hs
    rw [hempty, List.append_nil]
    refine Or.inr (Or.inl ⟨_, _, rfl, fun hbegins => ?_, ?_⟩)
    · have hlength := hbegins.length_lt
      omega
    · cases header with
      | nil => exact Or.inl ⟨rfl, rfl⟩
      | cons byte header => exact Or.inr ⟨List.cons_ne_nil _ _, rfl⟩
  · refine Or.inr (Or.inr ⟨c, rfl, ?_, fun hbegins hempty => ?_⟩)
    · rw [List.length_append]
      exact Nat.add_le_add_right hle _
    · have hlength := hbegins.length_lt
      rw [hempty, List.append_nil] at hlength
      omega

/-! ## Repeated reads -/

/-- How repeated reading ends: in a read that still waits, or in the first that fails. -/
inductive StreamEnd where
  | blocked (connection : Connection)
  | failed (status : Status) (connection : Connection)
  | outOfFuel

/-- Read frames until a read waits or fails. -/
def readFramesFuel (descriptor : Int) : Nat → Connection → List Bytes × StreamEnd
  | 0, _ => ([], .outOfFuel)
  | fuel + 1, connection =>
    match readFrame descriptor connection with
    | .blocked connection => ([], .blocked connection)
    | .returned (.error status) connection => ([], .failed status connection)
    | .returned (.ok payload) connection =>
      let rest := readFramesFuel descriptor fuel connection
      (payload :: rest.1, rest.2)

/-- Each frame takes bytes off the stream, so its length bounds the number of reads. -/
def readFrames (descriptor : Int) (connection : Connection) : List Bytes × StreamEnd :=
  readFramesFuel descriptor (connection.stream.length + 1) connection

/-- Repeated reads that have returned some payloads, the frames at the front of the stream. -/
structure ReadsFrames (connection : Connection) (r : List Bytes × StreamEnd) (tail : Bytes) :
    Prop where
  stream_eq : connection.stream = frames r.1 ++ tail
  inRange : ∀ payload ∈ r.1, InRange payload
  ending : (∃ c, r.2 = .blocked c ∧
      transfers connection.events + c.stream.length ≤ connection.stream.length ∧
      (FrameBegins tail → c.stream ≠ [])) ∨
    ∃ status c, r.2 = .failed status c ∧ ¬ FrameBegins tail ∧
      (tail = [] ∧ status.code = .notFound ∨ tail ≠ [] ∧ status.code = .invalidArgument)

theorem readFramesFuel_spec {descriptor : Int} (hd : 0 ≤ descriptor) {fuel : Nat}
    {connection : Connection} (hfuel : connection.stream.length < fuel)
    (hs : Steady connection.events) :
    ∃ tail, ReadsFrames connection (readFramesFuel descriptor fuel connection) tail := by
  induction fuel generalizing connection with
  | zero => omega
  | succ fuel ih =>
    unfold readFramesFuel
    rcases readFrame_cases hd hs with ⟨payload, c, hc, hrange, hstream, hsteady, hle⟩ |
      ⟨status, c, hc, hnone, hcode⟩ | ⟨c, hc, hle, hmore⟩
    · have hlength : connection.stream.length = (frame payload).length + c.stream.length := by
        rw [hstream, List.length_append]
      rw [length_frame] at hlength hle
      obtain ⟨tail, h⟩ := ih (by omega : c.stream.length < fuel) hsteady
      simp only [hc]
      refine ⟨tail, ?_, List.forall_mem_cons.mpr ⟨hrange, h.inRange⟩, ?_⟩
      · rw [frames_cons, List.append_assoc, ← h.stream_eq, hstream]
      · refine h.ending.imp_left ?_
        rintro ⟨c', hc', hle', hmore⟩
        exact ⟨c', hc', by omega, hmore⟩
    · simp only [hc]
      exact ⟨connection.stream, rfl, by simp, Or.inr ⟨status, c, rfl, hnone, hcode⟩⟩
    · simp only [hc]
      exact ⟨connection.stream, rfl, by simp, Or.inl ⟨c, rfl, hle, hmore⟩⟩

/-- Repeated reads return the frames of the stream in order, all of them once the schedule has
moved as many times as the stream is long, and the status tells whether a tail is left. -/
theorem readFrames_spec {descriptor : Int} (hd : 0 ≤ descriptor) {connection : Connection}
    (hs : Steady connection.events) {payloads : List Bytes} {tail : Bytes}
    (h : LongestFrames connection.stream payloads tail) :
    (readFrames descriptor connection).1 <+: payloads ∧
      (connection.stream.length ≤ transfers connection.events →
        (readFrames descriptor connection).1 = payloads) ∧
      ((∃ c, (readFrames descriptor connection).2 = .blocked c ∧
          transfers connection.events ≤ connection.stream.length) ∨
        ∃ status c, (readFrames descriptor connection).2 = .failed status c ∧
          (readFrames descriptor connection).1 = payloads ∧
          (tail = [] ∧ status.code = .notFound ∨ tail ≠ [] ∧ status.code = .invalidArgument)) := by
  obtain ⟨tail', hreads⟩ := readFramesFuel_spec hd (Nat.lt_succ_self connection.stream.length) hs
  change ReadsFrames connection (readFrames descriptor connection) tail' at hreads
  generalize readFrames descriptor connection = r at hreads ⊢
  have heq : frames payloads ++ tail = frames r.1 ++ tail' := by
    rw [← h.stream_eq, hreads.stream_eq]
  have hinitial : r.1 <+: payloads :=
    prefix_of_not_frameBegins h.inRange hreads.inRange h.not_frameBegins heq
  -- A reader that has left no frame unread has returned the longest sequence.
  have hall : ¬ FrameBegins tail' → r.1 = payloads ∧ tail' = tail := by
    intro hnone
    have hpayloads := hinitial.eq_of_length_le
      (prefix_of_not_frameBegins hreads.inRange h.inRange hnone heq.symm).length_le
    rw [hpayloads, List.append_cancel_left_eq] at heq
    exact ⟨hpayloads, heq.symm⟩
  rcases hreads.ending with ⟨c, hc, hle, hmore⟩ | ⟨status, c, hc, hnone, hcode⟩
  · refine ⟨hinitial, fun htransfers => (hall fun hbegins => hmore hbegins ?_).1,
      Or.inl ⟨c, hc, by omega⟩⟩
    rw [← List.length_eq_zero_iff]
    omega
  · obtain ⟨hpayloads, rfl⟩ := hall hnone
    exact ⟨hinitial, fun _ => hpayloads, Or.inr ⟨status, c, hc, hpayloads, hcode⟩⟩

/-! ## Repeated writes -/

/-- Write frames until a write waits or fails. -/
def writeFrames (descriptor : Int) : List Bytes → Outgoing → Outcome Status Outgoing
  | [], outgoing => .returned Status.success outgoing
  | payload :: payloads, outgoing =>
    match writeFrame descriptor payload outgoing with
    | .blocked outgoing => .blocked outgoing
    | .returned status outgoing =>
      if status.ok then writeFrames descriptor payloads outgoing else .returned status outgoing

/-- A write that in a schedule without failures sends all of its bytes, or still waits after
fewer calls than bytes. -/
def Sends (bytes : Bytes) (outgoing : Outgoing) (outcome : Outcome Status Outgoing) : Prop :=
  (∃ o, outcome = .returned Status.success o ∧ o.sent = outgoing.sent ++ bytes ∧
    Steady o.events ∧ transfers outgoing.events ≤ transfers o.events + bytes.length) ∨
  ∃ o, outcome = .blocked o ∧ o.sent <+: outgoing.sent ++ bytes ∧
    transfers outgoing.events < bytes.length

/-- Two writes after each other, the second only if the first has succeeded. -/
theorem Sends.andThen {first second : Bytes} {outgoing : Outgoing}
    {outcome : Outcome Status Outgoing} {next : Outgoing → Outcome Status Outgoing} :
    Sends first outgoing outcome → (∀ o, Steady o.events → Sends second o (next o)) →
    Sends (first ++ second) outgoing (match outcome with
      | .blocked o => .blocked o
      | .returned status o => if status.ok then next o else .returned status o) := by
  rintro (⟨o, rfl, hsent, hsteady, hle⟩ | ⟨o, rfl, hsent, hlt⟩) hnext
  · simp only [Status.ok_success, if_true]
    rcases hnext o hsteady with ⟨o', ho', hsent', hsteady', hle'⟩ | ⟨o', ho', hsent', hlt⟩
    · refine Or.inl ⟨o', ho', by rw [hsent', hsent, List.append_assoc], hsteady', ?_⟩
      rw [List.length_append]
      omega
    · refine Or.inr ⟨o', ho', by rwa [hsent, List.append_assoc] at hsent', ?_⟩
      rw [List.length_append]
      omega
  · refine Or.inr ⟨o, rfl, ?_, ?_⟩
    · rw [← List.append_assoc]
      exact hsent.trans (List.prefix_append _ _)
    · rw [List.length_append]
      omega

theorem writeExact_spec (source : Bytes) {outgoing : Outgoing} (hs : Steady outgoing.events) :
    Sends source outgoing (writeExact source outgoing) := by
  have h := transmit_spec hs source outgoing.sent
  have hle := h.transfers_le
  unfold writeExact
  rcases h.ending with ⟨hend, hunsent⟩ | ⟨hend, hevents, hunsent⟩
  · simp only [hend]
    refine Or.inl ⟨_, rfl, ?_, hs.of_suffix h.events_suffix, ?_⟩
    · simpa [hunsent] using h.sent_eq
    · simpa [hunsent] using hle
  · simp only [hend]
    refine Or.inr ⟨_, rfl, ⟨_, h.sent_eq⟩, ?_⟩
    have hsome := List.length_pos_iff.mpr hunsent
    have hunsentLe := h.unsent_le
    have hnone : transfers (transmit outgoing.events source outgoing.sent).events = 0 := by
      rw [hevents]
      rfl
    omega

theorem writeFrame_spec {descriptor : Int} (hd : 0 ≤ descriptor) {payload : Bytes}
    (h : InRange payload) {outgoing : Outgoing} (hs : Steady outgoing.events) :
    Sends (frame payload) outgoing (writeFrame descriptor payload outgoing) := by
  have hnonempty : payload ≠ [] := List.ne_nil_of_length_pos h.1
  have hlength := h.length_lt
  have haccept : ¬ (decide (descriptor < 0) || payload.isEmpty ||
      decide (payload.length > maximumFramePayloadBytes) ||
      decide (payload.length > 2 ^ 32 - 1)) = true := by
    simp only [Bool.or_eq_true, decide_eq_true_eq, List.isEmpty_iff, not_or, hnonempty,
      not_false_eq_true, and_true]
    exact ⟨⟨Int.not_lt.mpr hd, Nat.not_lt.mpr h.2⟩, by omega⟩
  unfold writeFrame
  rw [if_neg haccept]
  exact (writeExact_spec _ hs).andThen fun o ho => writeExact_spec payload ho

theorem writeFrames_spec {descriptor : Int} (hd : 0 ≤ descriptor) {payloads : List Bytes}
    (h : ∀ payload ∈ payloads, InRange payload) {outgoing : Outgoing}
    (hs : Steady outgoing.events) :
    Sends (frames payloads) outgoing (writeFrames descriptor payloads outgoing) := by
  induction payloads generalizing outgoing with
  | nil => exact Or.inl ⟨outgoing, rfl, by simp, hs, by simp⟩
  | cons payload payloads ih =>
    obtain ⟨hhead, htail⟩ := List.forall_mem_cons.mp h
    exact (writeFrame_spec hd hhead hs).andThen fun o ho => ih htail ho

/-! ## The law of the stream -/

/-- The status tells whether the stream ends on a frame boundary. -/
theorem code_iff_of_boundary {tail : Bytes} {code : ErrorCode}
    (h : tail = [] ∧ code = .notFound ∨ tail ≠ [] ∧ code = .invalidArgument) :
    (code = .notFound ↔ tail = []) ∧ (code = .invalidArgument ↔ tail ≠ []) := by
  rcases h with ⟨htail, rfl⟩ | ⟨htail, rfl⟩
  · simp [htail, ErrorCode.invalidArgument_ne_notFound.symm]
  · simp [htail]

/-- Frames written in any steady schedule are read back in any steady schedule; any stream is
read up to its longest sequence of frames; and a read retains the front of the payload in any
schedule at all, wherever the schedule leaves it. -/
theorem framing_lossless {descriptor : Int} (hd : 0 ≤ descriptor) :
    (∀ payloads : List Bytes, (∀ payload ∈ payloads, InRange payload) →
      (∀ sends, Steady sends →
        Sends (frames payloads) ⟨[], sends⟩ (writeFrames descriptor payloads ⟨[], sends⟩)) ∧
      ∀ receives, Steady receives → ∀ progress,
        let r := readFrames descriptor ⟨frames payloads, receives, progress⟩
        r.1 <+: payloads ∧ ((frames payloads).length ≤ transfers receives → r.1 = payloads)) ∧
    (∀ stream, (∃ payloads tail, LongestFrames stream payloads tail) ∧
      ∀ payloads tail, LongestFrames stream payloads tail →
      ∀ receives, Steady receives → ∀ progress,
        let r := readFrames descriptor ⟨stream, receives, progress⟩
        r.1 <+: payloads ∧
        ((∃ c, r.2 = .blocked c ∧ transfers receives ≤ stream.length) ∨
          ∃ status c, r.2 = .failed status c ∧ r.1 = payloads ∧
            (status.code = .notFound ↔ tail = []) ∧
            (status.code = .invalidArgument ↔ tail ≠ []))) ∧
    ∀ connection : Connection, ∃ consumed,
      connection.stream = consumed ++ (readFrame descriptor connection).state.stream ∧
      (consumed.drop 4).length ≤ frameSize (consumed.take 4) ∧
      (readFrame descriptor connection).state.progress =
        connection.progress.map fun _ => ⟨(consumed.drop 4).take 11⟩ := by
  refine ⟨fun payloads hpayloads => ⟨fun sends hsends => writeFrames_spec hd hpayloads hsends, ?_⟩,
    fun stream => ⟨exists_longestFrames stream, ?_⟩, readFrame_progress descriptor⟩
  · intro receives hreceives progress
    have hlongest : LongestFrames (frames payloads) payloads [] :=
      longestFrames_of_not_frameBegins (List.append_nil _).symm hpayloads not_frameBegins_nil
    obtain ⟨hinitial, hall, -⟩ := readFrames_spec hd
      (show Steady (Connection.mk _ receives progress).events from hreceives) hlongest
    exact ⟨hinitial, hall⟩
  · intro payloads tail hlongest receives hreceives progress
    obtain ⟨hinitial, -, hend⟩ := readFrames_spec hd
      (show Steady (Connection.mk _ receives progress).events from hreceives) hlongest
    refine ⟨hinitial, hend.imp_right ?_⟩
    rintro ⟨status, c, hc, hpayloads, hcode⟩
    exact ⟨status, c, hc, hpayloads, code_iff_of_boundary hcode⟩

omit [Kernel] in
/-- Two frames in single bytes, with an interruption inside the first header. -/
theorem framing_lossless_bytewise :
    letI := sampleKernel
    (readFrames 3 ⟨frames [[7], [8, 9]], .ready 1 :: .interrupted :: List.replicate 10 (.ready 1),
      none⟩).1 = [[7], [8, 9]] := by
  let _ : Kernel := sampleKernel
  have hpayloads : ∀ payload ∈ [[7], [8, 9]], InRange payload := by
    simp [InRange, maximumFramePayloadBytes]
  refine (((framing_lossless (by decide)).1 _ hpayloads).2 _ ?_ none).2 (by decide)
  simp [Steady, TransferEvent.Steady]

end PhotospiderDaemon.Ipc
