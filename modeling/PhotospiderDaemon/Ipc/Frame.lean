import Mathlib.Algebra.Group.Nat.Defs
import PhotospiderDaemon.Foundation.PartialTransfer
import PhotospiderDaemon.Ipc.Protocol

/-!
# Frames

`src/lib/ipc/frame.cpp`: a frame is a four-byte big-endian length and a payload of one byte
to four mebibytes. The loops `read_exact`, `read_payload` and `write_exact` are `receive` and
`transmit` of the library; a connection carries the outcomes of its coming calls, so a read
that is still waiting in `recv` is an outcome of its own here. A failed call carries the text
of `strerror`.

* `readExact_spec`: what a read of the header takes from the stream.
* `readPayload_spec`: what a read of the payload takes from the stream and what it retains.
-/

namespace PhotospiderDaemon.Ipc

open Foundation

/-! ## Reading -/

/-- `kRequestCorrelationPrefixBytes`. -/
def requestCorrelationPrefixBytes : Nat := 11

/-- `kReadChunkBytes`. -/
def readChunkBytes : Nat := 16 * 1024

/-- The initialized part of the retained array; its length is `payload_prefix_size`. -/
structure FrameReadProgress where
  payloadPrefix : Bytes
deriving DecidableEq

namespace FrameReadProgress

/-- Retain what still fits of a received chunk. -/
def capture (progress : FrameReadProgress) (chunk : Bytes) : FrameReadProgress :=
  if progress.payloadPrefix.length < requestCorrelationPrefixBytes then
    let captured := min chunk.length
      (requestCorrelationPrefixBytes - progress.payloadPrefix.length)
    ⟨progress.payloadPrefix ++ chunk.take captured⟩
  else progress

end FrameReadProgress

/-- The progress object of the caller, if there is one, at the start of a frame. -/
def resetProgress (progress : Option FrameReadProgress) : Option FrameReadProgress :=
  progress.map fun _ => ⟨[]⟩

/-- The progress object of the caller, if there is one, after a received chunk. -/
def captureInto (progress : Option FrameReadProgress) (chunk : Bytes) : Option FrameReadProgress :=
  progress.map fun progress => progress.capture chunk

/-- The receiving side of a descriptor: the bytes that are still to come before the end of
the stream, the outcomes of the coming `recv` calls, and the progress object, if the caller
passed one. -/
structure Connection where
  stream : Bytes
  events : List (TransferEvent Bytes)
  progress : Option FrameReadProgress

/-- A call has returned, or is still waiting. -/
inductive Outcome (α σ : Type) where
  | blocked (state : σ)
  | returned (value : α) (state : σ)

/-- The state in which a call returned or waits. -/
def Outcome.state {α σ : Type} : Outcome α σ → σ
  | blocked state => state
  | returned _ state => state

@[simp] theorem Outcome.state_blocked {α σ : Type} (state : σ) :
    (Outcome.blocked state : Outcome α σ).state = state := rfl

@[simp] theorem Outcome.state_returned {α σ : Type} (value : α) (state : σ) :
    (Outcome.returned value state).state = state := rfl

section Kernel

variable [Kernel]

def truncatedFrame : Status :=
  Status.failure .invalidArgument (ascii "local peer closed during a frame")

def readFailure (errno : Bytes) : Status :=
  Status.failure .internal (ascii "local frame read failed: " ++ errno)

/-- The status of `read_exact` at the end of the stream. -/
def endOfStreamStatus (received : Bytes) : Status :=
  if received.isEmpty then Status.failure .notFound (ascii "local peer closed the connection")
  else truncatedFrame

/-- How both receiving loops return. They differ in the status at the end of the stream. -/
def conclude {σ : Type} (r : Receipt Bytes σ) (endOfStream : Status) (connection : Connection) :
    Outcome (Except Status Bytes) Connection :=
  match r.ending with
  | .complete => .returned (.ok r.received) connection
  | .stopped => .returned (.error endOfStream) connection
  | .failed errno => .returned (.error (readFailure errno)) connection
  | .blocked => .blocked connection

/-- `read_exact`. -/
def readExact (size : Nat) (connection : Connection) : Outcome (Except Status Bytes) Connection :=
  let r := receive size size (fun _ _ => ()) connection.events connection.stream [] ()
  conclude r (endOfStreamStatus r.received)
    { connection with stream := r.stream, events := r.events }

/-- `read_payload`. -/
def readPayload (size : Nat) (connection : Connection) : Outcome (Except Status Bytes) Connection :=
  let r := receive size readChunkBytes captureInto connection.events connection.stream []
    connection.progress
  conclude r truncatedFrame ⟨r.stream, r.events, r.state⟩

/-- The length in a header of four bytes. -/
def frameSize : Bytes → Nat
  | [a, b, c, d] => a.toNat <<< 24 ||| b.toNat <<< 16 ||| c.toNat <<< 8 ||| d.toNat
  | _ => 0

/-- `read_frame`. -/
def readFrame (descriptor : Int) (connection : Connection) :
    Outcome (Except Status Bytes) Connection :=
  let connection := { connection with progress := resetProgress connection.progress }
  if descriptor < 0 then
    .returned (.error (Status.failure .invalidArgument (ascii "frame descriptor is invalid")))
      connection
  else
    match readExact 4 connection with
    | .blocked connection => .blocked connection
    | .returned (.error status) connection => .returned (.error status) connection
    | .returned (.ok header) connection =>
      if frameSize header = 0 || frameSize header > maximumFramePayloadBytes then
        .returned (.error (Status.failure .invalidArgument
          (ascii "frame payload length is outside bounds"))) connection
      else readPayload (frameSize header) connection

/-! ## What one receiving call does -/

/-- A read of `size` bytes that has taken some bytes of the stream. In a schedule without
failures it only fails at the end of the stream, with the given status. -/
structure ReadsBytes (size : Nat) (endOfStream : Status) (connection : Connection)
    (outcome : Outcome (Except Status Bytes) Connection) (taken : Bytes) : Prop where
  stream_eq : connection.stream = taken ++ outcome.state.stream
  length_le : taken.length ≤ size
  events_suffix : outcome.state.events <:+ connection.events
  cases : (∃ c, outcome = .returned (.ok taken) c ∧ taken.length = size ∧
        transfers connection.events ≤ transfers c.events + size) ∨
      (∃ status c, outcome = .returned (.error status) c ∧
        (Steady connection.events →
          c.stream = [] ∧ taken.length < size ∧ status = endOfStream)) ∨
      ∃ c, outcome = .blocked c ∧ c.events = [] ∧ taken.length < size ∧
        transfers connection.events ≤ taken.length

theorem readsBytes_conclude {σ : Type} {size : Nat} {note : σ → Bytes → σ} {connection : Connection}
    {state : σ} {parts : List Bytes} {r : Receipt Bytes σ} (endOfStream : Status)
    (progress : Option FrameReadProgress)
    (h : Receives size note connection.events connection.stream [] state parts r) :
    ReadsBytes size endOfStream connection (conclude r endOfStream ⟨r.stream, r.events, progress⟩)
      parts.flatten := by
  have hreceived : r.received = parts.flatten := by simpa using h.received_eq
  have hlength : parts.flatten.length ≤ size := by
    rw [← hreceived]
    exact h.length_le (Nat.zero_le _)
  have htransfers := h.transfers_le
  unfold conclude
  cases hending : r.ending with
  | complete =>
    have hsize : size ≤ parts.flatten.length := hreceived ▸ h.complete hending
    refine ⟨h.stream_eq, hlength, h.events_suffix, Or.inl ⟨_, by rw [hreceived], by omega, ?_⟩⟩
    rw [hending] at htransfers
    simpa [← Nat.le_antisymm hlength hsize] using htransfers
  | stopped =>
    obtain ⟨hshort, hend⟩ := h.stopped hending
    rw [hreceived] at hshort
    exact ⟨h.stream_eq, hlength, h.events_suffix, Or.inr (Or.inl ⟨_, _, rfl, fun hs =>
      ⟨hend hs, hshort, rfl⟩⟩)⟩
  | failed errno =>
    exact ⟨h.stream_eq, hlength, h.events_suffix, Or.inr (Or.inl ⟨_, _, rfl, fun hs =>
      absurd hs (h.failed errno hending)⟩)⟩
  | blocked =>
    obtain ⟨hshort, hevents⟩ := h.blocked hending
    rw [hreceived] at hshort
    refine ⟨h.stream_eq, hlength, h.events_suffix, Or.inr (Or.inr ⟨_, rfl, hevents, hshort, ?_⟩)⟩
    rw [hending, hevents] at htransfers
    simpa [transfers] using htransfers

theorem conclude_state {σ : Type} (r : Receipt Bytes σ) (endOfStream : Status)
    (connection : Connection) : (conclude r endOfStream connection).state = connection := by
  unfold conclude
  split <;> rfl

theorem readExact_spec (size : Nat) (hsize : 0 < size) (connection : Connection) :
    ∃ taken, ReadsBytes size (endOfStreamStatus taken) connection
      (readExact size connection) taken ∧
      (readExact size connection).state.progress = connection.progress := by
  obtain ⟨parts, h⟩ := receive_spec size hsize (fun (_ : Unit) _ => ()) connection.events
    connection.stream [] ()
  refine ⟨parts.flatten, ?_, by rw [readExact, conclude_state]⟩
  have hreads := readsBytes_conclude (endOfStreamStatus parts.flatten) connection.progress h
  rw [← List.nil_append parts.flatten, ← h.received_eq] at hreads ⊢
  exact hreads

omit [Kernel] in
theorem capture_eq {retained : Bytes} (h : retained.length ≤ 11) (chunk : Bytes) :
    FrameReadProgress.capture ⟨retained⟩ chunk = ⟨(retained ++ chunk).take 11⟩ := by
  rw [List.take_append, List.take_of_length_le h]
  unfold FrameReadProgress.capture requestCorrelationPrefixBytes
  by_cases hroom : retained.length < 11
  · rw [if_pos hroom]
    simp only [Nat.min_comm chunk.length, ← List.take_take, List.take_length]
  · have hfull : 11 - retained.length = 0 := by omega
    rw [if_neg hroom, hfull, List.take_zero, List.append_nil]

omit [Kernel] in
/-- The capture window may straddle any number of received parts. -/
theorem capture_foldl (parts : List Bytes) {retained : Bytes} (h : retained.length ≤ 11) :
    parts.foldl FrameReadProgress.capture ⟨retained⟩ = ⟨(retained ++ parts.flatten).take 11⟩ := by
  induction parts generalizing retained with
  | nil => simp [List.take_of_length_le h]
  | cons chunk parts ih =>
    have hwindow : 11 - min 11 (retained ++ chunk).length = 11 - (retained ++ chunk).length := by
      omega
    rw [List.foldl_cons, capture_eq h, ih (List.length_take_le 11 _), List.flatten_cons,
      ← List.append_assoc, List.take_append, List.take_take, List.length_take,
      Nat.min_self, hwindow]
    exact congrArg FrameReadProgress.mk List.take_append.symm

omit [Kernel] in
theorem captureInto_foldl (parts : List Bytes) (progress : Option FrameReadProgress) :
    parts.foldl captureInto (resetProgress progress) =
      progress.map fun _ => ⟨parts.flatten.take 11⟩ := by
  have hfold : ∀ start : Option FrameReadProgress,
      parts.foldl captureInto start = start.map (parts.foldl FrameReadProgress.capture) := by
    induction parts with
    | nil => simp
    | cons chunk parts ih =>
      intro start
      rw [List.foldl_cons, ih, captureInto, Option.map_map]
      rfl
  rw [hfold, resetProgress, Option.map_map]
  congr 1
  funext _
  exact capture_foldl parts (Nat.zero_le _)

theorem readPayload_spec (size : Nat) {connection : Connection}
    {progress : Option FrameReadProgress}
    (hprogress : connection.progress = resetProgress progress) :
    ∃ taken, ReadsBytes size truncatedFrame connection (readPayload size connection) taken ∧
      (readPayload size connection).state.progress = progress.map fun _ => ⟨taken.take 11⟩ := by
  obtain ⟨parts, h⟩ := receive_spec size (by decide : 0 < readChunkBytes) captureInto
    connection.events connection.stream [] connection.progress
  refine ⟨parts.flatten, readsBytes_conclude truncatedFrame _ h, ?_⟩
  rw [readPayload, conclude_state, h.state_eq, hprogress, captureInto_foldl]

/-! ## Writing -/

/-- The sending side of a descriptor: the bytes sent so far and the outcomes of the coming
`send` calls. -/
structure Outgoing where
  sent : Bytes
  events : List (TransferEvent Bytes)

/-- `write_exact`. -/
def writeExact (source : Bytes) (outgoing : Outgoing) : Outcome Status Outgoing :=
  let d := transmit outgoing.events source outgoing.sent
  let outgoing := ⟨d.sent, d.events⟩
  match d.ending with
  | .complete => .returned Status.success outgoing
  | .stopped =>
    .returned (Status.failure .internal (ascii "local frame write made no progress")) outgoing
  | .failed errno =>
    .returned (Status.failure .internal (ascii "local frame write failed: " ++ errno)) outgoing
  | .blocked => .blocked outgoing

/-- The four bytes of a length, most significant first. -/
def frameHeader (size : Nat) : Bytes :=
  [UInt8.ofNat (size >>> 24), UInt8.ofNat (size >>> 16), UInt8.ofNat (size >>> 8), UInt8.ofNat size]

/-- `write_frame`. -/
def writeFrame (descriptor : Int) (payload : Bytes) (outgoing : Outgoing) :
    Outcome Status Outgoing :=
  if descriptor < 0 || payload.isEmpty || payload.length > maximumFramePayloadBytes ||
      payload.length > 2 ^ 32 - 1 then
    .returned (Status.failure .invalidArgument (ascii "frame descriptor or payload is invalid"))
      outgoing
  else
    match writeExact (frameHeader payload.length) outgoing with
    | .blocked outgoing => .blocked outgoing
    | .returned status outgoing =>
      if status.ok then writeExact payload outgoing else .returned status outgoing

end Kernel

end PhotospiderDaemon.Ipc
