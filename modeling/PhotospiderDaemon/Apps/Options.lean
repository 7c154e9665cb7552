import Mathlib.Data.List.Induction
import Mathlib.Data.List.TakeWhile
import Mathlib.Data.Nat.Digits.Defs
import PhotospiderDaemon.Ipc.Protocol

/-!
# The command line of the daemon

`positive_uint32` and `parse_options` of `apps/photospiderd/main.cpp`. The conversion they rest
on, `std::stoull` in base ten, is modelled from its standard: white space is skipped, one sign
may follow, the longest run of digits is taken, and after a minus sign the result is negated
modulo `2 ^ 64`. Against it stands the integer that a numeral denotes.
-/

namespace PhotospiderDaemon.Apps

open Ipc (Bytes ascii)

/-- What the functions of this module throw. The texts of `std::stoull` are left to the
implementation. -/
inductive Exception
  /-- `std::invalid_argument` of this program -/
  | invalidArgument (what : Bytes)
  /-- `std::invalid_argument` of `std::stoull` -/
  | noConversion
  /-- `std::out_of_range` of `std::stoull` -/
  | outOfRange
deriving DecidableEq

/-! ## `std::stoull` -/

/-- `std::isspace` in the "C" locale -/
def isSpace (byte : UInt8) : Bool := byte = 0x20 || (0x09 ≤ byte && byte ≤ 0x0d)

def isDigit (byte : UInt8) : Bool := 0x30 ≤ byte && byte ≤ 0x39

inductive Sign
  | absent
  | plus
  | minus
deriving DecidableEq

def Sign.bytes : Sign → Bytes
  | absent => []
  | plus => [0x2b]
  | minus => [0x2d]

/-- The optional sign, and what follows it. -/
def takeSign : Bytes → Sign × Bytes
  | [] => (.absent, [])
  | byte :: rest =>
    if byte = 0x2b then (.plus, rest)
    else if byte = 0x2d then (.minus, rest)
    else (.absent, byte :: rest)

/-- The sign and the digits of the subject sequence, and what is not part of it. -/
def subject (text : Bytes) : Sign × Bytes × Bytes :=
  let (sign, unsigned) := takeSign (text.dropWhile isSpace)
  (sign, unsigned.takeWhile isDigit, unsigned.dropWhile isDigit)

/-- The number that the digits make, the most significant first. -/
def magnitude (digits : Bytes) : Nat :=
  digits.foldl (fun value digit => 10 * value + (digit.toNat - 0x30)) 0

/-- The value and the count of bytes consumed. -/
def stoull (text : Bytes) : Except Exception (UInt64 × Nat) :=
  let (sign, digits, rest) := subject text
  if digits = [] then .error .noConversion
  else if magnitude digits > 0xffffffffffffffff then .error .outOfRange
  else
    let value := UInt64.ofNat (magnitude digits)
    .ok (if sign = .minus then -value else value, text.length - rest.length)

/-! ## The functions of the program -/

def positiveUint32 (text option : Bytes) : Except Exception UInt32 := do
  let (value, consumed) ← stoull text
  if consumed ≠ text.length ∨ value = 0 ∨ value > 0xffffffff then
    throw (.invalidArgument (option ++ ascii " requires a positive uint32"))
  return value.toUInt32

structure Options where
  socketPath : Bytes := []
  maximumConcurrency : UInt32 := 1
  maximumJobs : UInt32 := 1024
  maximumSessions : UInt32 := 128
  maximumConnections : UInt32 := 64
  gpuEnabled : Bool := false
  help : Bool := false
deriving DecidableEq

/-- The arguments that the next one belongs to. -/
def takesValue (argument : Bytes) : Bool :=
  argument = ascii "--socket" || argument = ascii "--max-concurrency" ||
    argument = ascii "--max-jobs" || argument = ascii "--max-sessions" ||
      argument = ascii "--max-connections"

def setValue (options : Options) (argument value : Bytes) : Except Exception Options := do
  if argument = ascii "--socket" then
    return { options with socketPath := value }
  else if argument = ascii "--max-concurrency" then
    return { options with maximumConcurrency := ← positiveUint32 value argument }
  else if argument = ascii "--max-jobs" then
    return { options with maximumJobs := ← positiveUint32 value argument }
  else if argument = ascii "--max-sessions" then
    return { options with maximumSessions := ← positiveUint32 value argument }
  else
    return { options with maximumConnections := ← positiveUint32 value argument }

def parseLoop (options : Options) : List Bytes → Except Exception Options
  | [] => .ok options
  | argument :: rest =>
    if argument = ascii "--help" then
      parseLoop { options with help := true } rest
    else if argument = ascii "--gpu" then
      parseLoop { options with gpuEnabled := true } rest
    else if takesValue argument then
      match rest with
      | [] => .error (.invalidArgument (argument ++ ascii " requires a value"))
      | value :: rest => do
        let options ← setValue options argument value
        parseLoop options rest
    else .error (.invalidArgument (ascii "unknown option: " ++ argument))

/-- `argv` begins with the name of the program. -/
def parseOptions (argv : List Bytes) : Except Exception Options := do
  let options ← parseLoop {} argv.tail
  if ¬ options.help ∧ options.socketPath = [] then
    throw (.invalidArgument (ascii "--socket PATH is required"))
  return options

/-! ## What a numeral denotes -/

/-- The text is white space, a sign and digits. -/
def Numeral (text : Bytes) (sign : Sign) (digits : Bytes) : Prop :=
  digits ≠ [] ∧ (∀ byte ∈ digits, isDigit byte = true) ∧
    ∃ spaces : Bytes, (∀ byte ∈ spaces, isSpace byte = true) ∧
      text = spaces ++ (sign.bytes ++ digits)

/-- The integer of a sign and decimal digits. -/
def integer (sign : Sign) (digits : Bytes) : ℤ :=
  let absolute : ℤ := Nat.ofDigits 10 (digits.reverse.map fun digit => digit.toNat - 0x30)
  match sign with
  | .minus => -absolute
  | _ => absolute

/-- The text is a decimal numeral with this mathematical value. -/
def Denotes (text : Bytes) (value : ℤ) : Prop :=
  ∃ sign digits, Numeral text sign digits ∧ integer sign digits = value

theorem magnitude_eq (digits : Bytes) :
    (magnitude digits : ℤ) = integer .absent digits := by
  have hdigits : ∀ digits : Bytes, magnitude digits =
      Nat.ofDigits 10 (digits.reverse.map fun digit => digit.toNat - 0x30) := by
    intro digits
    induction digits using List.reverseRecOn with
    | nil => rfl
    | append_singleton digits digit ih =>
      have hsnoc : magnitude (digits ++ [digit]) = 10 * magnitude digits +
          (digit.toNat - 0x30) := by
        simp [magnitude, List.foldl_append]
      rw [hsnoc, ih, List.reverse_append, List.reverse_singleton, List.singleton_append,
        List.map_cons, Nat.ofDigits_cons]
      omega
  simp only [integer]
  rw [hdigits, Nat.coe_ofDigits]
  rfl

theorem integer_eq (sign : Sign) (digits : Bytes) :
    integer sign digits = if sign = .minus then -(magnitude digits : ℤ) else magnitude digits := by
  rw [magnitude_eq]
  cases sign <;> rfl

theorem takeSign_append (sign : Sign) {digits : Bytes}
    (hdigits : ∀ byte ∈ digits, isDigit byte = true) :
    takeSign (sign.bytes ++ digits) = (sign, digits) := by
  cases sign with
  | plus => rfl
  | minus => rfl
  | absent =>
    cases digits with
    | nil => rfl
    | cons digit digits =>
      have hdigit : isDigit digit = true := hdigits digit List.mem_cons_self
      have hplus : digit ≠ 0x2b := by
        rintro rfl
        exact absurd hdigit (by decide)
      have hminus : digit ≠ 0x2d := by
        rintro rfl
        exact absurd hdigit (by decide)
      show takeSign (digit :: digits) = _
      rw [takeSign, if_neg hplus, if_neg hminus]

theorem bytes_takeSign (text : Bytes) : (takeSign text).1.bytes ++ (takeSign text).2 = text := by
  cases text with
  | nil => rfl
  | cons byte rest =>
    rw [takeSign]
    by_cases hplus : byte = 0x2b
    · rw [if_pos hplus, hplus]
      rfl
    · by_cases hminus : byte = 0x2d
      · rw [if_neg hplus, if_pos hminus, hminus]
        rfl
      · rw [if_neg hplus, if_neg hminus]
        rfl

theorem not_isSpace_sign_digits (sign : Sign) {digits : Bytes} {byte : UInt8} {rest : Bytes}
    (hdigits : ∀ byte ∈ digits, isDigit byte = true) (h : sign.bytes ++ digits = byte :: rest) :
    ¬ isSpace byte = true := by
  have hcases : byte = 0x2b ∨ byte = 0x2d ∨ isDigit byte = true := by
    cases sign with
    | plus => exact Or.inl (List.cons.inj h).1.symm
    | minus => exact Or.inr (Or.inl (List.cons.inj h).1.symm)
    | absent =>
      have hmem : byte ∈ digits := by
        have hdigits : digits = byte :: rest := h
        rw [hdigits]
        exact List.mem_cons_self
      exact Or.inr (Or.inr (hdigits byte hmem))
  rcases hcases with rfl | rfl | hdigit
  · decide
  · decide
  · intro hspace
    simp only [isDigit, isSpace, Bool.and_eq_true, Bool.or_eq_true, decide_eq_true_eq,
      UInt8.le_iff_toNat_le, ← UInt8.toNat_inj] at hdigit hspace
    simp at hdigit hspace
    omega

/-- A numeral is what the conversion takes the whole of. -/
theorem numeral_iff (text : Bytes) (sign : Sign) (digits : Bytes) :
    Numeral text sign digits ↔ digits ≠ [] ∧ subject text = (sign, digits, []) := by
  constructor
  · rintro ⟨hne, hdigits, spaces, hspaces, rfl⟩
    have hskip : (spaces ++ (sign.bytes ++ digits)).dropWhile isSpace = sign.bytes ++ digits := by
      rw [List.dropWhile_append_of_pos hspaces]
      cases hrest : sign.bytes ++ digits with
      | nil => rfl
      | cons byte rest =>
        exact List.dropWhile_cons_of_neg (not_isSpace_sign_digits sign hdigits hrest)
    have htake : digits.takeWhile isDigit = digits := List.takeWhile_eq_self_iff.mpr hdigits
    have hdrop : digits.dropWhile isDigit = [] := List.dropWhile_eq_nil_iff.mpr hdigits
    refine ⟨hne, ?_⟩
    simp only [subject, hskip, takeSign_append sign hdigits, htake, hdrop]
  · rintro ⟨hne, hsubject⟩
    simp only [subject, Prod.mk.injEq] at hsubject
    obtain ⟨rfl, htake, hdrop⟩ := hsubject
    have hwhole : (takeSign (text.dropWhile isSpace)).2 = digits := by
      rw [← List.takeWhile_append_dropWhile (p := isDigit) (l := (takeSign _).2), htake, hdrop,
        List.append_nil]
    refine ⟨hne, ?_, text.takeWhile isSpace, ?_, ?_⟩
    · rw [← hwhole]
      exact List.dropWhile_eq_nil_iff.mp hdrop
    · exact fun byte hbyte => List.mem_takeWhile_imp hbyte
    · rw [← hwhole, bytes_takeSign, List.takeWhile_append_dropWhile]

theorem denotes_unique {text : Bytes} {z z' : ℤ} (h : Denotes text z) (h' : Denotes text z') :
    z = z' := by
  obtain ⟨sign, digits, hnumeral, rfl⟩ := h
  obtain ⟨sign', digits', hnumeral', rfl⟩ := h'
  have hsubject := ((numeral_iff _ _ _).mp hnumeral).2
  rw [((numeral_iff _ _ _).mp hnumeral').2] at hsubject
  cases hsubject
  rfl

/-! ## `positive_uint32` -/

/-- The conversion of a numeral that fits is its integer modulo `2 ^ 64`. -/
theorem toNat_converted {sign : Sign} {digits : Bytes} (h : magnitude digits < 2 ^ 64) :
    ((if sign = .minus then -UInt64.ofNat (magnitude digits)
      else UInt64.ofNat (magnitude digits)).toNat : ℤ) = integer sign digits % 2 ^ 64 := by
  have hmod : magnitude digits % 2 ^ 64 = magnitude digits := Nat.mod_eq_of_lt h
  rw [integer_eq]
  by_cases hsign : sign = .minus
  · rw [if_pos hsign, if_pos hsign, UInt64.toNat_neg, UInt64.toNat_ofNat', hmod]
    show (((2 ^ 64 - magnitude digits) % 2 ^ 64 : Nat) : ℤ) = _
    omega
  · rw [if_neg hsign, if_neg hsign, UInt64.toNat_ofNat', hmod]
    omega

theorem length_subject_rest_le (text : Bytes) : (subject text).2.2.length ≤ text.length := by
  have hspaces : (text.dropWhile isSpace).length ≤ text.length := List.length_dropWhile_le ..
  have hsign := congrArg List.length (bytes_takeSign (text.dropWhile isSpace))
  rw [List.length_append] at hsign
  have hdigits : ((takeSign (text.dropWhile isSpace)).2.dropWhile isDigit).length ≤
      (takeSign (text.dropWhile isSpace)).2.length := List.length_dropWhile_le ..
  show ((takeSign (text.dropWhile isSpace)).2.dropWhile isDigit).length ≤ _
  omega

/-- What `std::stoull` makes of a text that it consumes. -/
theorem stoull_whole (text : Bytes) (value : UInt64) :
    stoull text = .ok (value, text.length) ↔
      ∃ sign digits, Numeral text sign digits ∧ magnitude digits < 2 ^ 64 ∧
        value = if sign = .minus then -UInt64.ofNat (magnitude digits)
          else UInt64.ofNat (magnitude digits) := by
  have hrest := length_subject_rest_le text
  obtain ⟨sign, digits, rest, hsubject⟩ : ∃ sign digits rest, subject text = (sign, digits, rest) :=
    ⟨_, _, _, rfl⟩
  rw [hsubject] at hrest
  constructor
  · intro h
    simp only [stoull, hsubject] at h
    by_cases hempty : digits = []
    · simp only [if_pos hempty, reduceCtorEq] at h
    · by_cases hlarge : magnitude digits > 0xffffffffffffffff
      · simp only [if_neg hempty, if_pos hlarge, reduceCtorEq] at h
      · simp only [if_neg hempty, if_neg hlarge, Except.ok.injEq, Prod.mk.injEq] at h
        obtain ⟨hvalue, hconsumed⟩ := h
        have hnone : rest = [] := by
          apply List.eq_nil_of_length_eq_zero
          by_contra hsome
          have hlength : rest.length ≤ text.length := hrest
          omega
        subst hnone
        have hnumeral := (numeral_iff text sign digits).mpr ⟨hempty, hsubject⟩
        exact ⟨sign, digits, hnumeral, by omega, hvalue.symm⟩
  · rintro ⟨sign', digits', hnumeral, hfits, rfl⟩
    obtain ⟨hempty, hsubject'⟩ := (numeral_iff _ _ _).mp hnumeral
    rw [stoull, hsubject']
    simp only [if_neg hempty]
    rw [if_neg (by omega)]
    rfl

theorem positiveUint32_checks (text option : Bytes) (n : UInt32) :
    positiveUint32 text option = .ok n ↔
      ∃ value : UInt64, stoull text = .ok (value, text.length) ∧ value.toNat = n.toNat ∧
        0 < n.toNat := by
  unfold positiveUint32
  cases hstoull : stoull text with
  | error e =>
    constructor
    · rintro ⟨⟩
    · rintro ⟨_, ⟨⟩, _⟩
  | ok converted =>
    obtain ⟨value, consumed⟩ := converted
    simp only [Except.ok.injEq, Prod.mk.injEq]
    show (if consumed ≠ text.length ∨ value = 0 ∨ value > 0xffffffff then
        .error (Exception.invalidArgument (option ++ ascii " requires a positive uint32"))
      else .ok value.toUInt32) = Except.ok n ↔ _
    have hzero : value = 0 ↔ value.toNat = 0 := by rw [← UInt64.toNat_inj]; rfl
    have hlarge : value > 0xffffffff ↔ value.toNat > 0xffffffff := by
      rw [gt_iff_lt, UInt64.lt_iff_toNat_lt]
      rfl
    have hn := n.toNat_lt
    by_cases hbad : consumed ≠ text.length ∨ value = 0 ∨ value > 0xffffffff
    · rw [if_pos hbad]
      refine ⟨by rintro ⟨⟩, ?_⟩
      rintro ⟨_, ⟨rfl, rfl⟩, hvalue, hpositive⟩
      rw [hzero, hlarge] at hbad
      omega
    · rw [if_neg hbad]
      rw [hzero, hlarge] at hbad
      have hcast : value.toUInt32.toNat = value.toNat := by
        rw [UInt64.toNat_toUInt32]
        omega
      constructor
      · intro hok
        cases hok
        exact ⟨value, ⟨rfl, by omega⟩, hcast.symm, by omega⟩
      · rintro ⟨_, ⟨rfl, _⟩, hvalue, _⟩
        refine congrArg _ (UInt32.toNat_inj.mp ?_)
        rw [hcast, hvalue]

/-- The texts that `positive_uint32` accepts, and what it makes of them. -/
theorem positiveUint32_ok_iff (text option : Bytes) (n : UInt32) :
    positiveUint32 text option = .ok n ↔
      0 < n.toNat ∧ ∃ z, Denotes text z ∧ |z| < 2 ^ 64 ∧ z % 2 ^ 64 = n.toNat := by
  have habs : ∀ sign digits, |integer sign digits| = magnitude digits := by
    intro sign digits
    rw [integer_eq]
    split
    · rw [abs_neg, Nat.abs_cast]
    · rw [Nat.abs_cast]
  rw [positiveUint32_checks]
  constructor
  · rintro ⟨value, hstoull, hvalue, hpositive⟩
    obtain ⟨sign, digits, hnumeral, hfits, rfl⟩ := (stoull_whole _ _).mp hstoull
    refine ⟨hpositive, _, ⟨sign, digits, hnumeral, rfl⟩, ?_, ?_⟩
    · rw [habs]
      omega
    · rw [← toNat_converted hfits, hvalue]
  · rintro ⟨hpositive, z, ⟨sign, digits, hnumeral, rfl⟩, hfits, hvalue⟩
    rw [habs] at hfits
    have hfits' : magnitude digits < 2 ^ 64 := by omega
    refine ⟨_, (stoull_whole _ _).mpr ⟨sign, digits, hnumeral, hfits', rfl⟩, ?_, hpositive⟩
    rw [← toNat_converted hfits'] at hvalue
    omega

/-- The numerals below zero that are negated to a positive `uint32`. -/
def Wraps (text : Bytes) : Prop :=
  ∃ z, Denotes text z ∧ -(2 ^ 64 - 1) ≤ z ∧ z ≤ -(2 ^ 64 - (2 ^ 32 - 1))

/-- The text denotes this number, which is a positive `uint32`. -/
def Means (text : Bytes) (n : UInt32) : Prop := 0 < n.toNat ∧ Denotes text n.toNat

theorem means_of_not_wraps {text option : Bytes} (h : ¬ Wraps text) (n : UInt32) :
    positiveUint32 text option = .ok n ↔ Means text n := by
  have hn := n.toNat_lt
  rw [positiveUint32_ok_iff]
  constructor
  · rintro ⟨hpositive, z, hz, hfits, hmod⟩
    refine ⟨hpositive, ?_⟩
    rw [abs_lt] at hfits
    by_cases hsign : 0 ≤ z
    · have heq : z = n.toNat := by omega
      rwa [heq] at hz
    · exact absurd ⟨z, hz, by omega, by omega⟩ h
  · rintro ⟨hpositive, hz⟩
    refine ⟨hpositive, _, hz, ?_, ?_⟩
    · rw [abs_lt]
      omega
    · omega

theorem accepted_of_wraps {text : Bytes} (option : Bytes) (h : Wraps text) :
    ∃ n, positiveUint32 text option = .ok n ∧ ¬ ∃ m, Means text m := by
  obtain ⟨z, hz, hlow, hhigh⟩ := h
  have hnat : (z + 2 ^ 64).toNat < 2 ^ 32 := by omega
  have hcast : (UInt32.ofNat (z + 2 ^ 64).toNat).toNat = (z + 2 ^ 64).toNat :=
    UInt32.toNat_ofNat_of_lt hnat
  refine ⟨UInt32.ofNat (z + 2 ^ 64).toNat, ?_, ?_⟩
  · rw [positiveUint32_ok_iff, hcast]
    refine ⟨by omega, z, hz, ?_, by omega⟩
    rw [abs_lt]
    omega
  · rintro ⟨m, hpositive, hm⟩
    have heq := denotes_unique hz hm
    omega

/-! ## `parse_options` -/

inductive Bound
  | concurrency
  | jobs
  | sessions
  | connections
deriving DecidableEq

def Bound.name : Bound → Bytes
  | concurrency => ascii "--max-concurrency"
  | jobs => ascii "--max-jobs"
  | sessions => ascii "--max-sessions"
  | connections => ascii "--max-connections"

def Options.bound (options : Options) : Bound → UInt32
  | .concurrency => options.maximumConcurrency
  | .jobs => options.maximumJobs
  | .sessions => options.maximumSessions
  | .connections => options.maximumConnections

/-- The last value that the arguments give to an option. -/
def given (option : Bytes) : List Bytes → Option Bytes
  | [] => none
  | argument :: rest =>
    if takesValue argument then
      match rest with
      | [] => none
      | value :: rest => (given option rest).or (if argument = option then some value else none)
    else given option rest

def Options.withBound (options : Options) (n : UInt32) : Bound → Options
  | .concurrency => { options with maximumConcurrency := n }
  | .jobs => { options with maximumJobs := n }
  | .sessions => { options with maximumSessions := n }
  | .connections => { options with maximumConnections := n }

theorem Options.bound_withBound (options : Options) (n : UInt32) (b b' : Bound) :
    (options.withBound n b).bound b' = if b = b' then n else options.bound b' := by
  cases b <;> cases b' <;> rfl

theorem Bound.name_inj {b b' : Bound} : b.name = b'.name ↔ b = b' := by
  constructor
  · intro h
    cases b <;> cases b' <;> first | rfl | exact absurd h (by decide +kernel)
  · rintro rfl
    rfl

theorem Bound.name_ne_socket (b : Bound) : b.name ≠ ascii "--socket" := by
  cases b <;> decide +kernel

theorem takesValue_iff (argument : Bytes) :
    takesValue argument = true ↔ argument = ascii "--socket" ∨ ∃ b : Bound, argument = b.name := by
  simp only [takesValue, Bool.or_eq_true, decide_eq_true_eq]
  constructor
  · rintro ((((h | h) | h) | h) | h)
    · exact Or.inl h
    · exact Or.inr ⟨.concurrency, h⟩
    · exact Or.inr ⟨.jobs, h⟩
    · exact Or.inr ⟨.sessions, h⟩
    · exact Or.inr ⟨.connections, h⟩
  · rintro (h | ⟨b, h⟩)
    · exact Or.inl (Or.inl (Or.inl (Or.inl h)))
    · cases b with
      | concurrency => exact Or.inl (Or.inl (Or.inl (Or.inr h)))
      | jobs => exact Or.inl (Or.inl (Or.inr h))
      | sessions => exact Or.inl (Or.inr h)
      | connections => exact Or.inr h

theorem setValue_name (options : Options) (b : Bound) (value : Bytes) :
    setValue options b.name value =
      (positiveUint32 value b.name).map fun n => options.withBound n b := by
  have hconcurrency : b.name = ascii "--max-concurrency" ↔ b = .concurrency :=
    @Bound.name_inj b .concurrency
  have hjobs : b.name = ascii "--max-jobs" ↔ b = .jobs := @Bound.name_inj b .jobs
  have hsessions : b.name = ascii "--max-sessions" ↔ b = .sessions := @Bound.name_inj b .sessions
  simp only [setValue, if_neg b.name_ne_socket, hconcurrency, hjobs, hsessions]
  cases hvalue : positiveUint32 value b.name <;> cases b <;> rfl

/-- One value sets the bound of its option and no other. -/
theorem setValue_bound {options options' : Options} {argument value : Bytes}
    (htakes : takesValue argument = true) (h : setValue options argument value = .ok options')
    (b : Bound) :
    (argument = b.name ∧ positiveUint32 value b.name = .ok (options'.bound b)) ∨
      (argument ≠ b.name ∧ options'.bound b = options.bound b) := by
  rcases (takesValue_iff argument).mp htakes with rfl | ⟨b', rfl⟩
  · cases h
    exact Or.inr ⟨b.name_ne_socket.symm, by cases b <;> rfl⟩
  · rw [setValue_name] at h
    cases hvalue : positiveUint32 value b'.name with
    | error e =>
      rw [hvalue] at h
      cases h
    | ok n =>
      rw [hvalue] at h
      cases h
      rw [Options.bound_withBound]
      by_cases hb : b' = b
      · subst hb
        rw [if_pos rfl]
        exact Or.inl ⟨rfl, hvalue⟩
      · rw [if_neg hb]
        exact Or.inr ⟨fun hname => hb (Bound.name_inj.mp hname), rfl⟩

theorem given_flag {option argument : Bytes} {rest : List Bytes}
    (h : takesValue argument = false) : given option (argument :: rest) = given option rest := by
  cases rest <;> simp [given, h]

theorem given_value {option argument value : Bytes} {rest : List Bytes}
    (h : takesValue argument = true) :
    given option (argument :: value :: rest) =
      (given option rest).or (if argument = option then some value else none) := by
  rw [given, if_pos h]

/-- A bound is what `positive_uint32` makes of the last value given to its option. -/
theorem parseLoop_bound {options options' : Options} {args : List Bytes}
    (h : parseLoop options args = .ok options') (b : Bound) :
    (∃ text, given b.name args = some text ∧ positiveUint32 text b.name = .ok (options'.bound b)) ∨
      (given b.name args = none ∧ options'.bound b = options.bound b) := by
  fun_induction parseLoop options args with
  | case1 options =>
    cases h
    exact Or.inr ⟨rfl, rfl⟩
  | case2 options rest ih =>
    rw [given_flag (by decide +kernel)]
    have hsame : ({ options with help := true } : Options).bound b = options.bound b := by
      cases b <;> rfl
    rw [← hsame]
    exact ih h
  | case3 options rest _ ih =>
    rw [given_flag (by decide +kernel)]
    have hsame : ({ options with gpuEnabled := true } : Options).bound b = options.bound b := by
      cases b <;> rfl
    rw [← hsame]
    exact ih h
  | case4 => cases h
  | case5 options argument _ _ htakes value rest ih =>
    cases hset : setValue options argument value with
    | error e =>
      rw [hset] at h
      cases h
    | ok between =>
      rw [hset] at h
      rw [given_value htakes]
      rcases ih between h with ⟨text, hgiven, htext⟩ | ⟨hgiven, hsame⟩
      · exact Or.inl ⟨text, by rw [hgiven]; rfl, htext⟩
      · rw [hgiven, Option.none_or, hsame]
        rcases setValue_bound htakes hset b with ⟨hname, hvalue⟩ | ⟨hname, hkept⟩
        · exact Or.inl ⟨value, if_pos hname, hvalue⟩
        · exact Or.inr ⟨if_neg hname, hkept⟩
  | case6 => cases h

theorem parseOptions_ok {argv : List Bytes} {options : Options}
    (h : parseOptions argv = .ok options) : parseLoop {} argv.tail = .ok options := by
  unfold parseOptions at h
  cases hloop : parseLoop {} argv.tail with
  | error e =>
    rw [hloop] at h
    cases h
  | ok parsed =>
    rw [hloop] at h
    change (if ¬ parsed.help ∧ parsed.socketPath = [] then
        .error (Exception.invalidArgument (ascii "--socket PATH is required"))
      else .ok parsed) = Except.ok options at h
    split at h
    · cases h
    · exact h

/-- The bound is the default, or the positive `uint32` that the last value given for it denotes. -/
def Options.Meant (options : Options) (args : List Bytes) (b : Bound) : Prop :=
  match given b.name args with
  | some text => Means text (options.bound b)
  | none => options.bound b = ({} : Options).bound b

/-- `positive_uint32` returns the number that its text denotes and throws otherwise, and so each
bound of `parse_options` means what the command line says, exactly when no numeral below zero
wraps around. -/
theorem bounds_meant_iff (text option : Bytes) (argv : List Bytes) :
    ((∀ n, positiveUint32 text option = .ok n ↔ Means text n) ↔ ¬ Wraps text) ∧
      ∀ options, parseOptions argv = .ok options → ∀ b : Bound,
        (options.Meant argv.tail b ↔ ∀ value, given b.name argv.tail = some value →
          ¬ Wraps value) := by
  refine ⟨⟨?_, means_of_not_wraps⟩, ?_⟩
  · intro hexact hwraps
    obtain ⟨n, hok, hmeans⟩ := accepted_of_wraps option hwraps
    exact hmeans ⟨n, (hexact n).mp hok⟩
  · intro options hparse b
    unfold Options.Meant
    rcases parseLoop_bound (parseOptions_ok hparse) b with ⟨value, hgiven, hvalue⟩ |
      ⟨hgiven, hdefault⟩
    · rw [hgiven]
      constructor
      · rintro hmeans _ ⟨⟩ hwraps
        obtain ⟨_, _, hnone⟩ := accepted_of_wraps option hwraps
        exact hnone ⟨_, hmeans⟩
      · intro hwraps
        exact (means_of_not_wraps (hwraps value rfl) _).mp hvalue
    · rw [hgiven]
      exact ⟨by rintro _ _ ⟨⟩, fun _ => hdefault⟩

/-- A numeral of twenty digits below zero is accepted as the bound one. -/
theorem negative_bound_accepted :
    parseOptions [ascii "photospiderd", ascii "--socket", ascii "/tmp/daemon.sock",
        ascii "--max-jobs", ascii "-18446744073709551615"] =
      .ok { socketPath := ascii "/tmp/daemon.sock", maximumJobs := 1 } ∧
    positiveUint32 (ascii "-18446744073709551615") (ascii "--max-jobs") = .ok 1 ∧
      ¬ ∃ n, Means (ascii "-18446744073709551615") n := by
  have hsubject : subject (ascii "-18446744073709551615") =
      (.minus, ascii "18446744073709551615", []) := by decide +kernel
  have hnumeral := (numeral_iff _ _ _).mpr ⟨by decide +kernel, hsubject⟩
  have hdenotes : Denotes (ascii "-18446744073709551615") (-(2 ^ 64 - 1)) :=
    ⟨.minus, ascii "18446744073709551615", hnumeral, by rw [integer_eq]; decide +kernel⟩
  refine ⟨by decide +kernel, by decide +kernel, ?_⟩
  rintro ⟨n, hpositive, hn⟩
  have heq := denotes_unique hdenotes hn
  omega

end PhotospiderDaemon.Apps
