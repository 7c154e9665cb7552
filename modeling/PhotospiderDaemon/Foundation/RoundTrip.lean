import PhotospiderDaemon.Foundation.ByteFormat
import PhotospiderDaemon.Foundation.OrderedMap

/-!
# Round trips of a writer and a reader

`Emits limit w P` says what a successful run of a writer appends. The round trip
`RoundTrip limit w r a` is the special case in which a reader `r` consumes exactly the
appended bytes and returns `a`. The rules follow the text of the two programs: one rule
for sequencing, one for a guard on either side, one for a loop over a list, and one for a
loop that inserts into an ordered map.

`Decides limit w r a good` is the sharp form used when the reader has a bound that the
writer lacks: the reader returns `a` when `good` holds and rejects the bytes otherwise.
-/

namespace PhotospiderDaemon.Foundation

variable {ε ω α β : Type} {limit : Nat}

/-- A successful run appends bytes that satisfy `P` and stays within the limit. -/
def Emits (limit : Nat) (w : Writer ε Unit) (P : List UInt8 → Prop) : Prop :=
  ∀ p p', p.length ≤ limit → w.run p = .ok ((), p') →
    ∃ bs, p' = p ++ bs ∧ p'.length ≤ limit ∧ P bs

/-- What the writer appends, the reader consumes and returns as `a`. -/
def RoundTrip (limit : Nat) (w : Writer ε Unit) (r : Reader ε ω α) (a : α) : Prop :=
  Emits limit w (fun bs => Reads r bs a)

/-- The reader returns `a` exactly when `good` holds, and rejects the bytes otherwise. -/
def Decides (limit : Nat) (w : Writer ε Unit) (r : Reader ε ω α) (a : α) (good : Prop) : Prop :=
  Emits limit w (fun bs => (good → Reads r bs a) ∧ (¬ good → Rejects r bs))

namespace Emits

theorem mono {w : Writer ε Unit} {P Q : List UInt8 → Prop} (h : Emits limit w P)
    (hPQ : ∀ bs, P bs → Q bs) : Emits limit w Q := by
  intro p p' hp hw
  obtain ⟨bs, rfl, hle, hbs⟩ := h p p' hp hw
  exact ⟨bs, rfl, hle, hPQ bs hbs⟩

theorem pure {P : List UInt8 → Prop} (h : P []) : Emits limit (pure () : Writer ε Unit) P := by
  intro p p' hp hw
  cases hw
  exact ⟨[], by simp, hp, h⟩

theorem bind {w w' : Writer ε Unit} {P Q R : List UInt8 → Prop} (hw : Emits limit w P)
    (hw' : Emits limit w' Q) (hR : ∀ bs cs, P bs → Q cs → R (bs ++ cs)) :
    Emits limit (w >>= fun _ => w') R := by
  intro p p'' hp h
  obtain ⟨_, p', h₁, h₂⟩ := Writer.bind_eq_ok h
  obtain ⟨bs, rfl, hle, hbs⟩ := hw p p' hp h₁
  obtain ⟨cs, rfl, hle', hcs⟩ := hw' _ p'' hle h₂
  exact ⟨bs ++ cs, by rw [List.append_assoc], hle', hR bs cs hbs hcs⟩

/-- Known bytes in front of what follows. -/
theorem begins {w w' : Writer ε Unit} {front rest : List UInt8} (hw : Emits limit w (· = front))
    (hw' : Emits limit w' (rest <+: ·)) :
    Emits limit (w >>= fun _ => w') (front ++ rest <+: ·) := by
  refine hw.bind hw' ?_
  rintro _ cs rfl hcs
  exact (List.prefix_append_right_inj _).mpr hcs

/-- What is appended is itself within the limit. -/
theorem bounded {w : Writer ε Unit} {P : List UInt8 → Prop} (h : Emits limit w P) :
    Emits limit w (fun bs => P bs ∧ bs.length ≤ limit) := by
  intro p p' hp hw
  obtain ⟨bs, rfl, hle, hbs⟩ := h p p' hp hw
  rw [List.length_append] at hle
  exact ⟨bs, rfl, by simpa using hle, hbs, by omega⟩

theorem throwIf_bind {c : Bool} {e : ε} {w : Writer ε Unit} {P : List UInt8 → Prop}
    (h : c = false → Emits limit w P) : Emits limit (Writer.throwIf c e >>= fun _ => w) P := by
  intro p p' hp hw
  cases c with
  | true => cases hw
  | false => exact h rfl p p' hp hw

theorem throw {e : ε} {P : List UInt8 → Prop} : Emits limit (throw e : Writer ε Unit) P := by
  intro p p' _ hw
  cases hw

theorem append (overflow : ε) (data : List UInt8) :
    Emits limit (Writer.append limit overflow data) (· = data) := by
  intro p p' hp hw
  obtain ⟨hle, rfl⟩ := Writer.append_eq_ok hw
  exact ⟨data, rfl, by simp; omega, rfl⟩

theorem little (overflow : ε) (count value : Nat) :
    Emits limit (Writer.little limit overflow count value) (· = littleEndian count value) := by
  unfold Writer.little littleEndian
  generalize List.range count = indices
  induction indices with
  | nil => exact Emits.pure rfl
  | cons index indices ih =>
    rw [List.forM_cons]
    refine (Emits.append overflow _).bind ih ?_
    rintro bs cs rfl rfl
    rfl

end Emits

namespace RoundTrip

theorem pure (a : α) : RoundTrip limit (pure () : Writer ε Unit) (pure a : Reader ε ω α) a :=
  Emits.pure (Reads.pure a)

theorem bind {w w' : Writer ε Unit} {r : Reader ε ω α} {f : α → Reader ε ω β} {a : α} {b : β}
    (h : RoundTrip limit w r a) (h' : RoundTrip limit w' (f a) b) :
    RoundTrip limit (w >>= fun _ => w') (r >>= f) b :=
  Emits.bind h h' (fun _ _ hbs hcs => hbs.bind hcs)

/-- The reader finishes without consuming anything more. -/
theorem bind_right {w : Writer ε Unit} {r : Reader ε ω α} {f : α → Reader ε ω β} {a : α} {b : β}
    (h : RoundTrip limit w r a) (hf : Reads (f a) [] b) : RoundTrip limit w (r >>= f) b := by
  refine Emits.mono h fun bs hbs => ?_
  have hread := hbs.bind hf
  rwa [List.append_nil] at hread

theorem map {w : Writer ε Unit} {r : Reader ε ω α} {a : α} (h : RoundTrip limit w r a) (g : α → β) :
    RoundTrip limit w (r >>= fun x => Pure.pure (g x)) (g a) :=
  h.bind_right (Reads.pure (g a))

/-- The writer's guard: the reader is only asked about what passed it. -/
theorem guard_left {c : Bool} {e : ε} {w : Writer ε Unit} {r : Reader ε ω α} {a : α}
    (h : c = false → RoundTrip limit w r a) :
    RoundTrip limit (Writer.throwIf c e >>= fun _ => w) r a :=
  Emits.throwIf_bind h

/-- The reader does something first that consumes nothing. -/
theorem read_nil {w : Writer ε Unit} {r : Reader ε ω α} {f : α → Reader ε ω β} {a : α} {b : β}
    (hr : Reads r [] a) (h : RoundTrip limit w (f a) b) : RoundTrip limit w (r >>= f) b :=
  Emits.mono h (fun _ hbs => hr.bind_nil hbs)

/-- The reader's guard: it has to follow from what the writer checked. -/
theorem guard_right {c : Bool} {e : ε} {w : Writer ε Unit} {f : Unit → Reader ε ω α} {a : α}
    (hc : c = false) (h : RoundTrip limit w (f ()) a) :
    RoundTrip limit w (Reader.throwIf c e >>= f) a :=
  read_nil (Reads.throwIf hc e) h

theorem little (overflow truncated : ε) {count value : Nat} (h : value < 256 ^ count) :
    RoundTrip limit (Writer.little limit overflow count value)
      (Reader.little truncated count : Reader ε ω Nat) value := by
  refine (Emits.little overflow count value).mono ?_
  rintro bs rfl
  have hr : Reads (Reader.little truncated count : Reader ε ω Nat) _ _ :=
    Reads.little truncated count value
  rwa [Nat.mod_eq_of_lt h] at hr

theorem append_take (overflow truncated : ε) (data : List UInt8) :
    RoundTrip limit (Writer.append limit overflow data)
      (Reader.take truncated data.length : Reader ε ω _) data := by
  refine (Emits.append overflow data).mono ?_
  rintro bs rfl
  exact Reads.take truncated bs

theorem append_byte (overflow truncated : ε) (b : UInt8) :
    RoundTrip limit (Writer.append limit overflow [b])
      (Reader.byte truncated : Reader ε ω _) b := by
  refine (Emits.append overflow [b]).mono ?_
  rintro bs rfl
  exact Reads.byte truncated b

end RoundTrip

/-! ## A reader with a bound that the writer lacks -/

namespace Decides

theorem of_roundTrip {w : Writer ε Unit} {r : Reader ε ω α} {a : α} (h : RoundTrip limit w r a) :
    Decides limit w r a True :=
  Emits.mono h fun _ hbs => ⟨fun _ => hbs, fun hfalse => absurd trivial hfalse⟩

theorem roundTrip {w : Writer ε Unit} {r : Reader ε ω α} {a : α} {good : Prop}
    (h : Decides limit w r a good) (hgood : good) : RoundTrip limit w r a :=
  Emits.mono h fun _ hbs => hbs.1 hgood

theorem congr {w : Writer ε Unit} {r : Reader ε ω α} {a : α} {good good' : Prop}
    (h : Decides limit w r a good) (hiff : good ↔ good') : Decides limit w r a good' := by
  rwa [← propext hiff]

theorem bind {w w' : Writer ε Unit} {r : Reader ε ω α} {f : α → Reader ε ω β} {a : α} {b : β}
    {good good' : Prop} (h : Decides limit w r a good) (h' : Decides limit w' (f a) b good') :
    Decides limit (w >>= fun _ => w') (r >>= f) b (good ∧ good') := by
  refine Emits.bind h h' fun bs cs hbs hcs => ⟨fun hgood => ?_, fun hbad => ?_⟩
  · exact (hbs.1 hgood.1).bind (hcs.1 hgood.2)
  · by_cases hgood : good
    · exact Rejects.bind_right (hbs.1 hgood) (hcs.2 fun hgood' => hbad ⟨hgood, hgood'⟩)
    · exact Rejects.bind_left (hbs.2 hgood)

/-- A step without disagreement in front. -/
theorem bind_left {w w' : Writer ε Unit} {r : Reader ε ω α} {f : α → Reader ε ω β} {a : α} {b : β}
    {good : Prop} (h : RoundTrip limit w r a) (h' : Decides limit w' (f a) b good) :
    Decides limit (w >>= fun _ => w') (r >>= f) b good :=
  ((of_roundTrip h).bind h').congr (iff_of_eq (true_and good))

/-- The reader finishes without consuming anything more. -/
theorem bind_right {w : Writer ε Unit} {r : Reader ε ω α} {f : α → Reader ε ω β} {a : α} {b : β}
    {good : Prop} (h : Decides limit w r a good) (hf : Reads (f a) [] b) :
    Decides limit w (r >>= f) b good := by
  refine Emits.mono h fun bs hbs => ⟨fun hgood => ?_, fun hbad => ?_⟩
  · have hread := (hbs.1 hgood).bind hf
    rwa [List.append_nil] at hread
  · have hreject : Rejects (r >>= f) (bs ++ []) := Rejects.bind_left (hbs.2 hbad)
    rwa [List.append_nil] at hreject

theorem guard_left {c : Bool} {e : ε} {w : Writer ε Unit} {r : Reader ε ω α} {a : α} {good : Prop}
    (h : c = false → Decides limit w r a good) :
    Decides limit (Writer.throwIf c e >>= fun _ => w) r a good :=
  Emits.throwIf_bind h

/-- The reader's guard that the writer does not check. -/
theorem guard_right {c : Bool} {e : ε} {w : Writer ε Unit} {f : Unit → Reader ε ω α} {a : α}
    {good : Prop} (h : Decides limit w (f ()) a good) :
    Decides limit w (Reader.throwIf c e >>= f) a (c = false ∧ good) := by
  refine Emits.mono h fun bs hbs => ⟨fun hgood => ?_, fun hbad => ?_⟩
  · exact (Reads.throwIf hgood.1 e).bind_nil (hbs.1 hgood.2)
  · cases c with
    | true =>
      have hreject : Rejects (Reader.throwIf true e : Reader ε ω Unit) [] := Rejects.throwIf rfl e
      exact hreject.bind_left
    | false => exact Rejects.bind_right (Reads.throwIf rfl e) (hbs.2 fun hgood => hbad ⟨rfl, hgood⟩)

theorem read_nil {w : Writer ε Unit} {r : Reader ε ω α} {f : α → Reader ε ω β} {a : α} {b : β}
    {good : Prop} (hr : Reads r [] a) (h : Decides limit w (f a) b good) :
    Decides limit w (r >>= f) b good :=
  Emits.mono h fun _ hbs =>
    ⟨fun hgood => hr.bind_nil (hbs.1 hgood), fun hbad => Rejects.bind_right hr (hbs.2 hbad)⟩

/-- A loop over a list against a counted loop. -/
theorem forM_many {w : α → Writer ε Unit} {r : Reader ε ω α} {good : α → Prop} {xs : List α}
    (h : ∀ x ∈ xs, Decides limit (w x) r x (good x)) :
    Decides limit (forM xs w) (Reader.many r xs.length) xs (∀ x ∈ xs, good x) := by
  induction xs with
  | nil => exact (of_roundTrip (RoundTrip.pure [])).congr (by simp)
  | cons x xs ih =>
    rw [List.forM_cons]
    have hrest := ih fun y hy => h y (List.mem_cons_of_mem _ hy)
    refine ((h x List.mem_cons_self).bind ?_).congr List.forall_mem_cons.symm
    exact hrest.bind_right (Reads.pure (x :: xs))

end Decides

theorem RoundTrip.forM_many {w : α → Writer ε Unit} {r : Reader ε ω α} {xs : List α}
    (h : ∀ x ∈ xs, RoundTrip limit (w x) r x) :
    RoundTrip limit (forM xs w) (Reader.many r xs.length) xs :=
  (Decides.forM_many fun x hx => Decides.of_roundTrip (h x hx)).roundTrip fun _ _ => trivial

/-! ## Loops into an ordered map -/

section Maps

variable {κ : Type} [LinearOrder κ]

/-- The map of a prefix of a map's entries. -/
def OrderedMap.ofPrefix (m : OrderedMap κ α) (pre : List (κ × α)) (h : pre <+: m.entries) :
    OrderedMap κ α :=
  ⟨pre, m.sorted.sublist h.sublist⟩

theorem OrderedMap.emplace_ofPrefix {m : OrderedMap κ α} {pre post : List (κ × α)} {e : κ × α}
    (h : m.entries = pre ++ e :: post) :
    (m.ofPrefix pre ⟨e :: post, h.symm⟩).emplace e.1 e.2 =
      (m.ofPrefix (pre ++ [e]) ⟨post, by simp [h]⟩, true) := by
  have hlt : ∀ x ∈ pre, x.1 < e.1 := by
    have hs := m.sorted
    rw [h, List.pairwise_append] at hs
    exact fun x hx => hs.2.2 x hx e List.mem_cons_self
  obtain ⟨hflag, hentries⟩ :=
    OrderedMap.emplace_entries_of_lt (m := m.ofPrefix pre ⟨e :: post, h.symm⟩) (k := e.1) e.2 hlt
  refine Prod.ext (OrderedMap.ext ?_) hflag
  exact hentries

/-- The loop of insertions, from a prefix of the entries that was already read. -/
theorem Decides.forM_emplace_from {m : OrderedMap κ α} {g : α → β} {w : κ × α → Writer ε Unit}
    {f : OrderedMap κ β → Reader ε ω (OrderedMap κ β)} {good : κ × α → Prop}
    (h : ∀ e ∈ m.entries, ∀ acc : OrderedMap κ β, (acc.emplace e.1 (g e.2)).2 = true →
      Decides limit (w e) (f acc) (acc.emplace e.1 (g e.2)).1 (good e)) (post pre : List (κ × α))
    (hm : m.entries = pre ++ post)
    (hpre : pre.map (fun e => (e.1, g e.2)) <+: (m.mapValues g).entries) :
    Decides limit (forM post w)
      (Reader.iterate f post.length ((m.mapValues g).ofPrefix _ hpre)) (m.mapValues g)
      (∀ e ∈ post, good e) := by
  induction post generalizing pre with
  | nil =>
    have hfull : (m.mapValues g).ofPrefix _ hpre = m.mapValues g := by
      refine OrderedMap.ext ?_
      show pre.map _ = m.entries.map _
      rw [hm, List.append_nil]
    rw [hfull]
    exact (Decides.of_roundTrip (RoundTrip.pure _)).congr (by simp)
  | cons e post ih =>
    have hentries : (m.mapValues g).entries =
        pre.map (fun e => (e.1, g e.2)) ++ (e.1, g e.2) :: post.map (fun e => (e.1, g e.2)) := by
      show m.entries.map _ = _
      simp [hm]
    have hemplace := OrderedMap.emplace_ofPrefix hentries
    have hstep := h e (by simp [hm]) ((m.mapValues g).ofPrefix _ hpre) (by rw [hemplace])
    rw [hemplace] at hstep
    rw [List.forM_cons]
    refine (hstep.bind ?_).congr List.forall_mem_cons.symm
    have hnext := ih (pre ++ [e]) (by simp [hm]) ⟨_, by simp [hentries]; rfl⟩
    simpa using hnext

/-- A loop over the entries of a map against a loop of insertions. Each entry is only read
into a map that does not hold its key yet. -/
theorem Decides.forM_emplace {m : OrderedMap κ α} {g : α → β} {w : κ × α → Writer ε Unit}
    {f : OrderedMap κ β → Reader ε ω (OrderedMap κ β)} {good : κ × α → Prop}
    (h : ∀ e ∈ m.entries, ∀ acc : OrderedMap κ β, (acc.emplace e.1 (g e.2)).2 = true →
      Decides limit (w e) (f acc) (acc.emplace e.1 (g e.2)).1 (good e)) :
    Decides limit (forM m.entries w) (Reader.iterate f m.size OrderedMap.empty) (m.mapValues g)
      (∀ e ∈ m.entries, good e) :=
  Decides.forM_emplace_from h m.entries [] rfl (List.nil_prefix)

theorem RoundTrip.forM_emplace {m : OrderedMap κ α} {w : κ × α → Writer ε Unit}
    {f : OrderedMap κ α → Reader ε ω (OrderedMap κ α)}
    (h : ∀ e ∈ m.entries, ∀ acc : OrderedMap κ α, (acc.emplace e.1 e.2).2 = true →
      RoundTrip limit (w e) (f acc) (acc.emplace e.1 e.2).1) :
    RoundTrip limit (forM m.entries w) (Reader.iterate f m.size OrderedMap.empty) m := by
  have hdecides := Decides.forM_emplace (g := id) fun e he acc hnew =>
    Decides.of_roundTrip (h e he acc hnew)
  rw [OrderedMap.mapValues_id] at hdecides
  exact hdecides.roundTrip fun _ _ => trivial

end Maps

end PhotospiderDaemon.Foundation
