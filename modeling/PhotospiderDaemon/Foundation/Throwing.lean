import PhotospiderDaemon.Foundation.ByteFormat

/-!
# What a failed run throws

`Throws P r` says of a reader, and `Writer.Throws P w` of a writer, that whatever a failed run
throws satisfies `P`. The rules follow the text of the program, as those of the other
predicates on readers and writers do.
-/

namespace PhotospiderDaemon.Foundation

variable {ε ω α β : Type} {P : ε → Prop}

/-! ## Readers -/

/-- Whatever the reader throws satisfies `P`. -/
def Throws (P : ε → Prop) (r : Reader ε ω α) : Prop := ∀ s e s', r s = .error e s' → P e

namespace Throws

theorem pure (a : α) : Throws P (pure a : Reader ε ω α) := nofun

theorem throw {e : ε} (he : P e) : Throws P (throw e : Reader ε ω α) := by
  intro s e' s' h
  cases h
  exact he

theorem bind {r : Reader ε ω α} {f : α → Reader ε ω β} (hr : Throws P r)
    (hf : ∀ a, Throws P (f a)) :
    Throws P (r >>= f) := by
  intro s e s'' h
  cases hrun : r s with
  | ok a s' =>
    rw [Reader.bind_ok hrun] at h
    exact hf a s' e s'' h
  | error e' s' =>
    rw [Reader.bind_error hrun] at h
    cases h
    exact hr s e s'' hrun

theorem throwIf {c : Bool} {e : ε} (he : P e) :
    Throws P (Reader.throwIf c e : Reader ε ω Unit) := by
  cases c with
  | true => exact throw he
  | false => exact pure ()

theorem remaining : Throws P (Reader.remaining : Reader ε ω Nat) := nofun

theorem observe (o : Nat → ω) : Throws P (Reader.observe o : Reader ε ω Unit) := nofun

theorem check {fits : Nat → Bool} {e : ε} (he : P e) :
    Throws P (Reader.check fits e : Reader ε ω Unit) := by
  intro s e' s' h
  rw [Reader.check_run] at h
  split at h <;> cases h
  exact he

theorem take {e : ε} (he : P e) (size : Nat) : Throws P (Reader.take e size : Reader ε ω _) := by
  intro s e' s' h
  rw [Reader.take_run] at h
  split at h <;> cases h
  exact he

theorem byte {e : ε} (he : P e) : Throws P (Reader.byte e : Reader ε ω _) := by
  intro s e' s' h
  rw [Reader.byte_run] at h
  split at h <;> cases h
  exact he

theorem foldlM {f : β → α → Reader ε ω β} (hf : ∀ b a, Throws P (f b a)) (xs : List α) (init : β) :
    Throws P (xs.foldlM f init) := by
  induction xs generalizing init with
  | nil => exact pure init
  | cons x xs ih =>
    rw [List.foldlM_cons]
    exact (hf init x).bind ih

theorem little {e : ε} (he : P e) (count : Nat) :
    Throws P (Reader.little e count : Reader ε ω Nat) :=
  foldlM (fun _ _ => (byte he).bind fun _ => pure _) _ _

theorem many {r : Reader ε ω α} (hr : Throws P r) (count : Nat) :
    Throws P (Reader.many r count) := by
  induction count with
  | zero => exact pure []
  | succ count ih => exact hr.bind fun _ => ih.bind fun _ => pure _

theorem iterate {f : β → Reader ε ω β} (hf : ∀ b, Throws P (f b)) (count : Nat) (acc : β) :
    Throws P (Reader.iterate f count acc) := by
  induction count generalizing acc with
  | zero => exact pure acc
  | succ count ih => exact (hf acc).bind ih

end Throws

/-! ## Writers -/

/-- Whatever the writer throws satisfies `P`. -/
def Writer.Throws (P : ε → Prop) (w : Writer ε α) : Prop := ∀ p e, w.run p = .error e → P e

namespace Writer.Throws

theorem pure (a : α) : Writer.Throws P (pure a : Writer ε α) := nofun

theorem throw {e : ε} (he : P e) : Writer.Throws P (throw e : Writer ε α) := by
  intro p e' h
  cases h
  exact he

theorem bind {w : Writer ε α} {f : α → Writer ε β} (hw : Writer.Throws P w)
    (hf : ∀ a, Writer.Throws P (f a)) : Writer.Throws P (w >>= f) := by
  intro p e h
  rw [StateT.run_bind] at h
  cases hrun : w.run p with
  | ok q =>
    rw [hrun] at h
    exact hf q.1 q.2 e h
  | error e' =>
    rw [hrun] at h
    cases h
    exact hw p e hrun

theorem throwIf {c : Bool} {e : ε} (he : P e) : Writer.Throws P (Writer.throwIf c e) := by
  cases c with
  | true => exact throw he
  | false => exact pure ()

theorem append {limit : Nat} {overflow : ε} (he : P overflow) (data : List UInt8) :
    Writer.Throws P (Writer.append limit overflow data) := by
  intro p e h
  rw [Writer.append_run] at h
  split at h <;> cases h
  exact he

theorem forM {w : α → Writer ε Unit} (hw : ∀ a, Writer.Throws P (w a)) (xs : List α) :
    Writer.Throws P (forM xs w) := by
  induction xs with
  | nil => exact pure ()
  | cons x xs ih =>
    rw [List.forM_cons]
    exact (hw x).bind fun _ => ih

theorem little {limit : Nat} {overflow : ε} (he : P overflow) (count value : Nat) :
    Writer.Throws P (Writer.little limit overflow count value) :=
  forM (fun _ => append he _) _

end Writer.Throws

end PhotospiderDaemon.Foundation
