/-
Records are read back from compact text.

`Reads read j x` says what a reader makes of a value: it takes x from the compact text of j, in front of anything that
could not go on with a number.
- `reads_numberAs`, `reads_boolean`, `reads_choice`, `reads_optional`: the readers of single values.
- `takes_field`: a record takes in a field of its own that is not filled in yet.
- `reads_record`: a record is read from an object whose fields it takes in one after the other, if none is missing then.
-/
import RemoteShutter.Json.Record
import RemoteShutter.Proofs.Json.ReadBack

namespace RemoteShutter.JsonReader

open JsonLexeme
open Utf8 (encode encode_append encode_cons)

variable {α β σ : Type}

/-- the reader takes x from the compact text of j -/
def Reads (read : JsonReader α) (j : Json) (x : α) : Prop :=
  ∀ rest, Stops rest → read (encode j.compactChars ++ rest) = .ok (x, rest)

/-! ## Single values -/

theorem reads_map {read : JsonReader α} {j : Json} {x : α} (h : Reads read j x) (f : α → β) :
    Reads (fun s => (read s).map fun (x, rest) => (f x, rest)) j (f x) := by
  intro rest hrest
  simp only [h rest hrest]
  rfl

theorem reads_numberAs {n : JsonNumber} (hn : n.IsWhole) {wanted : String} {convert : JsonNumber → Except Mismatch α}
    {x : α} (hx : convert n = .ok x) : Reads (numberAs wanted convert) (.number n) x := by
  intro rest hrest
  obtain ⟨b, ds, hds, hb⟩ := exists_cons_number hn
  obtain ⟨hblank, -⟩ := number_start hb
  have hnumber := number_compact hn hrest
  rw [hds, List.cons_append] at hnumber
  rw [Json.compactChars, hds, List.cons_append, numberAs, skipBlanks_cons hblank]
  simp only [if_pos hb, hnumber, bind, Except.bind, hx]
  rfl

theorem reads_boolean (b : Bool) : Reads boolean (.bool b) b := by
  intro rest _
  cases b with
  | true =>
    have hword : word ['r', 'u', 'e'] (encode ['r', 'u', 'e'] ++ rest) = .ok ((), rest) :=
      word_encode (by decide) rest
    rw [Json.compactChars, if_pos rfl, encode_cons (by decide), List.cons_append, boolean, skipBlanks_cons (by decide)]
    simp only [if_true, hword]
    rfl
  | false =>
    have hword : word ['a', 'l', 's', 'e'] (encode ['a', 'l', 's', 'e'] ++ rest) = .ok ((), rest) :=
      word_encode (by decide) rest
    rw [Json.compactChars, if_neg Bool.false_ne_true, encode_cons (by decide), List.cons_append, boolean,
      skipBlanks_cons (by decide)]
    simp only [show byte 'f' ≠ byte 't' by decide, if_false, if_true, hword]
    rfl

theorem reads_choice {choices : List (String × α)} {t : String} {x : α} (ht : PlainText t)
    (hx : choices.lookup t = some x) : Reads (choice choices) (.text t) x := by
  intro rest _
  have hstring := string_encode ht rest
  rw [Json.compactChars, encode_text ht, List.cons_append, List.append_assoc, choice, skipBlanks_cons (by decide)]
  simp only [if_true, List.singleton_append, choiceName, hstring, bind, Except.bind, hx]
  rfl

/-- the text of the value is not that of null, as its first character shows -/
def NotNull (j : Json) : Prop :=
  ∃ b s, encode j.compactChars = b :: s ∧ isBlank b = false ∧ b ≠ byte 'n'

theorem notNull_number {n : JsonNumber} (hn : n.IsWhole) : NotNull (.number n) := by
  obtain ⟨b, ds, hds, hb⟩ := exists_cons_number hn
  obtain ⟨hblank, hne, -⟩ := number_start hb
  refine ⟨b, ds, ?_, hblank, hne⟩
  rw [Json.compactChars, hds]

theorem notNull_object (fs : List (String × Json)) : NotNull (.object fs) := by
  cases fs with
  | nil => exact ⟨byte '\x7b', _, by rw [Json.compactChars, encode_cons (by decide)], by decide, by decide⟩
  | cons p fs => exact ⟨byte '\x7b', _, by rw [Json.compactChars, encode_cons (by decide)], by decide, by decide⟩

theorem reads_optional {read : JsonReader α} {j : Json} {x : α} (h : Reads read j x) (hj : NotNull j) :
    Reads (optional read) j (some x) := by
  intro rest hrest
  obtain ⟨b, s, hs, hblank, hne⟩ := hj
  have hread := h rest hrest
  rw [hs, List.cons_append] at hread ⊢
  rw [optional, skipBlanks_cons hblank]
  simp only [if_neg hne, hread]
  rfl

/-! ## Records -/

/-- a record takes in a field of its own that is not filled in yet -/
theorem takes_field {r : Record σ} {f : RecordField σ} (hf : r.fields.find? (·.key = f.key) = some f) {state state' : σ}
    (hfilled : f.isFilled state = false) {j : Json} (hread : Reads (f.read state) j state') :
    Takes r.field state (f.key, j) state' := by
  intro rest hrest
  rw [Record.field, hf]
  simp only [hfilled, Bool.false_eq_true, if_false, afterKey,
    skipBlanks_cons (show isBlank (byte ':') = false by decide), if_true]
  exact hread rest hrest

/-- **A record is read from an object** whose fields it takes in one after the other, if none is missing then. -/
theorem reads_record {r : Record σ} {fs : List (String × Json)} (hkeys : ∀ p ∈ fs, PlainText p.1)
    {empty state final : σ} (hfs : TakesAll r.field empty fs state) (hfinal : Record.complete state r.fields = .ok final) :
    Reads (r.read empty) (.object fs) final := by
  intro rest _
  obtain ⟨s, hs, hread⟩ := fields_object hkeys hfs rest
  rw [hs, Record.read, skipBlanks_cons (by decide)]
  simp only [show byte '\x7b' ≠ byte '[' by decide, if_false, if_true, hread, bind, Except.bind, hfinal]
  rfl

theorem whole_compact {read : JsonReader α} {j : Json} {x : α} (h : Reads read j x) :
    whole read (encode j.compactChars) = .ok x := by
  have hread := h [] (fun b hb => nomatch hb)
  rw [List.append_nil] at hread
  simp only [whole, hread, bind, Except.bind]
  rfl

end RemoteShutter.JsonReader
