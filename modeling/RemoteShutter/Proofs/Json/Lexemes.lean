/-
The smallest pieces of compact text are read back.

Compact text is read in one direction: a reader takes a piece from the front and leaves what follows.
- `Utf8.encode_eq_map`: characters below 0x80 are one byte each.
- `word_encode`, `string_encode`: words, and strings of characters that stand for themselves.
- `number_natural`, `number_negative`: whole numbers that fit 64 bits, in front of anything that could not go on with
  them (`Stops`). Their digits never exceed the number itself, so all of them are taken in exactly.
-/
import Mathlib.Tactic
import RemoteShutter.Json.Printer
import RemoteShutter.Json.Reader
import RemoteShutter.Proofs.Text.Utf8

namespace RemoteShutter

/-! ## Characters of one byte -/

/-- the characters are one byte each -/
def IsAscii (cs : List Char) : Prop :=
  ∀ c ∈ cs, c.toNat < 0x80

instance (cs : List Char) : Decidable (IsAscii cs) :=
  show Decidable (∀ c ∈ cs, c.toNat < 0x80) from List.decidableBAll (·.toNat < 0x80) cs

namespace Utf8

open JsonLexeme (byte)

theorem encode_cons {c : Char} (h : c.toNat < 0x80) (cs : List Char) : encode (c :: cs) = byte c :: encode cs := by
  rw [encode, List.flatMap_cons, encodeChar, if_pos h]
  rfl

theorem encode_eq_map {cs : List Char} (h : IsAscii cs) : encode cs = cs.map byte := by
  induction cs with
  | nil => rfl
  | cons c cs ih =>
    obtain ⟨hc, hcs⟩ := List.forall_mem_cons.1 h
    rw [encode_cons hc, ih hcs, List.map_cons]

theorem length_encode {cs : List Char} (h : IsAscii cs) : (encode cs).length = cs.length := by
  rw [encode_eq_map h, List.length_map]

theorem encode_ne_nil {cs : List Char} (h : IsAscii cs) (hne : cs ≠ []) : encode cs ≠ [] := by
  rw [← List.length_pos_iff, length_encode h]
  exact List.length_pos_iff.2 hne

theorem toNat_byte {c : Char} (h : c.toNat < 0x80) : (byte c).toNat = c.toNat := by
  simp only [byte, Nat.toUInt8, UInt8.toNat_ofNat']
  omega

end Utf8

namespace JsonLexeme

open Utf8 (encode)

theorem word_encode {cs : List Char} (h : IsAscii cs) (rest : Bytes) :
    word cs (encode cs ++ rest) = .ok ((), rest) := by
  rw [Utf8.encode_eq_map h]
  induction cs with
  | nil => rfl
  | cons c cs ih =>
    rw [List.map_cons, List.cons_append, word, if_pos rfl]
    exact ih (List.forall_mem_cons.1 h).2

/-! ## Strings -/

/-- the character stands for itself in a string -/
def IsPlain (c : Char) : Prop :=
  0x20 ≤ c.toNat ∧ c.toNat < 0x80 ∧ c ≠ '"' ∧ c ≠ '\\'

instance (c : Char) : Decidable (IsPlain c) :=
  inferInstanceAs (Decidable (_ ∧ _ ∧ _ ∧ _))

/-- a text of such characters -/
def PlainText (t : String) : Prop :=
  ∀ c ∈ t.toList, IsPlain c

instance (t : String) : Decidable (PlainText t) :=
  show Decidable (∀ c ∈ t.toList, IsPlain c) from List.decidableBAll IsPlain t.toList

theorem PlainText.isAscii {t : String} (h : PlainText t) : IsAscii t.toList :=
  fun c hc => (h c hc).2.1

theorem escapeChar_of_plain {c : Char} (h : IsPlain c) : Json.escapeChar c = [c] := by
  obtain ⟨hlow, -, hquote, hback⟩ := h
  have hne : ∀ d : Char, d.toNat < 0x20 → c ≠ d := by
    rintro d hd rfl
    omega
  simp only [Json.escapeChar, if_neg hquote, if_neg hback, if_neg (hne '\x08' (by decide)),
    if_neg (hne '\x0c' (by decide)), if_neg (hne '\n' (by decide)), if_neg (hne '\r' (by decide)),
    if_neg (hne '\t' (by decide)), if_neg (Nat.not_lt.2 hlow)]

theorem compactText_of_plain {t : String} (h : PlainText t) : Json.compactText t = '"' :: (t.toList ++ ['"']) := by
  have hself : t.toList.flatMap Json.escapeChar = t.toList := by
    rw [List.flatMap_congr fun c hc => escapeChar_of_plain (h c hc), List.flatMap_singleton']
  rw [Json.compactText, hself, List.cons_append]

theorem byte_inj {c d : Char} (hc : c.toNat < 0x80) (hd : d.toNat < 0x80) : byte c = byte d ↔ c = d := by
  refine ⟨fun h => ?_, congrArg byte⟩
  rw [← UInt8.toNat_inj, Utf8.toNat_byte hc, Utf8.toNat_byte hd] at h
  exact Char.toNat_inj.1 h

/-- the bytes up to the closing quote -/
theorem stringBytes_map {cs : List Char} (h : ∀ c ∈ cs, IsPlain c) {fuel : Nat} (hf : cs.length < fuel)
    (seen : Array UInt8) (rest : Bytes) :
    stringBytes fuel seen (cs.map byte ++ byte '"' :: rest) = .ok (seen.toList ++ cs.map byte, rest) := by
  induction cs generalizing fuel seen with
  | nil =>
    obtain ⟨fuel, rfl⟩ : ∃ k, fuel = k + 1 := ⟨fuel - 1, by simp at hf; omega⟩
    simp [stringBytes]
  | cons c cs ih =>
    obtain ⟨⟨hlow, hhigh, hquote, hback⟩, hcs⟩ := List.forall_mem_cons.1 h
    obtain ⟨fuel, rfl⟩ : ∃ k, fuel = k + 1 := ⟨fuel - 1, by simp at hf; omega⟩
    have h1 : byte c ≠ byte '"' := fun he => hquote ((byte_inj hhigh (by decide)).1 he)
    have h2 : byte c ≠ byte '\\' := fun he => hback ((byte_inj hhigh (by decide)).1 he)
    have h3 : ¬ byte c < 0x20 := by
      rw [UInt8.lt_iff_toNat_lt, Utf8.toNat_byte hhigh]
      exact Nat.not_lt.2 hlow
    rw [List.map_cons, List.cons_append, stringBytes, if_neg h1, if_neg h2, if_neg h3,
      ih hcs (by simpa using hf)]
    simp

theorem string_encode {t : String} (h : PlainText t) (rest : Bytes) :
    string (encode t.toList ++ byte '"' :: rest) = .ok (t, rest) := by
  have hlt : t.toList.length < (encode t.toList ++ byte '"' :: rest).length := by
    rw [List.length_append, Utf8.length_encode h.isAscii, List.length_cons]
    omega
  have hbytes := stringBytes_map h hlt #[] rest
  rw [← Utf8.encode_eq_map h.isAscii] at hbytes
  simp only [string, hbytes, bind, Except.bind, List.nil_append, Utf8.decode?_encode, String.ofList_toList]

/-! ## Numbers -/

/-- the number that the bytes of digits stand for, behind one that has been read -/
def digitsValue (n : Nat) (ds : Bytes) : Nat :=
  ds.foldl (fun n d => n * 10 + digitValue d) n

theorem le_digitsValue (n : Nat) (ds : Bytes) : n ≤ digitsValue n ds := by
  induction ds generalizing n with
  | nil => exact le_rfl
  | cons d ds ih => exact Nat.le_trans (show n ≤ n * 10 + digitValue d by omega) (ih _)

/-- digits of a number that fits are all taken in -/
theorem absorb_eq {n taken : Nat} {ds : Bytes} (h : digitsValue n ds ≤ largest) :
    absorb n taken ds = (digitsValue n ds, taken + ds.length, []) := by
  induction ds generalizing n taken with
  | nil => rfl
  | cons d ds ih =>
    have hm : n * 10 + digitValue d ≤ largest := Nat.le_trans (le_digitsValue _ ds) h
    rw [absorb]
    simp only [if_pos hm]
    rw [ih h, List.length_cons]
    simp only [digitsValue, List.foldl_cons, Prod.mk.injEq, and_true, true_and]
    omega

theorem digitChar_facts : ∀ d, d < 10 → isDigit (byte (Numeral.digitChar d)) = true ∧
    digitValue (byte (Numeral.digitChar d)) = d ∧ (Numeral.digitChar d).toNat < 0x80 ∧
    (byte (Numeral.digitChar d) = byte '0' → d = 0) := by decide

/-- digits of a number: digits, of this value, with no zero in front of others -/
structure Spells (n : Nat) (cs : List Char) : Prop where
  ascii : IsAscii cs
  nonempty : cs ≠ []
  digits : ∀ b ∈ encode cs, isDigit b = true
  value : digitsValue 0 (encode cs) = n
  /-- a zero in front is all there is -/
  leading : (encode cs).head? = some (byte '0') → n = 0 ∧ cs.length = 1

theorem spells_digits (n : Nat) : Spells n (Numeral.digits n) := by
  induction n using Nat.strong_induction_on with
  | _ n ih =>
    rw [Numeral.digits]
    split_ifs with hn
    · obtain ⟨hdigit, hvalue, hascii, hzero⟩ := digitChar_facts n hn
      have hcs : IsAscii [Numeral.digitChar n] := by simpa [IsAscii] using hascii
      have hencode : encode [Numeral.digitChar n] = [byte (Numeral.digitChar n)] := Utf8.encode_eq_map hcs
      refine ⟨hcs, List.cons_ne_nil _ _, ?_, ?_, fun h => ⟨hzero ?_, rfl⟩⟩
      · rw [hencode]
        simpa using hdigit
      · rw [hencode]
        simpa [digitsValue] using hvalue
      · simpa [hencode] using h
    · -- the last digit behind the others
      obtain ⟨hascii, hne, hdigits, hvalue, hleading⟩ := ih (n / 10) (by omega)
      obtain ⟨hdigit, hlast, hlastascii, -⟩ := digitChar_facts (n % 10) (by omega)
      have hcs : IsAscii [Numeral.digitChar (n % 10)] := by simpa [IsAscii] using hlastascii
      have hencode : encode (Numeral.digits (n / 10) ++ [Numeral.digitChar (n % 10)]) =
          encode (Numeral.digits (n / 10)) ++ [byte (Numeral.digitChar (n % 10))] := by
        rw [Utf8.encode_append, Utf8.encode_eq_map hcs]
        rfl
      refine ⟨List.forall_mem_append.2 ⟨hascii, hcs⟩, List.append_ne_nil_of_left_ne_nil hne _, ?_, ?_, fun h => ?_⟩
      · rw [hencode]
        exact List.forall_mem_append.2 ⟨hdigits, by simpa using hdigit⟩
      · rw [hencode, digitsValue, List.foldl_append]
        simp only [List.foldl_cons, List.foldl_nil, hlast]
        rw [show (encode (Numeral.digits (n / 10))).foldl _ 0 = n / 10 from hvalue]
        omega
      · rw [hencode, List.head?_append_of_ne_nil _ (Utf8.encode_ne_nil hascii hne)] at h
        have := (hleading h).1
        omega

theorem exists_cons_digits (n : Nat) : ∃ b ds, encode (Numeral.digits n) = b :: ds ∧ isDigit b = true := by
  obtain ⟨hascii, hne, hdigits, -, -⟩ := spells_digits n
  obtain ⟨b, ds, hds⟩ := List.exists_cons_of_ne_nil (Utf8.encode_ne_nil hascii hne)
  exact ⟨b, ds, hds, hdigits b (hds ▸ List.mem_cons_self)⟩

theorem length_digits {k : Nat} (hk : 0 < k) {n : Nat} (hn : n < 10 ^ k) : (Numeral.digits n).length ≤ k := by
  induction k generalizing n with
  | zero => cases hk
  | succ k ih =>
    rw [Numeral.digits]
    split_ifs with hsmall
    · simp
    · have hpos : 0 < k := by
        by_contra h0
        obtain rfl : k = 0 := by omega
        omega
      have hrest := ih hpos (n := n / 10) (by rw [pow_succ] at hn; omega)
      rw [List.length_append, List.length_singleton]
      omega

/-- the bytes cannot go on with a number -/
def Stops (rest : Bytes) : Prop :=
  ∀ b ∈ rest.head?, isDigit b = false ∧ b ≠ byte '.' ∧ b ≠ byte 'e' ∧ b ≠ byte 'E'

theorem unsigned_digits (isNegative : Bool) {n : Nat} (hn : n ≤ largest) {rest : Bytes} (hrest : Stops rest) :
    unsigned isNegative (encode (Numeral.digits n) ++ rest) = .ok (whole isNegative n rest) := by
  obtain ⟨hascii, hne, hdigits, hvalue, hleading⟩ := spells_digits n
  have hlen := Utf8.length_encode hascii
  generalize encode (Numeral.digits n) = ds at hdigits hvalue hleading hlen
  have htake : (ds ++ rest).takeWhile isDigit = ds := by
    rw [List.takeWhile_append_of_pos hdigits]
    cases rest with
    | nil => simp
    | cons c r => rw [List.takeWhile_cons_of_neg (by simp [(hrest c rfl).1]), List.append_nil]
  have hdrop : (ds ++ rest).dropWhile isDigit = rest := by
    rw [List.dropWhile_append_of_pos hdigits]
    cases rest with
    | nil => rfl
    | cons c r => rw [List.dropWhile_cons_of_neg (by simp [(hrest c rfl).1])]
  have habsorb : absorb 0 0 ds = (n, ds.length, []) := by
    rw [absorb_eq (by rw [hvalue]; exact hn), hvalue, Nat.zero_add]
  obtain ⟨b, ds', rfl⟩ : ∃ b ds', ds = b :: ds' :=
    List.exists_cons_of_ne_nil (by rw [← List.length_pos_iff, hlen, List.length_pos_iff]; exact hne)
  have hb : isDigit b = true := hdigits b List.mem_cons_self
  have hzero : ¬ (b = byte '0' ∧ (b :: ds').length ≠ 1) := by
    rintro ⟨rfl, hlong⟩
    exact hlong (hlen.trans (hleading rfl).2)
  rw [List.cons_append] at htake hdrop ⊢
  simp only [unsigned, hb, if_true, htake, hdrop, habsorb, if_neg hzero, List.isEmpty_nil]
  cases rest with
  | nil => rfl
  | cons c r =>
    obtain ⟨-, hpoint, he, hE⟩ := hrest c rfl
    simp only [if_neg hpoint, if_neg (not_or.2 ⟨he, hE⟩)]

theorem number_natural (n : UInt64) {rest : Bytes} (hrest : Stops rest) :
    number (encode (JsonNumber.natural n).compact ++ rest) = .ok (.natural n, rest) := by
  have hn : n.toNat ≤ largest := Nat.le_of_lt_succ n.toNat_lt
  have hunsigned := unsigned_digits false hn hrest
  obtain ⟨b, ds, hds, hdigit⟩ := exists_cons_digits n.toNat
  have hb : b ≠ byte '-' := by
    rintro rfl
    revert hdigit
    decide
  rw [hds, List.cons_append] at hunsigned
  rw [JsonNumber.compact, hds, List.cons_append, number, if_neg hb, hunsigned]
  simp [whole]

theorem number_negative {n : Int64} (hn : n.toInt < 0) {rest : Bytes} (hrest : Stops rest) :
    number (encode (JsonNumber.negative n).compact ++ rest) = .ok (.negative n, rest) := by
  have hlow := n.le_toInt
  have hunsigned := unsigned_digits true (n := n.toInt.natAbs) (by simp only [largest]; omega) hrest
  rw [JsonNumber.compact, Numeral.ofInt, if_pos hn, Utf8.encode_cons (by decide), List.cons_append, number, if_pos rfl,
    hunsigned, whole, if_pos rfl, if_neg (by omega)]
  have hback : (-(n.toInt.natAbs : Int)).toInt64 = n := by
    rw [show -(n.toInt.natAbs : Int) = n.toInt by omega]
    exact Int64.ofInt_toInt n
  rw [hback]

end JsonLexeme

end RemoteShutter
