/-
UTF-8 is the usual one, and is read back.

- `encodeChar_eq`, `encode_toList`: a character, and so a text, is written as the standard library writes it.
- `next?_encodeChar`: the bytes of a character, in front of any others, are read as that character. It is written in one
  to four bytes; the first tells how many there are, and each of the others brings six bits.
- `decode?_encode`: so the bytes of any text are read as that text.
-/
import Mathlib.Tactic
import RemoteShutter.Text.Utf8

namespace RemoteShutter.Utf8

theorem encode_append (cs ds : List Char) : encode (cs ++ ds) = encode cs ++ encode ds :=
  List.flatMap_append

/-- no character takes more than four bytes -/
theorem length_encode_le (cs : List Char) : (encode cs).length ≤ 4 * cs.length := by
  induction cs with
  | nil => exact Nat.zero_le _
  | cons c cs ih =>
    have hc : (encodeChar c).length ≤ 4 := by
      simp only [encodeChar]
      split_ifs <;> simp
    rw [encode, List.flatMap_cons, List.length_append, List.length_cons, Nat.mul_succ, Nat.add_comm]
    exact Nat.add_le_add ih hc

/-! ## One character -/

theorem bits?_tail (n : Nat) : bits? (tail n) = some (n % 64) := by
  have hlow : n % 64 < 64 := Nat.mod_lt _ (by decide)
  have hfits : 0x80 + n % 64 < UInt8.size := Nat.add_lt_of_lt_sub' (hlow.trans (by decide))
  have hvalue : (tail n).toNat = 0x80 + n % 64 := UInt8.toNat_ofNat_of_lt' hfits
  have hrange : 0x80 ≤ tail n ∧ tail n < 0xC0 := by
    rw [UInt8.le_iff_toNat_le, UInt8.lt_iff_toNat_lt, hvalue]
    exact ⟨Nat.le_add_right _ _, Nat.add_lt_add_left hlow _⟩
  rw [bits?, if_pos hrange, hvalue, Nat.add_sub_cancel_left]

theorem char?_toNat {least : Nat} {c : Char} (h : least ≤ c.toNat) : char? least c.toNat = some c := by
  rw [char?, if_pos ⟨h, c.valid⟩, Char.ofNat_toNat]

theorem toNat_lt (c : Char) : c.toNat < 0x110000 := by
  rcases c.valid with h | h
  · exact Nat.lt_trans h (by decide)
  · exact h.2

/-- **The bytes of a character are read as that character.** -/
theorem next?_encodeChar (c : Char) (s : Bytes) : next? (encodeChar c ++ s) = some (c, s) := by
  have hmost := toNat_lt c
  have hsize : UInt8.size = 256 := rfl
  have hback : ∀ least n, least ≤ c.toNat → n = c.toNat → char? least n = some c := by
    rintro least n hleast rfl
    exact char?_toNat hleast
  unfold encodeChar
  dsimp only
  -- the first byte tells which of the four forms is at hand, and the six bits of the others are put together again
  split_ifs with hone htwo hthree
  · have hvalue : c.toNat.toUInt8.toNat = c.toNat := UInt8.toNat_ofNat_of_lt' (by omega)
    simp only [List.cons_append, List.nil_append, next?, UInt8.lt_iff_toNat_lt, hvalue, UInt8.reduceToNat]
    rw [if_pos hone, Char.ofNat_toNat]
  · have hvalue : (0xC0 + c.toNat / 64).toUInt8.toNat = 0xC0 + c.toNat / 64 := UInt8.toNat_ofNat_of_lt' (by omega)
    simp only [List.cons_append, List.nil_append, next?, UInt8.lt_iff_toNat_lt, hvalue, UInt8.reduceToNat]
    rw [if_neg (by omega), if_neg (by omega), if_pos (by omega)]
    refine Option.bind_eq_some_iff.2 ⟨_, bits?_tail _, Option.bind_eq_some_iff.2 ⟨c, ?_, rfl⟩⟩
    exact hback 0x80 _ (by omega) (by omega)
  · have hvalue : (0xE0 + c.toNat / 4096).toUInt8.toNat = 0xE0 + c.toNat / 4096 :=
      UInt8.toNat_ofNat_of_lt' (by omega)
    simp only [List.cons_append, List.nil_append, next?, UInt8.lt_iff_toNat_lt, hvalue, UInt8.reduceToNat]
    rw [if_neg (by omega), if_neg (by omega), if_neg (by omega), if_pos (by omega)]
    refine Option.bind_eq_some_iff.2 ⟨_, bits?_tail _, Option.bind_eq_some_iff.2 ⟨_, bits?_tail _, ?_⟩⟩
    exact Option.bind_eq_some_iff.2 ⟨c, hback 0x800 _ (by omega) (by omega), rfl⟩
  · have hvalue : (0xF0 + c.toNat / 262144).toUInt8.toNat = 0xF0 + c.toNat / 262144 :=
      UInt8.toNat_ofNat_of_lt' (by omega)
    simp only [List.cons_append, List.nil_append, next?, UInt8.lt_iff_toNat_lt, hvalue, UInt8.reduceToNat]
    rw [if_neg (by omega), if_neg (by omega), if_neg (by omega), if_neg (by omega)]
    refine Option.bind_eq_some_iff.2 ⟨_, bits?_tail _, Option.bind_eq_some_iff.2 ⟨_, bits?_tail _, ?_⟩⟩
    refine Option.bind_eq_some_iff.2 ⟨_, bits?_tail _, Option.bind_eq_some_iff.2 ⟨c, ?_, rfl⟩⟩
    exact hback 0x10000 _ (by omega) (by omega)

/-- **The bytes of a character are the usual ones.** -/
theorem encodeChar_eq (c : Char) : encodeChar c = String.utf8EncodeChar c := by
  have hmost := toNat_lt c
  have hvalue : c.val.toNat = c.toNat := rfl
  have hlt : ∀ n, c.toNat < n + 1 ↔ c.toNat ≤ n := fun n => Nat.lt_succ_iff
  unfold encodeChar String.utf8EncodeChar tail
  simp only [hvalue, hlt 0x7f, hlt 0x7ff, hlt 0xffff, Nat.toUInt8_eq]
  split_ifs with hone htwo hthree
  · rfl
  · have hlead : c.toNat / 64 % 0x20 = c.toNat / 64 := Nat.mod_eq_of_lt (by omega)
    simp only [hlead, Nat.add_comm]
  · have hlead : c.toNat / 4096 % 0x10 = c.toNat / 4096 := Nat.mod_eq_of_lt (by omega)
    simp only [hlead, Nat.add_comm]
  · have hlead : c.toNat / 262144 % 0x08 = c.toNat / 262144 := Nat.mod_eq_of_lt (by omega)
    simp only [hlead, Nat.add_comm]

/-! ## Texts -/

theorem encode_toList (s : String) : encode s.toList = s.toUTF8.data.toList := by
  have hchars : encode s.toList = s.toList.flatMap String.utf8EncodeChar := by
    rw [encode, funext encodeChar_eq]
  have hbytes : s.toUTF8 = (s.toList.flatMap String.utf8EncodeChar).toByteArray := String.utf8Encode_toList.symm
  rw [hbytes, List.data_toByteArray, hchars]

theorem decodeAfter_encode (cs seen : List Char) : decodeAfter seen (encode cs) = some (seen.reverse ++ cs) := by
  induction cs generalizing seen with
  | nil => simp [encode, decodeAfter]
  | cons c cs ih =>
    have hnext : next? (encode (c :: cs)) = some (c, encode cs) := next?_encodeChar c (encode cs)
    have hsome : ¬ (encode (c :: cs)).isEmpty = true := by
      intro hempty
      rw [List.isEmpty_iff.1 hempty] at hnext
      cases hnext
    rw [decodeAfter, if_neg hsome]
    split
    · next hnone =>
      rw [hnext] at hnone
      cases hnone
    · next hread =>
      rw [hnext] at hread
      obtain ⟨rfl, rfl⟩ := Prod.mk.inj (Option.some.inj hread)
      rw [ih, List.reverse_cons, List.append_assoc, List.singleton_append]

/-- **The bytes of a text are read as that text.** -/
theorem decode?_encode (cs : List Char) : decode? (encode cs) = some cs :=
  decodeAfter_encode cs []

end RemoteShutter.Utf8
