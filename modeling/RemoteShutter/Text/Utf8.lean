/-
UTF-8: characters as bytes.

`encode` writes each character in one to four bytes and `decode?` reads such bytes back. Overlong forms, surrogates and
values above 0x10FFFF are refused.
-/
import RemoteShutter.Frame.Basic

namespace RemoteShutter.Utf8

/-- a byte that continues a character -/
def tail (n : Nat) : UInt8 :=
  (0x80 + n % 64).toUInt8

def encodeChar (c : Char) : Bytes :=
  let n := c.toNat
  if n < 0x80 then [n.toUInt8]
  else if n < 0x800 then [(0xC0 + n / 64).toUInt8, tail n]
  else if n < 0x10000 then [(0xE0 + n / 4096).toUInt8, tail (n / 64), tail n]
  else [(0xF0 + n / 262144).toUInt8, tail (n / 4096), tail (n / 64), tail n]

def encode (cs : List Char) : Bytes :=
  cs.flatMap encodeChar

/-- the six bits that a continuing byte adds -/
def bits? (b : UInt8) : Option Nat :=
  if 0x80 ≤ b ∧ b < 0xC0 then some (b.toNat - 0x80) else none

/-- the character with code point `n`, if there is one at or above `least` -/
def char? (least n : Nat) : Option Char :=
  if least ≤ n ∧ n.isValidChar then some (Char.ofNat n) else none

/-- the first character and the bytes after it -/
def next? : Bytes → Option (Char × Bytes)
  | [] => none
  | a :: r =>
    if a < 0x80 then some (Char.ofNat a.toNat, r)
    else if a < 0xC0 then none
    else if a < 0xE0 then
      match r with
      | b :: r => do
        let x ← bits? b
        let c ← char? 0x80 ((a.toNat - 0xC0) * 64 + x)
        return (c, r)
      | _ => none
    else if a < 0xF0 then
      match r with
      | b :: c :: r => do
        let x ← bits? b
        let y ← bits? c
        let c ← char? 0x800 ((a.toNat - 0xE0) * 4096 + x * 64 + y)
        return (c, r)
      | _ => none
    else
      match r with
      | b :: c :: d :: r => do
        let x ← bits? b
        let y ← bits? c
        let z ← bits? d
        let c ← char? 0x10000 ((a.toNat - 0xF0) * 262144 + x * 4096 + y * 64 + z)
        return (c, r)
      | _ => none

theorem length_of_next? {s r : Bytes} {c : Char} (h : next? s = some (c, r)) : r.length < s.length := by
  unfold next? at h
  split at h
  · simp at h
  · split at h
    · simp_all
    · split at h
      · simp at h
      · split at h
        · split at h <;> simp_all [Option.bind_eq_some_iff]
          obtain ⟨_, _, _, _, _, rfl⟩ := h
          omega
        · split at h
          · split at h <;> simp_all [Option.bind_eq_some_iff]
            obtain ⟨_, _, _, _, _, _, _, rfl⟩ := h
            omega
          · split at h <;> simp_all [Option.bind_eq_some_iff]
            obtain ⟨_, _, _, _, _, _, _, _, _, rfl⟩ := h
            omega

/-- reads all of `s`; `seen` holds the characters before it, the last one first -/
def decodeAfter (seen : List Char) (s : Bytes) : Option (List Char) :=
  if s.isEmpty then some seen.reverse
  else
    match _h : next? s with
    | none => none
    | some (c, r) => decodeAfter (c :: seen) r
termination_by s.length
decreasing_by exact length_of_next? _h

def decode? (s : Bytes) : Option (List Char) :=
  decodeAfter [] s

end RemoteShutter.Utf8
