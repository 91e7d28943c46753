/-
The smallest pieces of JSON text: blanks, words, strings and numbers.

Every reader takes the bytes at hand and returns what it read with the bytes after it. Text that ends too early is
`cutShort`, anything else that does not belong is `malformed`.

A number with neither fraction nor exponent that fits 64 bits is exact; minus zero is a double. Of a longer number only
the leading digits that fit 64 bits count, the others as powers of ten, and the double is the product (or quotient) of
the two rounded factors.
-/
import RemoteShutter.Json.Fault
import RemoteShutter.Text.Utf8

namespace RemoteShutter

/-- reads a value from the front of some bytes -/
abbrev JsonReader (α : Type) := Bytes → Except JsonFault (α × Bytes)

namespace JsonLexeme

def byte (c : Char) : UInt8 :=
  c.toNat.toUInt8

def isBlank (b : UInt8) : Bool :=
  b = byte ' ' || b = byte '\n' || b = byte '\t' || b = byte '\r'

def skipBlanks (s : Bytes) : Bytes :=
  s.dropWhile isBlank

def isDigit (b : UInt8) : Bool :=
  byte '0' ≤ b && b ≤ byte '9'

def digitValue (b : UInt8) : Nat :=
  b.toNat - 48

/-- reads exactly these characters -/
def word : List Char → JsonReader Unit
  | [], s => .ok ((), s)
  | _ :: _, [] => .error .cutShort
  | c :: cs, b :: s => if b = byte c then word cs s else .error .malformed

/-! ## Strings -/

def hexValue? (b : UInt8) : Option Nat :=
  if isDigit b then some (digitValue b)
  else if byte 'a' ≤ b ∧ b ≤ byte 'f' then some (b.toNat - 87)
  else if byte 'A' ≤ b ∧ b ≤ byte 'F' then some (b.toNat - 55)
  else none

/-- four hexadecimal digits -/
def hexQuad : JsonReader Nat
  | a :: b :: c :: d :: s =>
    match hexValue? a, hexValue? b, hexValue? c, hexValue? d with
    | some a, some b, some c, some d => .ok (((a * 16 + b) * 16 + c) * 16 + d, s)
    | _, _, _, _ => .error .malformed
  | _ => .error .cutShort

/-- what stands after backslash and u: one code point, or two halves of one -/
def codePoint (s : Bytes) : Except JsonFault (Bytes × Bytes) := do
  let (n, s) ← hexQuad s
  if 0xDC00 ≤ n ∧ n ≤ 0xDFFF then .error .malformed
  else if n < 0xD800 ∨ 0xDFFF < n then .ok (Utf8.encodeChar (Char.ofNat n), s)
  else
    let ((), s) ← word ['\\', 'u'] s
    let (m, s) ← hexQuad s
    if m < 0xDC00 ∨ 0xDFFF < m then .error .malformed
    else .ok (Utf8.encodeChar (Char.ofNat (0x10000 + (n - 0xD800) * 1024 + (m - 0xDC00))), s)

/-- what stands after a backslash, as the bytes it means -/
def escape : Bytes → Except JsonFault (Bytes × Bytes)
  | [] => .error .cutShort
  | b :: s =>
    if b = byte '"' ∨ b = byte '\\' ∨ b = byte '/' then .ok ([b], s)
    else if b = byte 'b' then .ok ([8], s)
    else if b = byte 'f' then .ok ([12], s)
    else if b = byte 'n' then .ok ([10], s)
    else if b = byte 'r' then .ok ([13], s)
    else if b = byte 't' then .ok ([9], s)
    else if b = byte 'u' then codePoint s
    else .error .malformed

/-- reads up to the closing quote; `seen` holds the bytes of the string so far -/
def stringBytes : Nat → Array UInt8 → Bytes → Except JsonFault (Bytes × Bytes)
  | 0, _, _ => .error .cutShort
  | _, _, [] => .error .cutShort
  | fuel + 1, seen, b :: s =>
    if b = byte '"' then .ok (seen.toList, s)
    else if b = byte '\\' then do
      let (bs, s) ← escape s
      stringBytes fuel (seen ++ bs) s
    else if b < 0x20 then .error .malformed
    else stringBytes fuel (seen.push b) s

/-- the string whose opening quote has been read -/
def string (s : Bytes) : Except JsonFault (String × Bytes) := do
  let (bs, rest) ← stringBytes s.length #[] s
  match Utf8.decode? bs with
  | some cs => .ok (String.ofList cs, rest)
  | none => .error .malformed

/-! ## Numbers -/

/-- the largest number that is kept exactly -/
def largest : Nat := 18446744073709551615

/-- takes digits into `n` as long as it stays exact: the number, how many digits it took, and the other digits -/
def absorb (n taken : Nat) : Bytes → Nat × Nat × Bytes
  | [] => (n, taken, [])
  | d :: ds =>
    let m := n * 10 + digitValue d
    if m ≤ largest then absorb m (taken + 1) ds else (n, taken, d :: ds)

/-- 10^k as a double -/
def powerOfTen (k : Nat) : Float :=
  Float.ofScientific 1 false k

/-- n / 10^k as a double, in steps of 308 powers -/
def shrink : Nat → Float → Nat → Float
  | 0, x, _ => x
  | fuel + 1, x, k => if k ≤ 308 then x / powerOfTen k else shrink fuel (x / powerOfTen 308) (k - 308)

/-- n * 10^e as a double, if it is finite -/
def double? (n : Nat) (e : Int) : Option Float :=
  let x := n.toUInt64.toFloat
  if n = 0 then some x
  else if 308 < e then none
  else if 0 ≤ e then
    let y := x * powerOfTen e.toNat
    if y.isFinite then some y else none
  else some (shrink 3 x e.natAbs)

def real (isNegative : Bool) (n : Nat) (e : Int) (s : Bytes) : Except JsonFault (JsonNumber × Bytes) :=
  match double? n e with
  | some x => .ok (.real (if isNegative then -x else x), s)
  | none => .error .malformed

/-- what stands after the letter e -/
def exponent (isNegative : Bool) (n : Nat) (e : Int) (s : Bytes) : Except JsonFault (JsonNumber × Bytes) :=
  let (down, s) := match s with
    | b :: r => if b = byte '+' then (false, r) else if b = byte '-' then (true, r) else (false, s)
    | [] => (false, [])
  match s with
  | [] => .error .cutShort
  | b :: _ =>
    if isDigit b then
      let x := (s.takeWhile isDigit).foldl (fun x d => x * 10 + digitValue d) 0
      real isNegative n (if down then e - x else e + x) (s.dropWhile isDigit)
    else .error .malformed

/-- what may follow the digits of a number: an exponent or nothing -/
def exponentOrEnd (isNegative : Bool) (n : Nat) (e : Int) : Bytes → Except JsonFault (JsonNumber × Bytes)
  | [] => real isNegative n e []
  | b :: s =>
    if b = byte 'e' ∨ b = byte 'E' then exponent isNegative n e s else real isNegative n e (b :: s)

/-- what stands after the point -/
def fraction (isNegative : Bool) (n : Nat) (e : Int) : Bytes → Except JsonFault (JsonNumber × Bytes)
  | [] => .error .cutShort
  | b :: s =>
    if isDigit b then
      let (m, taken, _) := absorb n 0 ((b :: s).takeWhile isDigit)
      exponentOrEnd isNegative m (e - taken) ((b :: s).dropWhile isDigit)
    else .error .malformed

/-- the number n, whose digits have all been read -/
def whole (isNegative : Bool) (n : Nat) (s : Bytes) : JsonNumber × Bytes :=
  if isNegative then
    if n = 0 ∨ 9223372036854775808 < n then (.real (-n.toUInt64.toFloat), s) else (.negative (-n : Int).toInt64, s)
  else (.natural n.toUInt64, s)

/-- the number after its sign -/
def unsigned (isNegative : Bool) : Bytes → Except JsonFault (JsonNumber × Bytes)
  | [] => .error .cutShort
  | b :: s =>
    if isDigit b then
      let ds := (b :: s).takeWhile isDigit
      let rest := (b :: s).dropWhile isDigit
      if b = byte '0' ∧ ds.length ≠ 1 then .error .malformed
      else
        let (n, _, left) := absorb 0 0 ds
        match rest with
        | [] => if left.isEmpty then .ok (whole isNegative n rest) else real isNegative n left.length rest
        | c :: r =>
          if c = byte '.' then fraction isNegative n left.length r
          else if c = byte 'e' ∨ c = byte 'E' then exponent isNegative n left.length r
          else if left.isEmpty then .ok (whole isNegative n rest)
          else real isNegative n left.length rest
    else .error .malformed

/-- a number, with its sign -/
def number : Bytes → Except JsonFault (JsonNumber × Bytes)
  | [] => .error .cutShort
  | b :: s => if b = byte '-' then unsigned true s else unsigned false (b :: s)

end JsonLexeme

end RemoteShutter
