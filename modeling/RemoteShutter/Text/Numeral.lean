/-
Numerals.

`digits` writes a natural number in decimal without leading zeros, `ofInt` puts a minus sign in front of a negative one,
and `value` reads digits back. `padded` fills up with zeros to a least width. `valueIn?` reads digits in any base up to
sixteen.
-/

namespace RemoteShutter.Numeral

def digitChar (d : Nat) : Char :=
  Char.ofNat ('0'.toNat + d)

def digitValue (c : Char) : Nat :=
  c.toNat - '0'.toNat

def isDigit (c : Char) : Bool :=
  '0' ≤ c && c ≤ '9'

/-- decimal digits, the leading one first -/
def digits (n : Nat) : List Char :=
  if n < 10 then [digitChar n] else digits (n / 10) ++ [digitChar (n % 10)]
termination_by n
decreasing_by omega

/-- the number that a run of digits stands for -/
def value (cs : List Char) : Nat :=
  cs.foldl (fun n c => n * 10 + digitValue c) 0

def ofInt (z : Int) : List Char :=
  if z < 0 then '-' :: digits z.natAbs else digits z.natAbs

/-- digits, with zeros in front up to `width` -/
def padded (width n : Nat) : List Char :=
  let ds := digits n
  List.replicate (width - ds.length) '0' ++ ds

/-- a natural number as a reader of numbers takes it: digits, with at most one plus sign in front -/
def toNat? (cs : List Char) : Option Nat :=
  let ds := match cs with
    | '+' :: r => r
    | r => r
  if ds.isEmpty || !ds.all isDigit then none else some (value ds)

/-- the value of a digit in a base up to sixteen; letters count in either case -/
def digitIn? (base : Nat) (c : Char) : Option Nat :=
  let d :=
    if isDigit c then digitValue c
    else if 'a' ≤ c ∧ c ≤ 'f' then c.toNat - 'a'.toNat + 10
    else if 'A' ≤ c ∧ c ≤ 'F' then c.toNat - 'A'.toNat + 10
    else 16
  if d < base ∧ base ≤ 16 then some d else none

/-- the number that digits in a base stand for -/
def valueIn? (base : Nat) (cs : List Char) : Option Nat :=
  cs.foldlM (fun n c => (digitIn? base c).map (n * base + ·)) 0

end RemoteShutter.Numeral
