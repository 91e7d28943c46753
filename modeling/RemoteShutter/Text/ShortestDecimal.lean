/-
The shortest decimal that reads back as a given double.

A finite positive double is m * 2^q. The reals that round to it form an interval around it; its ends belong to it iff m
is even. For one digit, two digits and so on, the two neighbours of the double on the grid of decimals with that many
digits are tried, and the first that lies in the interval is taken. Of two the nearer one is taken, and of two that are
equally near the even one. `Style` then says which exponents are written.
-/
import RemoteShutter.Text.Numeral

namespace RemoteShutter

/-- a positive double m * 2^q; `evenGap` is false where the gap below it is half the gap above it -/
structure Binary where
  m : Nat
  q : Int
  evenGap : Bool

/-- decimal digits d and exponent e of d.ddd * 10^e -/
structure Decimal where
  digits : List Char
  exponent : Int
  deriving DecidableEq, Repr

namespace Binary

/-- the double with these bits, less its sign; none for zero, infinities and NaN -/
def ofBits? (bits : UInt64) : Option Binary :=
  let e := (bits >>> 52).toNat % 2048
  let f := bits.toNat % 4503599627370496
  if e = 2047 then none
  else if e = 0 then if f = 0 then none else some ⟨f, -1074, true⟩
  else some ⟨f + 4503599627370496, (e : Int) - 1075, f ≠ 0 || e = 1⟩

/-- numerators of the lower end, the double and the upper end, over the denominator `den` -/
structure Scaled where
  low : Nat
  mid : Nat
  high : Nat
  den : Nat

/-- the interval divided by 10^k -/
def scaled (b : Binary) (k : Int) : Scaled :=
  let num := Nat.pow 2 (b.q - 2).toNat * Nat.pow 10 (-k).toNat
  let den := Nat.pow 2 (2 - b.q).toNat * Nat.pow 10 k.toNat
  ⟨(4 * b.m - if b.evenGap then 2 else 1) * num, 4 * b.m * num, (4 * b.m + 2) * num, den⟩

/-- the power of ten at or below the double, searched downwards from `top` -/
def magnitude (b : Binary) : Nat → Int → Int
  | 0, top => top
  | fuel + 1, top =>
    let s := b.scaled top
    if s.den ≤ s.mid then top else b.magnitude fuel (top - 1)

/-- whether `below`, of the two grid points around the double, is to be preferred: by distance, then by being even -/
def prefersBelow (s : Scaled) (below : Nat) : Bool :=
  let twice := 2 * (s.mid % s.den)
  twice < s.den || (twice = s.den && below % 2 = 0)

/-- a point of the grid of multiples of 10^k that reads back -/
def onGrid? (b : Binary) (k : Int) : Option Nat :=
  let s := b.scaled k
  let below := s.mid / s.den
  let inside (c : Nat) : Bool :=
    if b.m % 2 = 0 then s.low ≤ c * s.den && c * s.den ≤ s.high
    else s.low < c * s.den && c * s.den < s.high
  match inside below, inside (below + 1) with
  | true, true => some (if prefersBelow s below then below else below + 1)
  | true, false => some below
  | false, true => some (below + 1)
  | false, false => none

/-- tries `tries` more grids, from the one of multiples of 10^k down -/
def search (b : Binary) : Nat → Int → Nat × Int
  | 0, k => (0, k)
  | tries + 1, k =>
    match b.onGrid? k with
    | some c => (c, k)
    | none => b.search tries (k - 1)

def shortest (b : Binary) : Decimal :=
  let (c, k) := b.search 17 (b.magnitude 640 309)
  let ds := Numeral.digits c
  ⟨ds.reverse.dropWhile (· = '0') |>.reverse, k + (ds.length - 1 : Nat)⟩

end Binary

namespace Decimal

/-- where positional notation begins and ends; the exponents beyond are written -/
structure Style where
  leastPositional : Int
  greatestPositional : Int

/-- digits without an exponent, with at least one digit on either side of the point -/
def positional (d : Decimal) : List Char :=
  if d.exponent < 0 then
    '0' :: '.' :: (List.replicate ((-d.exponent).toNat - 1) '0' ++ d.digits)
  else
    let whole := d.exponent.toNat + 1
    if d.digits.length ≤ whole then d.digits ++ List.replicate (whole - d.digits.length) '0' ++ ['.', '0']
    else d.digits.take whole ++ '.' :: d.digits.drop whole

/-- digits with one of them before the point, and the exponent with its sign -/
def withExponent (d : Decimal) : List Char :=
  let mantissa := match d.digits with
    | [] => ['0']
    | [c] => [c]
    | c :: cs => c :: '.' :: cs
  mantissa ++ 'e' :: (if d.exponent < 0 then '-' else '+') :: Numeral.digits d.exponent.natAbs

def text (d : Decimal) (s : Style) : List Char :=
  if s.leastPositional ≤ d.exponent ∧ d.exponent ≤ s.greatestPositional then d.positional
  else d.withExponent

/-- a double in the given style; zero is positional -/
def ofFloat (x : Float) (s : Style) : List Char :=
  let bits := x.toBits
  let sign := if bits >>> 63 = 1 then ['-'] else []
  match Binary.ofBits? bits with
  | some b => sign ++ b.shortest.text s
  | none => sign ++ ['0', '.', '0']

end Decimal

end RemoteShutter
