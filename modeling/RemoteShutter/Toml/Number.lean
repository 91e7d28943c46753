/-
TOML values written as one word: flags, numbers, dates and times.

A word is a whole number in decimal, or in base 16, 8 or 2 after a sign for the base; a fraction, which has a point or an
exponent or is named; a date, a time, or both, then perhaps with an offset. Underscores may stand between two digits. A
decimal number does not begin with a needless zero.

Whole numbers must fit 64 bits with a sign. A fraction must not be too large for a double, unless it is negative.
-/
import RemoteShutter.Toml.Basic
import RemoteShutter.Text.Numeral

namespace RemoteShutter.Toml

open Numeral (isDigit)

/-! ## Whole numbers -/

/-- digits in a base without the underscores between them -/
def ungrouped? (base : Nat) : List Char → Option (List Char)
  | [] => none
  | [c] => (Numeral.digitIn? base c).map fun _ => [c]
  | c :: '_' :: s => do
    let _ ← Numeral.digitIn? base c
    return c :: (← ungrouped? base s)
  | c :: s => do
    let _ ← Numeral.digitIn? base c
    return c :: (← ungrouped? base s)

/-- the number that digits in a base stand for -/
def natural? (base : Nat) (s : List Char) : Option Nat :=
  (ungrouped? base s).bind (Numeral.valueIn? base)

/-- the digits of a decimal number without a sign -/
def decimalDigits? (s : List Char) : Option (List Char) := do
  let ds ← ungrouped? 10 s
  if s.head? = some '0' ∧ s.length ≠ 1 then none else return ds

/-- whether a number is negative, and what stands after its sign -/
def signed : List Char → Bool × List Char
  | '-' :: s => (true, s)
  | '+' :: s => (false, s)
  | s => (false, s)

/-- a number that fits 64 bits with a sign -/
def inRange? (z : Int) : Option Int :=
  if Int64.minValue.toInt ≤ z ∧ z ≤ Int64.maxValue.toInt then some z else none

def whole? : List Char → Option Int
  | '0' :: 'x' :: s => do inRange? (← natural? 16 s)
  | '0' :: 'o' :: s => do inRange? (← natural? 8 s)
  | '0' :: 'b' :: s => do inRange? (← natural? 2 s)
  | s => do
    let (isNegative, s) := signed s
    let n := Numeral.value (← decimalDigits? s)
    inRange? (if isNegative then -(n : Int) else n)

/-! ## Fractions -/

/-- what may follow the digits of a fraction: nothing, or an exponent -/
def exponent? : List Char → Option Int
  | [] => some 0
  | c :: s =>
    if c = 'e' ∨ c = 'E' then do
      let (isNegative, s) := signed s
      let n ← natural? 10 s
      return if isNegative then -(n : Int) else n
    else none

/-- digits and the underscores between them -/
def isGroup (c : Char) : Bool :=
  isDigit c || c = '_'

/-- whether n · 10^e is nearer to 2^1024 than to the largest double, or beyond -/
def isTooLarge (n : Nat) (e : Int) : Bool :=
  let bound := Nat.pow 2 1024 - Nat.pow 2 970
  if n = 0 then false
  else if e < 0 then bound * Nat.pow 10 (min e.natAbs (Nat.log2 n)) ≤ n
  else if 310 ≤ e then true
  else bound ≤ n * Nat.pow 10 e.natAbs

/-- the digits and the exponent of a fraction without its sign, as a number and a power of ten -/
def fractionParts? (s : List Char) : Option (Nat × Int) := do
  let ds ← decimalDigits? (s.takeWhile isGroup)
  match s.dropWhile isGroup with
  | [] => none
  | '.' :: s =>
    let fs ← ungrouped? 10 (s.takeWhile isGroup)
    let e ← exponent? (s.dropWhile isGroup)
    return (Numeral.value (ds ++ fs), e - fs.length)
  | s => return (Numeral.value ds, ← exponent? s)

def isFraction (s : List Char) : Bool :=
  let (isNegative, s) := signed s
  s = ['i', 'n', 'f'] || s = ['n', 'a', 'n'] ||
    match fractionParts? s with
    | some (n, e) => isNegative || !isTooLarge n e
    | none => false

/-! ## Dates and times -/

/-- `n` digits that stand for a number in a range, and the text after them -/
def field? (n least most : Nat) (s : List Char) : Option (Nat × List Char) :=
  let ds := s.take n
  let v := Numeral.value ds
  if ds.length = n ∧ ds.all isDigit ∧ least ≤ v ∧ v ≤ most then some (v, s.drop n) else none

/-- the text after one character -/
def after? (c : Char) : List Char → Option (List Char)
  | [] => none
  | d :: s => if d = c then some s else none

def daysIn (year month : Nat) : Nat :=
  if month = 2 then if year % 4 = 0 ∧ (year % 100 ≠ 0 ∨ year % 400 = 0) then 29 else 28
  else if month = 4 ∨ month = 6 ∨ month = 9 ∨ month = 11 then 30
  else 31

/-- the text after a date -/
def date? (s : List Char) : Option (List Char) := do
  let (year, s) ← field? 4 0 9999 s
  let (month, s) ← field? 2 1 12 (← after? '-' s)
  let (_, s) ← field? 2 1 (daysIn year month) (← after? '-' s)
  return s

/-- the text after a time of the day; a minute may have a leap second -/
def time? (s : List Char) : Option (List Char) := do
  let (_, s) ← field? 2 0 23 s
  let (_, s) ← field? 2 0 59 (← after? ':' s)
  let (_, s) ← field? 2 0 60 (← after? ':' s)
  match s with
  | '.' :: c :: r => return if isDigit c then r.dropWhile isDigit else s
  | s => return s

/-- an offset to the time of day in Greenwich, or nothing -/
def isOffset : List Char → Bool
  | [] => true
  | ['Z'] => true
  | ['z'] => true
  | c :: s =>
    (c = '+' || c = '-') &&
      (do
        let (_, s) ← field? 2 0 23 s
        let (_, s) ← field? 2 0 59 (← after? ':' s)
        return s) == some []

/-- a time of the day that follows a date -/
def isTimeAndOffset (s : List Char) : Bool :=
  (time? s).any isOffset

def isMoment (s : List Char) : Bool :=
  time? s == some [] ||
    match date? s with
    | some [] => true
    | some ('T' :: s) => isTimeAndOffset s
    | some ('t' :: s) => isTimeAndOffset s
    | _ => false

/-! ## Words -/

def isWordChar (c : Char) : Bool :=
  c.isAlphanum || c = '+' || c = '-' || c = '.' || c = ':' || c = '_'

/-- the value that a whole word stands for -/
def ofWord? (s : List Char) : Option TomlValue :=
  if s = ['t', 'r', 'u', 'e'] then some (.scalar (.flag true))
  else if s = ['f', 'a', 'l', 's', 'e'] then some (.scalar (.flag false))
  else if isMoment s then some .moment
  else if isFraction s then some .fraction
  else (whole? s).map fun z => .scalar (.whole z)

/-- a word; a date and a time may have a blank between them -/
def word (s : List Char) : Option (TomlValue × List Char) :=
  let w := s.takeWhile isWordChar
  let rest := s.dropWhile isWordChar
  match date? w, rest with
  | some [], ' ' :: r =>
    some (.moment, if isTimeAndOffset (r.takeWhile isWordChar) then r.dropWhile isWordChar else rest)
  | _, _ => (ofWord? w).map (·, rest)

end RemoteShutter.Toml
