/-
Sets of characters in brackets, as they stand in patterns.

A set holds characters, ranges, named classes and further sets, and may be combined with others by operators of two
characters. A caret at the beginning negates it. A closing bracket at the beginning, and minus signs there or at the end,
are characters of the set.
-/
import RemoteShutter.Pattern.Lexeme

namespace RemoteShutter.Pattern

/-- a set that is being read -/
structure Bracket where
  isNegated : Bool
  /-- the depth of what stands before the last operator -/
  left : Option Nat := none
  items : Items := {}
  deriving DecidableEq, Repr

namespace Bracket

def add (b : Bracket) (depth : Nat) : Bracket :=
  { b with items := b.items.add depth }

/-- the depth of what has been read -/
def depth (b : Bracket) : Nat :=
  match b.left with
  | none => b.items.depth
  | some left => max left b.items.depth + 1

/-- an operator ends the items before it -/
def operate (b : Bracket) : Bracket :=
  { b with left := some b.depth, items := {} }

end Bracket

/-- names of classes, which stand between colons in brackets of their own -/
def classNames : List String :=
  ["alnum", "alpha", "ascii", "blank", "cntrl", "digit", "graph", "lower", "print", "punct", "space", "upper", "word",
    "xdigit"]

/-- a named class, whose first bracket has been read; whether it is negated -/
def namedClass : PatternReader Bool
  | ':' :: s =>
    let (isNegated, s) := match s with
      | '^' :: s => (true, s)
      | s => (false, s)
    let name := s.takeWhile (· ≠ ':')
    match s.drop name.length with
    | ':' :: ']' :: r => if classNames.contains (String.ofList name) then some (isNegated, r) else none
    | _ => none
  | _ => none

namespace Options

def takesInSet (o : Options) (c : Char) : Bool :=
  if o.isWide then !o.isAnyCase else c.toNat < 0x80

def takesNamed (o : Options) (isNegated : Bool) : Bool :=
  if o.isWide then !o.isAnyCase else !isNegated

/-- a set that is negated holds characters beyond ASCII -/
def takesSet (o : Options) (b : Bracket) : Bool :=
  o.isWide || !b.isNegated

end Options

/-- the beginning of a set, whose bracket has been read -/
def openBracket (o : Options) : PatternReader Bracket := fun s =>
  let (isNegated, s) := match o.skip s with
    | '^' :: s => (true, o.skip s)
    | s => (false, s)
  let minus := minusRun o s.length s
  let b : Bracket := { isNegated := isNegated, items := ⟨minus.1, 0⟩ }
  match minus.2 with
  | [] => none
  | ']' :: r =>
    if minus.1 = 0 then if (o.skip r).isEmpty || !o.takesInSet ']' then none else some (b.add 0, o.skip r)
    else if !o.takesInSet '-' then none else some (b, ']' :: r)
  | r => if minus.1 ≠ 0 && !o.takesInSet '-' then none else some (b, r)
where
  /-- how many minus signs there are, and what follows them -/
  minusRun (o : Options) : Nat → List Char → Nat × List Char
    | n + 1, '-' :: s =>
      let (k, r) := minusRun o n (o.skip s)
      (k + 1, r)
    | _, s => (0, s)

/-- a character or a class with a short name -/
def setItem (o : Options) : PatternReader Escaped
  | [] => none
  | '\\' :: s => escape o s
  | c :: s => some (.literal c false, s)

/-- the text after a character, a class with a short name, or a range -/
def pastRange? (o : Options) (s : List Char) : Option (List Char) := do
  let (first, s) ← setItem o s
  let s := o.skip s
  let isRange := s.head? = some '-' && o.peek (s.drop 1) ≠ some ']' && o.peek (s.drop 1) ≠ some '-'
  match s, first with
  | [], _ => none
  | _ :: r, .literal a _ =>
    if !o.takesInSet a then none
    else if !isRange then return s
    else
      match ← setItem o (o.skip r) with
      | (.literal b _, r) => if o.takesInSet b && a.toNat ≤ b.toNat then return r else none
      | _ => none
  | _ :: _, .short isNegated => if isRange || !o.takesShort isNegated then none else return s
  | _ :: _, .edge _ => none

/-- a set and all sets around it, down to the bracket that closes the outermost; its depth -/
def brackets (o : Options) : Nat → List Bracket → Bracket → PatternReader Nat
  | 0, _, _, _ => none
  | fuel + 1, outer, b, s =>
    match o.skip s with
    | [] => none
    | '[' :: r =>
      match namedClass r with
      | some (isNegated, r) => if o.takesNamed isNegated then brackets o fuel outer (b.add 0) r else none
      | none => do
        let (inner, r) ← openBracket o r
        brackets o fuel (b :: outer) inner r
    | ']' :: r =>
      if !o.takesSet b then none
      else
        match outer with
        | [] => some (b.depth + 1, r)
        | up :: outer => brackets o fuel outer (up.add (b.depth + 1)) r
    | '&' :: '&' :: r => brackets o fuel outer b.operate r
    | '-' :: '-' :: r => brackets o fuel outer b.operate r
    | '~' :: '~' :: r => brackets o fuel outer b.operate r
    | s => do
      let r ← pastRange? o s
      brackets o fuel outer (b.add 0) r

/-- a set, whose first bracket has been read; its depth -/
def charSet (o : Options) : PatternReader Nat := fun s => do
  let (b, r) ← openBracket o s
  brackets o (s.length + 1) [] b r

end RemoteShutter.Pattern
