/-
Patterns: which texts are regular expressions that can be matched.

A pattern is read from left to right with the groups that are open. Options hold up to the end of their group, through
all of its alternatives. Something to be repeated must stand before a repetition, names of groups must differ, and nothing
may be nested too deep.
-/
import RemoteShutter.Pattern.Brackets

namespace RemoteShutter.Pattern

/-- a group that is being read -/
structure Group where
  /-- the options before it, which hold again after it -/
  before : Options := {}
  alternatives : Items := {}
  /-- the items of the alternative at hand -/
  items : Items := {}
  /-- the depth of the last item, if it can be repeated -/
  last : Option Nat := none
  deriving DecidableEq, Repr

namespace Group

def add (g : Group) (depth : Nat) : Group :=
  { g with items := g.items.add depth, last := some depth }

/-- options are an item that cannot be repeated -/
def addOptions (g : Group) : Group :=
  { g with items := g.items.add 0, last := none }

/-- the last item is repeated -/
def repeated? (g : Group) : Option Group :=
  g.last.map fun depth =>
    { g with items := { g.items with deepest := max g.items.deepest (depth + 1) }, last := some (depth + 1) }

def nextAlternative (g : Group) : Group :=
  { g with alternatives := g.alternatives.add g.items.depth, items := {}, last := none }

def depth (g : Group) : Nat :=
  (g.alternatives.add g.items.depth).depth

end Group

/-- a pattern that has been read up to some place -/
structure Progress where
  options : Options := {}
  /-- names of groups -/
  names : List String := []
  group : Group := {}
  /-- the groups around it, the innermost first -/
  outer : List Group := []
  deriving DecidableEq, Repr

namespace Progress

def add (p : Progress) (depth : Nat) : Progress :=
  { p with group := p.group.add depth }

/-- opens a group with options of its own -/
def enter (p : Progress) (options : Options) : Progress :=
  { p with options := options, group := { before := p.options }, outer := p.group :: p.outer }

/-- closes the innermost group -/
def leave? (p : Progress) : Option Progress :=
  match p.outer with
  | [] => none
  | up :: outer => some { p with options := p.group.before, group := up.add (p.group.depth + 1), outer := outer }

end Progress

def isNameStart (c : Char) : Bool :=
  c = '_' || CharClass.isLetter c

def isNamePart (c : Char) : Bool :=
  c = '_' || c = '.' || c = '[' || c = ']' || CharClass.isLetterOrNumber c

/-- a name of a group and the bracket after it -/
def groupName : PatternReader String := fun s =>
  let name := s.takeWhile (· ≠ '>')
  match name, s.drop name.length with
  | c :: cs, _ :: r => if isNameStart c && cs.all isNamePart then some (String.ofList name, r) else none
  | _, _ => none

/-- opens a group with a name -/
def enterNamed (p : Progress) (s : List Char) : Option (Progress × List Char) := do
  let (name, r) ← groupName s
  if p.names.contains name then none else return ({ p with names := name :: p.names }.enter p.options, r)

/-- what follows the bracket that opens a group, or sets options -/
def groupStart (p : Progress) (s : List Char) : Option (Progress × List Char) :=
  match p.options.skip s with
  | '?' :: 'P' :: '<' :: r => enterNamed p r
  | '?' :: '<' :: r => if r.head? = some '=' || r.head? = some '!' then none else enterNamed p r
  | '?' :: r =>
    let cs := r.takeWhile fun c => c ≠ ':' && c ≠ ')'
    if !Options.areValid cs then none
    else
      let options := p.options.setAll cs
      match r.drop cs.length with
      | ':' :: r => some (p.enter options, r)
      | _ :: r => if cs.isEmpty then none else some ({ p with options := options, group := p.group.addOptions }, r)
      | [] => none
  | r => some (p.enter p.options, r)

/-- reads one piece of a pattern -/
def piece (p : Progress) : List Char → Option (Progress × List Char)
  | [] => none
  | c :: r =>
    if c = '(' then groupStart p r
    else if c = ')' then p.leave?.map fun p => (p, r)
    else if c = '|' then some ({ p with group := p.group.nextAlternative }, r)
    else if c = '[' then (charSet p.options r).map fun (depth, r) => (p.add depth, r)
    else if c = '?' ∨ c = '*' ∨ c = '+' then
      p.group.repeated?.map fun g => ({ p with group := g }, if r.head? = some '?' then r.drop 1 else r)
    else if c = '\x7b' then none
    else if c = '\\' then do
      let (e, r) ← escape p.options r
      if p.options.takes e then return (p.add 0, r) else none
    else if c = '.' then if p.options.takesDot then some (p.add 0, r) else none
    else if c = '^' ∨ c = '$' then some (p.add 0, r)
    else if p.options.takesLiteral c false then some (p.add 0, r)
    else none

/-- how deep a pattern may be nested -/
def maxDepth : Nat := 250

/-- reads pieces up to the end of a pattern, which no group may reach beyond -/
def pieces : Nat → Progress → List Char → Bool
  | 0, _, _ => false
  | fuel + 1, p, s =>
    match p.options.skip s with
    | [] => p.outer.isEmpty && p.group.depth ≤ maxDepth
    | s =>
      match piece p s with
      | some (p, r) => pieces fuel p r
      | none => false

def isValid (s : List Char) : Bool :=
  pieces (s.length + 1) {} s

end RemoteShutter.Pattern
