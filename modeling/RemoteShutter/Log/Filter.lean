/-
Log filters: which records are printed.

A filter is a list of directives between commas. A directive names a target, a span with a field, or both, and after an
equals sign a threshold; a threshold may also stand alone. Of the directives that a record meets, the most specific one
decides: the longest target first, then the most fields. A record that meets none is not printed.

A directive with a span never decides anything, since nothing here runs in one; nor does one that asks for the value of a
field, which must be a number or a pattern. A filter without directives prints errors. Blanks around a directive do not
count when its parts are told apart, but its words are cut out of the text as it stands, at the same places in bytes. A
place within a character is a fault of its own.
-/
import RemoteShutter.Log.Record
import RemoteShutter.Log.Threshold
import RemoteShutter.Pattern.Basic

namespace RemoteShutter

structure LogDirective where
  target : Option String := none
  /-- the name of a field that a record must have -/
  field : Option String := none
  /-- it is about spans -/
  isOfSpan : Bool := false
  threshold : LogThreshold := .upTo .trace
  deriving DecidableEq, Repr

abbrev LogFilter := List LogDirective

/-- why a filter cannot be read -/
inductive LogFilterFault where
  | malformed
  /-- a word would begin or end within a character -/
  | withinCharacter
  deriving DecidableEq, Repr

namespace LogDirective

def trimmed (s : List Char) : List Char :=
  ((s.dropWhile CharClass.isBlank).reverse.dropWhile CharClass.isBlank).reverse

/-! ## Places in bytes -/

/-- how many bytes characters take -/
def width (cs : List Char) : Nat :=
  cs.foldl (fun n c => n + c.utf8Size) 0

/-- the text from a place on -/
def dropBytes (n : Nat) : List Char → Except LogFilterFault (List Char)
  | [] => if n = 0 then .ok [] else .error .withinCharacter
  | c :: cs =>
    if n = 0 then .ok (c :: cs)
    else if c.utf8Size ≤ n then dropBytes (n - c.utf8Size) cs
    else .error .withinCharacter

/-- the text up to a place -/
def takeBytes (n : Nat) : List Char → Except LogFilterFault (List Char)
  | [] => if n = 0 then .ok [] else .error .withinCharacter
  | c :: cs =>
    if n = 0 then .ok []
    else if c.utf8Size ≤ n then (takeBytes (n - c.utf8Size) cs).map (c :: ·)
    else .error .withinCharacter

/-- so many bytes from a place on -/
def cut (s : List Char) (start n : Nat) : Except LogFilterFault (List Char) := do
  takeBytes n (← dropBytes start s)

/-! ## Reading -/

/-- a character that a target may begin with -/
def startsTarget (c : Char) : Bool :=
  CharClass.isLetterOrNumber c || c = '-' || c = ':' || c = '_'

/-- a threshold as a word; nothing means everything -/
def thresholdOf (s : List Char) : Except LogFilterFault LogThreshold :=
  if s.isEmpty then .ok (.upTo .trace)
  else
    match LogThreshold.ofText? (String.ofList s) with
    | some t => .ok t
    | none => .error .malformed

/-- a number after its plus sign: digits with or without a point and an exponent, or the name of no finite number -/
def isUnsigned (cs : List Char) : Bool :=
  let whole := cs.takeWhile Numeral.isDigit
  let (part, rest) := match cs.drop whole.length with
    | '.' :: r => (r.takeWhile Numeral.isDigit, r.dropWhile Numeral.isDigit)
    | r => ([], r)
  let isEnd := match rest with
    | [] => true
    | e :: r =>
      let ds := match r with
        | '+' :: ds => ds
        | '-' :: ds => ds
        | ds => ds
      (e = 'e' || e = 'E') && !ds.isEmpty && ds.all Numeral.isDigit
  ((!whole.isEmpty || !part.isEmpty) && isEnd) ||
    ["inf", "infinity", "nan"].contains (lowerCase (String.ofList cs))

/-- the value of a field: a number or a pattern. Numbers are patterns unless they begin with a plus sign. -/
def isValue (cs : List Char) : Bool :=
  Pattern.isValid cs ||
    match cs with
    | '+' :: r => isUnsigned r
    | _ => false

/-- a field in braces: its name, and after an equals sign its value -/
def withField (d : LogDirective) (words : List Char) : Except LogFilterFault LogDirective :=
  let name := words.takeWhile (· ≠ '=')
  let d := { d with field := some (String.ofList name) }
  match words.drop name.length with
  | [] => .ok d
  | _ :: r => if isValue (r.takeWhile (· ≠ '=')) then .ok { d with isOfSpan := true } else .error .malformed

/-- the end of a directive from a place on: nothing, or an equals sign and a threshold -/
def ending (s : List Char) (d : LogDirective) (n : Nat) : List Char → Except LogFilterFault LogDirective
  | [] => .ok d
  | '=' :: _ => do
    let t ← thresholdOf (← dropBytes (n + 1) s)
    return { d with threshold := t }
  | _ => .error .malformed

/-- a field and all that follows it, from a place just after its brace -/
def fieldAndEnding (s : List Char) (d : LogDirective) (n : Nat) (inner : List Char) :
    Except LogFilterFault LogDirective := do
  let field := inner.takeWhile (· ≠ '\x7d')
  match inner.drop field.length with
  | [] => throw .malformed
  | _ :: rest =>
    let words ← cut s n (width field)
    if words.isEmpty then throw .malformed
    let d ← withField d words
    match rest with
    | ']' :: rest => ending s d (n + width field + 2) rest
    | _ => throw .malformed

/-- the part in brackets and all that follows it, from a place just after the opening bracket -/
def bracket (s : List Char) (d : LogDirective) (n : Nat) (inner : List Char) : Except LogFilterFault LogDirective := do
  let span := inner.takeWhile fun c => c ≠ ']' ∧ c ≠ '\x7b'
  let next := n + width span + 1
  match inner.drop span.length with
  | [] => throw .malformed
  | c :: rest =>
    let words ← cut s n (width span)
    if c = ']' then ending s { d with isOfSpan := true } next rest
    else fieldAndEnding s { d with isOfSpan := !words.isEmpty } next rest

/-- one directive, given without commas -/
def ofText (s : List Char) : Except LogFilterFault LogDirective :=
  let form := trimmed s
  match form with
  | [] => .error .malformed
  | '[' :: inner => bracket s {} 1 inner
  | c :: _ =>
    if !startsTarget c then .error .malformed
    else
      let words := form.takeWhile fun c => c ≠ '=' ∧ c ≠ '['
      match form.drop words.length with
      | [] =>
        let word := String.ofList s
        match LogThreshold.ofText? word with
        | some t => .ok { threshold := t }
        | none => .ok { target := some word }
      | rest => do
        let d : LogDirective := { target := some (String.ofList (← cut s 0 (width words))) }
        match rest with
        | '[' :: inner => bracket s d (width words + 1) inner
        | _ => ending s d (width words) rest

/-- whether a record meets a directive -/
def meets (d : LogDirective) (r : LogRecord) : Bool :=
  !d.isOfSpan && (d.target.all fun t => t.toList.isPrefixOf r.target.toList) &&
    d.field.all fun name => name = "message" || r.event.values.any (·.1 = name)

/-- how specific a directive is: whether it names a target, its length, and whether it names a field -/
def weight (d : LogDirective) : Nat :=
  2 * (d.target.map fun t => t.utf8ByteSize + 1).getD 0 + (if d.field.isSome then 1 else 0)

/-- the more specific of two directives that a record meets; of equal ones the later, the second -/
def moreSpecific (a b : LogDirective) : LogDirective :=
  if a.weight > b.weight ∨ (a.weight = b.weight ∧ b.field.getD "" < a.field.getD "") then a else b

end LogDirective

namespace LogFilter

/-- errors only -/
def errors : LogFilter := [{ threshold := .upTo .error }]

/-- records of level info and more urgent ones -/
def infos : LogFilter := [{ threshold := .upTo .info }]

def ofText (s : String) : Except LogFilterFault LogFilter := do
  let pieces := (s.splitOn ",").filter fun p => !p.isEmpty
  let ds ← pieces.mapM fun p => LogDirective.ofText p.toList
  return if ds.isEmpty then errors else ds

/-- the directive that decides on a record, if there is one -/
def decider? (f : LogFilter) (r : LogRecord) : Option LogDirective :=
  f.foldl
    (fun best d =>
      if d.meets r then
        match best with
        | some b => some (b.moreSpecific d)
        | none => some d
      else best)
    none

def admits (f : LogFilter) (r : LogRecord) : Bool :=
  (f.decider? r).any fun d => d.threshold.admits r.event.level

end LogFilter

end RemoteShutter
