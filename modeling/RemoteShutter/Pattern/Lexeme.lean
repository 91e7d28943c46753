/-
The small pieces of patterns: blanks, escapes and options.

A pattern is a regular expression. It stands between braces, so it holds no closing one, and whatever would need one is
malformed. Every reader takes the characters at hand and returns what it read with the characters after it, or nothing if
the pattern is malformed there.

There are no tables behind patterns: while characters beyond ASCII count, short classes such as that of digits, letters in
either case and word boundaries are not available.
-/
import RemoteShutter.Text.CharClass
import RemoteShutter.Text.Numeral

namespace RemoteShutter

/-- reads a value from the front of some characters -/
abbrev PatternReader (α : Type) := List Char → Option (α × List Char)

namespace Pattern

/-- options in force at a place of a pattern -/
structure Options where
  /-- characters beyond ASCII count -/
  isWide : Bool := true
  /-- letters stand for either case -/
  isAnyCase : Bool := false
  /-- blanks and comments do not count -/
  isSpaced : Bool := false
  deriving DecidableEq, Repr

/-! ## Blanks -/

def skipSpaced (inComment : Bool) : List Char → List Char
  | [] => []
  | c :: r =>
    if inComment then skipSpaced (c ≠ '\n') r
    else if CharClass.isBlank c then skipSpaced false r
    else if c = '#' then skipSpaced true r
    else c :: r

/-- passes over blanks and comments where they do not count -/
def Options.skip (o : Options) (s : List Char) : List Char :=
  if o.isSpaced then skipSpaced false s else s

/-- the next character that counts; of a comment only the mark is passed over -/
def Options.peek (o : Options) (s : List Char) : Option Char :=
  if !o.isSpaced then s.head?
  else
    match s.dropWhile CharClass.isBlank with
    | '#' :: r => (r.dropWhile CharClass.isBlank).head?
    | r => r.head?

/-! ## Escapes -/

/-- what a backslash and what follows it stand for -/
inductive Escaped where
  /-- a character, maybe given as a byte -/
  | literal (c : Char) (isByte : Bool)
  /-- a class with a short name -/
  | short (isNegated : Bool)
  /-- a place without a character: an end of the text, or a boundary of a word -/
  | edge (isOfWord : Bool)

/-- exactly `n` hexadecimal digits -/
def hexDigits (o : Options) : Nat → PatternReader (List Char)
  | 0, s => some ([], s)
  | n + 1, s =>
    match o.skip s with
    | [] => none
    | c :: r =>
      if (Numeral.digitIn? 16 c).isSome then (hexDigits o n r).map fun (ds, r) => (c :: ds, r) else none

/-- a character by its code point -/
def codePoint (o : Options) (width : Nat) (isByte : Bool) (s : List Char) : Option (Escaped × List Char) := do
  let (ds, r) ← hexDigits o width s
  let n ← Numeral.valueIn? 16 ds
  if n < 0xD800 || (0xDFFF < n && n < 0x110000) then return (.literal (Char.ofNat n) isByte, o.skip r) else none

/-- characters that a letter after a backslash stands for -/
def named? (c : Char) : Option Char :=
  [('a', '\x07'), ('f', '\x0c'), ('t', '\t'), ('n', '\n'), ('r', '\r'), ('v', '\x0b')].lookup c

/-- what follows a backslash -/
def escape (o : Options) : PatternReader Escaped
  | [] => none
  | c :: r =>
    if c = 'x' then codePoint o 2 true r
    else if c = 'u' then codePoint o 4 false r
    else if c = 'U' then codePoint o 8 false r
    else if ['d', 's', 'w'].contains c then some (.short false, r)
    else if ['D', 'S', 'W'].contains c then some (.short true, r)
    else if ['A', 'z'].contains c then some (.edge false, r)
    else if ['b', 'B', '<', '>'].contains c then some (.edge true, r)
    else
      match named? c with
      | some d => some (.literal d false, r)
      | none => if c.toNat < 0x80 && !c.isAlphanum then some (.literal c false, r) else none

namespace Options

def takesLiteral (o : Options) (c : Char) (isByte : Bool) : Bool :=
  if o.isWide then !o.isAnyCase else !isByte || c.toNat < 0x80

def takesShort (o : Options) (isNegated : Bool) : Bool :=
  !o.isWide && !isNegated

def takesEdge (o : Options) (isOfWord : Bool) : Bool :=
  !isOfWord || !o.isWide

/-- any character but a line end -/
def takesDot (o : Options) : Bool := o.isWide

def takes (o : Options) : Escaped → Bool
  | .literal c isByte => o.takesLiteral c isByte
  | .short isNegated => o.takesShort isNegated
  | .edge isOfWord => o.takesEdge isOfWord

/-! ## Setting options -/

/-- letters that set options; a minus sign says that those after it are taken back -/
def letters : List Char := ['i', 'm', 's', 'U', 'u', 'R', 'x', '-']

/-- whether letters set options: each at most once, and no minus sign at the end -/
def areValid (cs : List Char) : Bool :=
  cs.all letters.contains && decide cs.Nodup && cs.getLast? ≠ some '-'

def set (o : Options) (value : Bool) (c : Char) : Options :=
  if c = 'u' then { o with isWide := value }
  else if c = 'i' then { o with isAnyCase := value }
  else if c = 'x' then { o with isSpaced := value }
  else o

def setAll (o : Options) (cs : List Char) : Options :=
  let on := cs.takeWhile (· ≠ '-')
  let off := cs.drop on.length
  off.foldl (fun o c => o.set false c) (on.foldl (fun o c => o.set true c) o)

end Options

/-! ## Depth -/

/-- items side by side: how many, and how deep the deepest of them is -/
structure Items where
  count : Nat := 0
  deepest : Nat := 0
  deriving DecidableEq, Repr

namespace Items

def add (s : Items) (depth : Nat) : Items :=
  ⟨s.count + 1, max s.deepest depth⟩

/-- the depth of all together; a single one stands for itself -/
def depth (s : Items) : Nat :=
  if s.count ≤ 1 then s.deepest else s.deepest + 1

end Items

end Pattern

end RemoteShutter
