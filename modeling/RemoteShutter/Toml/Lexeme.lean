/-
The small pieces of TOML text: blanks, line ends, comments and keys.

Every reader takes the characters at hand and returns what it read with the characters after it, or nothing if the text
is invalid there.
-/
import RemoteShutter.Toml.Basic
import RemoteShutter.Toml.Quoted

namespace RemoteShutter

/-- reads a value from the front of some characters -/
abbrev TomlReader (α : Type) := List Char → Option (α × List Char)

namespace Toml

def isBlank (c : Char) : Bool :=
  c = ' ' || c = '\t'

def skipBlanks (s : List Char) : List Char :=
  s.dropWhile isBlank

/-- the text after a line end -/
def lineEnd? : List Char → Option (List Char)
  | '\n' :: s => some s
  | '\r' :: '\n' :: s => some s
  | _ => none

/-- the text after the rest of a comment; its line end is left -/
def skipComment (s : List Char) : List Char :=
  s.dropWhile Quoted.isPlain

/-- the text after a line on which nothing but a comment may still stand -/
def restOfLine? (s : List Char) : Option (List Char) :=
  let s := match skipBlanks s with
    | '#' :: s => skipComment s
    | s => s
  if s.isEmpty then some [] else lineEnd? s

/-- skips blanks, line ends and comments, as they may stand between the items of a list -/
def gap? (inComment : Bool) : List Char → Option (List Char)
  | [] => if inComment then none else some []
  | '\n' :: s => gap? false s
  | '\r' :: '\n' :: s => gap? false s
  | '\r' :: _ => none
  | c :: s =>
    if inComment then if Quoted.isPlain c then gap? true s else none
    else if isBlank c then gap? false s
    else if c = '#' then gap? true s
    else some (c :: s)

/-- reads exactly this character -/
def expect? (c : Char) : List Char → Option (List Char)
  | [] => none
  | d :: s => if d = c then some s else none

/-! ## Keys -/

/-- a character of a key without quotes -/
def isBare (c : Char) : Bool :=
  c.isAlphanum || c = '-' || c = '_'

/-- one part of a key -/
def simpleKey : TomlReader String
  | '"' :: s => do
    let (k, s) ← Quoted.basic s
    return (String.ofList k, s)
  | '\x27' :: s => do
    let (k, s) ← Quoted.literal s
    return (String.ofList k, s)
  | s =>
    let k := s.takeWhile isBare
    if k.isEmpty then none else some (String.ofList k, s.dropWhile isBare)

/-- the most parts that a key may have -/
def mostParts : Nat := 79

/-- a key of at most so many parts, with the blanks around each -/
def keyPath : Nat → TomlReader KeyPath
  | 0, _ => none
  | n + 1, s => do
    let (k, s) ← simpleKey (skipBlanks s)
    match skipBlanks s with
    | '.' :: s =>
      let (p, s) ← keyPath n s
      return (p.cons k, s)
    | s => return ({ last := k }, s)

/-- a key with the blanks around it -/
def key (s : List Char) : Option (KeyPath × List Char) :=
  keyPath mostParts s

end Toml

end RemoteShutter
