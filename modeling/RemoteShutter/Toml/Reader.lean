/-
Reading TOML text.

`ofText?` reads a whole document: first its lines as statements, then the table that these make. A document is either
valid as a whole or not at all. Lists and braces may be nested up to a fixed depth, on which the reader of values
recurses; what repeats is bounded by the length of the text, since every repetition takes at least one character.
-/
import RemoteShutter.Toml.Lexeme
import RemoteShutter.Toml.Number

namespace RemoteShutter

namespace Toml

/-- how deep lists and braces may be nested -/
def mostDepth : Nat := 79

/-- the rest of a list; a comma may stand after the last item -/
def items {α : Type} (item : TomlReader α) : Nat → TomlReader (List α)
  | 0, _ => none
  | fuel + 1, s => do
    match ← gap? false s with
    | ']' :: s => return ([], s)
    | s =>
      let (v, s) ← item s
      match ← gap? false s with
      | ',' :: s =>
        let (vs, s) ← items item fuel s
        return (v :: vs, s)
      | ']' :: s => return ([v], s)
      | _ => none

/-- a key, an equals sign and a value -/
def pair (value : TomlReader TomlValue) : TomlReader (KeyPath × TomlValue) := fun s => do
  let (k, s) ← key s
  let s ← expect? '=' s
  let (v, s) ← value (skipBlanks s)
  return ((k, v), s)

/-- the rest of the pairs in braces, of which there is at least one; no comma may stand after the last one -/
def pairs (value : TomlReader TomlValue) : Nat → TomlReader (List (KeyPath × TomlValue))
  | 0, _ => none
  | fuel + 1, s => do
    let (p, s) ← pair value s
    match skipBlanks s with
    | ',' :: s =>
      let (ps, s) ← pairs value fuel s
      return (p :: ps, s)
    | '}' :: s => return ([p], s)
    | _ => none

/-- the rest of a table in braces -/
def braces (value : TomlReader TomlValue) : TomlReader TomlValue := fun s => do
  match skipBlanks s with
  | '}' :: s => return (.table .braces [], s)
  | s =>
    let (ps, s) ← pairs value s.length s
    return (.table .braces (← TomlEntries.ofPairs? ps), s)

/-- a value that neither list nor braces enclose -/
def plainValue (s : List Char) : Option (TomlValue × List Char) :=
  match s with
  | '"' :: _ | '\x27' :: _ => do
    let (cs, s) ← Quoted.read? s
    return (.scalar (.text (String.ofList cs)), s)
  | _ => word s

/-- a value in which lists and braces are nested so deep at most -/
def value : Nat → TomlReader TomlValue
  | 0, s =>
    match s with
    | '[' :: _ => none
    | '\x7b' :: _ => none
    | s => plainValue s
  | depth + 1, s =>
    match s with
    | '[' :: s => do
      let (vs, s) ← items (value depth) (s.length + 1) s
      return (.list false vs, s)
    | '\x7b' :: s => braces (value depth) s
    | s => plainValue s

/-- one line with something on it -/
def statement : TomlReader TomlEntries.Statement
  | '[' :: '[' :: s => do
    let (p, s) ← key s
    let s ← restOfLine? (← expect? ']' (← expect? ']' s))
    return (.doubleHeader p, s)
  | '[' :: s => do
    let (p, s) ← key s
    let s ← restOfLine? (← expect? ']' s)
    return (.header p, s)
  | s => do
    let ((k, v), s) ← pair (value mostDepth) s
    return (.pair k v, ← restOfLine? s)

/-- all lines of a text, of which there are fewer than `fuel` -/
def statements : Nat → List Char → Option (List TomlEntries.Statement)
  | 0, _ => none
  | fuel + 1, s =>
    match skipBlanks s with
    | [] => some []
    | '\n' :: s => statements fuel s
    | '\r' :: '\n' :: s => statements fuel s
    | '#' :: s => (restOfLine? (skipComment s)).bind (statements fuel)
    | s => do
      let (line, s) ← statement s
      return line :: (← statements fuel s)

/-- the text without the mark that may stand in front of it -/
def unmarked : List Char → List Char
  | '\ufeff' :: s => s
  | s => s

/-- the table that a text describes -/
def ofText? (s : List Char) : Option TomlEntries :=
  let s := unmarked s
  (statements (s.length + 1) s).bind TomlEntries.ofStatements?

end Toml

end RemoteShutter
