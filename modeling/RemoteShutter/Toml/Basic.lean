/-
TOML values, and tables while they are being built.

A document makes its tables piece by piece: by headers, by dotted keys, and by values in braces. A table remembers how it
came about, since that decides what may still be added to it. Every addition either is admitted or makes the document
invalid.

- A header may name a table that headers below it have passed through, but no table twice.
- A dotted key makes the tables on its way, and only tables made by dotted keys take what it gives.
- Values in braces or brackets are complete and take nothing more.
- A doubled header adds a table to a list, which only other doubled headers extend; whatever leads through the list leads
  to its last table.
-/

namespace RemoteShutter

/-- a value that stands for itself; numbers fit 64 bits with a sign -/
inductive TomlScalar where
  | text (s : String)
  | whole (n : Int)
  | flag (b : Bool)
  deriving DecidableEq, Repr

inductive TableOrigin where
  /-- its own header, or the document itself -/
  | header
  /-- headers of tables below it -/
  | passed
  /-- dotted keys -/
  | dotted
  /-- braces -/
  | braces
  deriving DecidableEq, Repr

/-- a value; of fractions and of dates and times it is only known that they are such -/
inductive TomlValue where
  | scalar (v : TomlScalar)
  | fraction
  | moment
  /-- an open list is one of tables with doubled headers -/
  | list (isOpen : Bool) (items : List TomlValue)
  | table (origin : TableOrigin) (entries : List (String × TomlValue))
  deriving Repr

/-- the entries of a table, each key once -/
abbrev TomlEntries := List (String × TomlValue)

/-- where a key leads: through tables to the last one, and to an entry of that -/
structure KeyPath where
  through : List String := []
  last : String
  deriving DecidableEq, Repr

namespace KeyPath

def cons (key : String) (p : KeyPath) : KeyPath :=
  { p with through := key :: p.through }

def length (p : KeyPath) : Nat :=
  p.through.length + 1

end KeyPath

namespace TomlEntries

def put (es : TomlEntries) (key : String) (v : TomlValue) : TomlEntries :=
  if es.any (·.1 = key) then es.map fun e => if e.1 = key then (key, v) else e else es ++ [(key, v)]

/-- puts a value under a new key -/
def add? (es : TomlEntries) (key : String) (v : TomlValue) : Option TomlEntries :=
  if es.any (·.1 = key) then none else some (es ++ [(key, v)])

/--
changes the entries of the table that a path leads to, where `made` tables come into being on the way; a dotted key may
not pass through a table with a header
-/
def change? (made : TableOrigin) (f : TableOrigin → TomlEntries → Option TomlEntries) :
    List String → TableOrigin → TomlEntries → Option TomlEntries
  | [], origin, es => f origin es
  | key :: keys, _, es =>
    match es.lookup key with
    | none => (change? made f keys made []).map fun inner => es.put key (.table made inner)
    | some (.table .braces _) => none
    | some (.table origin inner) =>
      if made = .dotted ∧ origin = .header then none
      else (change? made f keys origin inner).map fun inner => es.put key (.table origin inner)
    | some (.list true items) =>
      match items.getLast? with
      | some (.table origin inner) =>
        (change? made f keys origin inner).map fun inner =>
          es.put key (.list true (items.dropLast ++ [.table origin inner]))
      | _ => none
    | some _ => none

/-- adds a key with its value to a table whose own header is the last one seen -/
def addPair? (es : TomlEntries) (p : KeyPath) (v : TomlValue) : Option TomlEntries :=
  change? .dotted (fun origin inner => if p.through.isEmpty ∨ origin = .dotted then inner.add? p.last v else none)
    p.through .header es

/-- opens the table of a header -/
def openTable? (es : TomlEntries) (p : KeyPath) : Option TomlEntries :=
  change? .passed
    (fun _ inner =>
      match inner.lookup p.last with
      | none => some (inner.put p.last (.table .header []))
      | some (.table .passed below) => some (inner.put p.last (.table .header below))
      | some _ => none)
    p.through .header es

/-- opens one more table of a doubled header -/
def openItem? (es : TomlEntries) (p : KeyPath) : Option TomlEntries :=
  change? .passed
    (fun _ inner =>
      match inner.lookup p.last with
      | none => some (inner.put p.last (.list true [.table .header []]))
      | some (.list true items) => some (inner.put p.last (.list true (items ++ [.table .header []])))
      | some _ => none)
    p.through .header es

/-- what one line of a document says -/
inductive Statement where
  | pair (key : KeyPath) (v : TomlValue)
  | header (path : KeyPath)
  | doubleHeader (path : KeyPath)
  deriving Repr

/-- the document so far, and the way to the table that pairs go to -/
structure Building where
  entries : TomlEntries := []
  current : List String := []

/-- takes in one more line -/
def Building.take? (b : Building) : Statement → Option Building
  | .pair key v => do
    let entries ← change? .passed (fun _ inner => inner.addPair? key v) b.current .header b.entries
    return { b with entries := entries }
  | .header p => do return ⟨← b.entries.openTable? p, p.through ++ [p.last]⟩
  | .doubleHeader p => do return ⟨← b.entries.openItem? p, p.through ++ [p.last]⟩

/-- the table that a whole document makes -/
def ofStatements? (ss : List Statement) : Option TomlEntries := do
  let b ← ss.foldlM Building.take? {}
  return b.entries

/-- the table that pairs in braces make -/
def ofPairs? (ps : List (KeyPath × TomlValue)) : Option TomlEntries :=
  ps.foldlM (fun es (key, v) => es.addPair? key v) []

end TomlEntries

end RemoteShutter
