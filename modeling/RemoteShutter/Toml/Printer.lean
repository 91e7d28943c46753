/-
Writing TOML text.

A document is written line by line: the pairs of the table itself, then each table with a header of its own after an
empty line. Whole numbers that do not fit 64 bits with a sign cannot be written.
-/
import RemoteShutter.Toml.Basic
import RemoteShutter.Toml.Quoted

namespace RemoteShutter

/-- a scalar as it is written, if it can be -/
def TomlScalar.written? : TomlScalar → Option String
  | text s => some (Toml.Quoted.written s)
  | whole n => if Int64.minValue.toInt ≤ n ∧ n ≤ Int64.maxValue.toInt then some (String.ofList (Numeral.ofInt n)) else none
  | flag b => some (if b then "true" else "false")

namespace Toml

/-- pairs under keys that need no quotes -/
abbrev Pairs := List (String × TomlScalar)

/-- one line for a pair -/
def pairLine? (p : String × TomlScalar) : Option String :=
  p.2.written?.map fun v => p.1 ++ " = " ++ v ++ "\n"

def pairLines? (ps : Pairs) : Option String :=
  (ps.mapM pairLine?).map String.join

/-- a table under its header -/
def tableLines? (t : String × Pairs) : Option String :=
  (pairLines? t.2).map fun lines => "\n[" ++ t.1 ++ "]\n" ++ lines

/-- a document -/
def text? (ps : Pairs) (tables : List (String × Pairs)) : Option String := do
  return (← pairLines? ps) ++ String.join (← tables.mapM tableLines?)

end Toml

end RemoteShutter
