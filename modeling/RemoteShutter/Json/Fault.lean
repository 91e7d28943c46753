/-
What can be wrong with JSON text.

Text is `malformed`, or `cutShort` where more would have been needed, or it is well formed up to a place that does not
fit the type being read. `Mismatch` names the ways not to fit, and `Mismatch.message` words them.
-/
import RemoteShutter.Json.Basic
import RemoteShutter.Text.Printable
import RemoteShutter.Text.ShortestDecimal

namespace RemoteShutter

/-- what stood where something else was wanted -/
inductive Found where
  | null
  | bool (b : Bool)
  | integer (z : Int)
  | real (x : Float)
  | text (s : String)
  | sequence
  | map

inductive Mismatch where
  | wrongType (found : Found) (wanted : String)
  | wrongValue (found : Found) (wanted : String)
  | missing (key : String)
  | duplicate (key : String)
  | unknownVariant (name : String) (known : List String)
  | wrongLength (length : Nat) (wanted : String)

inductive JsonFault where
  | malformed
  | cutShort
  | mismatch (m : Mismatch)

namespace Found

/-- numbers from 1e-5 up to 1e16 are written positionally -/
def numberStyle : Decimal.Style := ⟨-5, 15⟩

def message : Found → String
  | null => "null"
  | bool b => "boolean `" ++ (if b then "true" else "false") ++ "`"
  | integer z => "integer `" ++ String.ofList (Numeral.ofInt z) ++ "`"
  | real x => "floating point `" ++ String.ofList (Decimal.ofFloat x numberStyle) ++ "`"
  | text s => "string " ++ Quoted.text s
  | sequence => "sequence"
  | map => "map"

def ofNumber : JsonNumber → Found
  | .natural n => integer n.toNat
  | .negative n => integer n.toInt
  | .real x => real x

def ofJson : Json → Found
  | .null => null
  | .bool b => bool b
  | .number n => ofNumber n
  | .text s => text s
  | .array _ => sequence
  | .object _ => map

end Found

namespace Mismatch

/-- the known names, for a message -/
def choices : List String → String
  | [] => "there are no variants"
  | [a] => s!"expected `{a}`"
  | [a, b] => s!"expected `{a}` or `{b}`"
  | names => "expected one of " ++ ", ".intercalate (names.map fun n => s!"`{n}`")

def message : Mismatch → String
  | wrongType found wanted => s!"invalid type: {found.message}, expected {wanted}"
  | wrongValue found wanted => s!"invalid value: {found.message}, expected {wanted}"
  | missing key => s!"missing field `{key}`"
  | duplicate key => s!"duplicate field `{key}`"
  | unknownVariant name known => s!"unknown variant `{name}`, {choices known}"
  | wrongLength length wanted => s!"invalid length {length}, expected {wanted}"

end Mismatch

end RemoteShutter
