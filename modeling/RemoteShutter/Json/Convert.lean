/-
Taking JSON numbers and booleans as values of fixed types.

A whole number outside the range of the wanted type is a wrong value; a double is a wrong type, also one without a
fraction.
-/
import RemoteShutter.Json.Fault

namespace RemoteShutter

namespace JsonNumber

/-- a whole number from `low` to `high` -/
def inRange (wanted : String) (low high : Int) : JsonNumber → Except Mismatch Int
  | natural n => if (n.toNat : Int) ≤ high then .ok n.toNat else .error (.wrongValue (.integer n.toNat) wanted)
  | negative z => if low ≤ z.toInt then .ok z.toInt else .error (.wrongValue (.integer z.toInt) wanted)
  | real x => .error (.wrongType (.real x) wanted)

def toUInt64 (n : JsonNumber) : Except Mismatch UInt64 :=
  (n.inRange "u64" 0 18446744073709551615).map fun z => z.toNat.toUInt64

def toUInt32 (n : JsonNumber) : Except Mismatch UInt32 :=
  (n.inRange "u32" 0 4294967295).map fun z => z.toNat.toUInt32

def toInt64 (n : JsonNumber) : Except Mismatch Int64 :=
  (n.inRange "i64" Int64.minValue.toInt Int64.maxValue.toInt).map fun z => z.toInt64

def toInt32 (n : JsonNumber) : Except Mismatch Int32 :=
  (n.inRange "i32" Int32.minValue.toInt Int32.maxValue.toInt).map fun z => z.toInt32

end JsonNumber

namespace Json

def toInt32 : Json → Except Mismatch Int32
  | number n => n.toInt32
  | j => .error (.wrongType (.ofJson j) "i32")

def toBool : Json → Except Mismatch Bool
  | bool b => .ok b
  | j => .error (.wrongType (.ofJson j) "a boolean")

end Json

end RemoteShutter
