/-
JSON values.

Whole numbers that fit 64 bits are kept exactly, all others as doubles. The fields of an object are kept in the order of
their keys, each key once; `Json.insert` replaces the value of a key that is already there.
-/

namespace RemoteShutter

/-- a JSON number; `negative` holds numbers below zero only -/
inductive JsonNumber where
  | natural (n : UInt64)
  | negative (n : Int64)
  | real (x : Float)

inductive Json where
  | null
  | bool (b : Bool)
  | number (n : JsonNumber)
  | text (s : String)
  | array (items : List Json)
  | object (fields : List (String × Json))

namespace Json

/-- puts a field in its place among fields that are sorted by key -/
def insert (key : String) (value : Json) : List (String × Json) → List (String × Json)
  | [] => [(key, value)]
  | (k, v) :: rest =>
    if key = k then (key, value) :: rest
    else if key < k then (key, value) :: (k, v) :: rest
    else (k, v) :: insert key value rest

/-- the value of a key; none also if this is no object -/
def field? (j : Json) (key : String) : Option Json :=
  match j with
  | object fields => fields.lookup key
  | _ => none

/-- a natural number that fits 64 bits -/
def natural? : Json → Option UInt64
  | number (.natural n) => some n
  | _ => none

def ofNat (n : Nat) : Json :=
  number (.natural n.toUInt64)

/-- a whole number that fits 64 bits -/
def ofInt (z : Int) : Json :=
  if z < 0 then number (.negative z.toInt64) else number (.natural z.toNat.toUInt64)

end Json

end RemoteShutter
