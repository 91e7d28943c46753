/-
Reading JSON text straight into a type, without a value in between.

Faults are found in the order of the text. A record is an object with the fields in any order, each at most once,
unknown ones passed over, or an array with all of them in order. A name of a choice is a string, or an object with that
name as its only key and null as its value; anything else in its place is malformed.
-/
import RemoteShutter.Json.Skip

namespace RemoteShutter.JsonReader

open JsonLexeme

/-- the fault of a value that starts here and is none of what is wanted -/
def mismatch (wanted : String) (s : Bytes) : JsonFault :=
  let wrong (found : Found) : JsonFault := .mismatch (.wrongType found wanted)
  match s with
  | [] => .cutShort
  | b :: r =>
    if b = byte 'n' then
      match word ['u', 'l', 'l'] r with
      | .ok _ => wrong .null
      | .error e => e
    else if b = byte 't' then
      match word ['r', 'u', 'e'] r with
      | .ok _ => wrong (.bool true)
      | .error e => e
    else if b = byte 'f' then
      match word ['a', 'l', 's', 'e'] r with
      | .ok _ => wrong (.bool false)
      | .error e => e
    else if b = byte '-' ∨ isDigit b then
      match number (b :: r) with
      | .ok (n, _) => wrong (.ofNumber n)
      | .error e => e
    else if b = byte '"' then
      match string r with
      | .ok (t, _) => wrong (.text t)
      | .error e => e
    else if b = byte '[' then wrong .sequence
    else if b = byte '\x7b' then wrong .map
    else .malformed

/-- a number that `convert` takes -/
def numberAs {α : Type} (wanted : String) (convert : JsonNumber → Except Mismatch α) : JsonReader α := fun s =>
  match skipBlanks s with
  | [] => .error .cutShort
  | b :: r =>
    if b = byte '-' ∨ isDigit b then do
      let (n, rest) ← number (b :: r)
      match convert n with
      | .ok x => return (x, rest)
      | .error m => .error (.mismatch m)
    else .error (mismatch wanted (b :: r))

def boolean : JsonReader Bool := fun s =>
  match skipBlanks s with
  | [] => .error .cutShort
  | b :: r =>
    if b = byte 't' then (word ['r', 'u', 'e'] r).map fun (_, r) => (true, r)
    else if b = byte 'f' then (word ['a', 'l', 's', 'e'] r).map fun (_, r) => (false, r)
    else .error (mismatch "a boolean" (b :: r))

/-- null, or a value -/
def optional {α : Type} (read : JsonReader α) : JsonReader (Option α) := fun s =>
  match skipBlanks s with
  | [] => .error .cutShort
  | b :: r =>
    if b = byte 'n' then (word ['u', 'l', 'l'] r).map fun (_, r) => (none, r)
    else (read (b :: r)).map fun (x, r) => (some x, r)

def nothing : JsonReader Unit := fun s =>
  match skipBlanks s with
  | [] => .error .cutShort
  | b :: r =>
    if b = byte 'n' then word ['u', 'l', 'l'] r else .error (mismatch "unit" (b :: r))

/-- the name of a choice, whose opening quote has been read -/
def choiceName {α : Type} (choices : List (String × α)) : JsonReader α := fun s => do
  let (name, s) ← string s
  match choices.lookup name with
  | some x => return (x, s)
  | none => .error (.mismatch (.unknownVariant name (choices.map (·.1))))

def choice {α : Type} (choices : List (String × α)) : JsonReader α := fun s =>
  match skipBlanks s with
  | [] => .error .cutShort
  | b :: r =>
    if b = byte '"' then choiceName choices r
    else if b = byte '\x7b' then
      match skipBlanks r with
      | [] => .error .cutShort
      | c :: r =>
        if c = byte '"' then do
          let (x, r) ← choiceName choices r
          let ((), r) ← afterKey nothing r
          match skipBlanks r with
          | [] => .error .cutShort
          | d :: r => if d = byte '\x7d' then return (x, r) else .error .malformed
        else .error .malformed
    else .error .malformed

/-- one field of a record that is being filled in -/
structure RecordField (σ : Type) where
  key : String
  isFilled : σ → Bool
  read : σ → JsonReader σ
  /-- what the record becomes if the field is left out; none if it must be there -/
  leftOut : σ → Option σ

/-- a record: what it is called, and its fields in order -/
structure Record (σ : Type) where
  name : String
  fields : List (RecordField σ)

namespace Record

variable {σ : Type}

def wanted (r : Record σ) : String :=
  "struct " ++ r.name

/-- takes in one field of an object -/
def field (r : Record σ) (state : σ) (key : String) : JsonReader σ :=
  match r.fields.find? (·.key = key) with
  | none => afterKey fun s => (JsonSkip.value s).map fun (_, rest) => (state, rest)
  | some f =>
    if f.isFilled state then fun _ => .error (.mismatch (.duplicate key)) else afterKey (f.read state)

/-- fills in the fields that an object left out -/
def complete (state : σ) : List (RecordField σ) → Except JsonFault σ
  | [] => .ok state
  | f :: fs =>
    if f.isFilled state then complete state fs
    else
      match f.leftOut state with
      | some state => complete state fs
      | none => .error (.mismatch (.missing f.key))

/-- the items of an array, in the order of the fields -/
def positions (wanted : String) : List (RecordField σ) → Nat → σ → JsonReader σ
  | [], _, state, s => .ok (state, s)
  | f :: fs, i, state, s =>
    match skipBlanks s with
    | [] => .error .cutShort
    | b :: r =>
      if b = byte ']' then
        match f.leftOut state with
        | some state => positions wanted fs (i + 1) state (b :: r)
        | none => .error (.mismatch (.wrongLength i wanted))
      else do
        let s ← if i = 0 then pure (b :: r)
          else if b = byte ',' then
            match skipBlanks r with
            | [] => .error .cutShort
            | c :: r => if c = byte ']' then .error .malformed else pure (c :: r)
          else .error .malformed
        let (state, s) ← f.read state s
        positions wanted fs (i + 1) state s

/-- reads a record, starting from one with no field filled in -/
def read (r : Record σ) (empty : σ) : JsonReader σ := fun s =>
  match skipBlanks s with
  | [] => .error .cutShort
  | b :: s =>
    if b = byte '[' then do
      let (state, s) ← positions s!"{r.wanted} with {r.fields.length} elements" r.fields 0 empty s
      match skipBlanks s with
      | [] => .error .cutShort
      | c :: s => if c = byte ']' then return (state, s) else .error .malformed
    else if b = byte '\x7b' then do
      let (state, s) ← JsonReader.fields r.field (s.length + 1) true empty s
      let state ← complete state r.fields
      return (state, s.drop 1)
    else .error (mismatch r.wanted (b :: s))

end Record

end RemoteShutter.JsonReader
