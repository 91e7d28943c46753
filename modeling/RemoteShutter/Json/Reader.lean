/-
Reading JSON text as a value.

`Json.ofBytes` reads one value with blanks around it and nothing after it. Brackets may be nested 127 deep. Of equal
keys in an object the last one counts. `JsonReader.items` and `JsonReader.fields` hold the rules for commas: one between
neighbours, none before the first and none after the last.
-/
import RemoteShutter.Json.Lexeme

namespace RemoteShutter

namespace JsonReader

open JsonLexeme

/-- how deep brackets may be nested -/
def maxDepth : Nat := 127

/-- the items after the first bracket, and the closing bracket -/
def items {α : Type} (item : JsonReader α) : Nat → Array α → JsonReader (List α)
  | 0, _, _ => .error .cutShort
  | fuel + 1, seen, s =>
    match skipBlanks s with
    | [] => .error .cutShort
    | b :: r => do
      if b = byte ']' then return (seen.toList, r)
      let s ← if seen.isEmpty then pure (b :: r)
        else if b = byte ',' then
          match skipBlanks r with
          | [] => .error .cutShort
          | c :: r => if c = byte ']' then .error .malformed else pure (c :: r)
        else .error .malformed
      let (x, s) ← item s
      items item fuel (seen.push x) s

/-- what follows a key: a colon and a value -/
def afterKey {α : Type} (value : JsonReader α) : JsonReader α := fun s =>
  match skipBlanks s with
  | [] => .error .cutShort
  | b :: r => if b = byte ':' then value r else .error .malformed

/-- the start of the next field, up to the opening quote of its key; none at the closing brace, which stays -/
def nextKey (isFirst : Bool) (s : Bytes) : Except JsonFault (Option Bytes × Bytes) :=
  match skipBlanks s with
  | [] => .error .cutShort
  | b :: r =>
    if b = byte '\x7d' then .ok (none, b :: r)
    else if isFirst then if b = byte '"' then .ok (some r, r) else .error .malformed
    else if b = byte ',' then
      match skipBlanks r with
      | [] => .error .cutShort
      | c :: r => if c = byte '"' then .ok (some r, r) else .error .malformed
    else .error .malformed

/-- the fields after the opening brace, each taken in by `field`, up to the closing brace, which stays -/
def fields {σ : Type} (field : σ → String → JsonReader σ) : Nat → Bool → σ → JsonReader σ
  | 0, _, _, _ => .error .cutShort
  | fuel + 1, isFirst, state, s => do
    match ← nextKey isFirst s with
    | (none, s) => return (state, s)
    | (some s, _) =>
      let (key, s) ← string s
      let (state, s) ← field state key s
      fields field fuel false state s

/-- a value with `depth` more levels of brackets at most -/
def value : Nat → JsonReader Json := fun depth s =>
  match skipBlanks s with
  | [] => .error .cutShort
  | b :: r =>
    if b = byte 'n' then do
      let ((), r) ← word ['u', 'l', 'l'] r
      return (.null, r)
    else if b = byte 't' then do
      let ((), r) ← word ['r', 'u', 'e'] r
      return (.bool true, r)
    else if b = byte 'f' then do
      let ((), r) ← word ['a', 'l', 's', 'e'] r
      return (.bool false, r)
    else if b = byte '-' ∨ isDigit b then do
      let (n, r) ← number (b :: r)
      return (.number n, r)
    else if b = byte '"' then do
      let (t, r) ← string r
      return (.text t, r)
    else if b = byte '[' then
      match depth with
      | 0 => .error .malformed
      | depth + 1 => do
        let (xs, r) ← items (value depth) (r.length + 1) #[] r
        return (.array xs, r)
    else if b = byte '\x7b' then
      match depth with
      | 0 => .error .malformed
      | depth + 1 => do
        let field (seen : List (String × Json)) (key : String) : JsonReader (List (String × Json)) := fun s => do
          let (j, s) ← afterKey (value depth) s
          return (Json.insert key j seen, s)
        let (fs, r) ← fields field (r.length + 1) true [] r
        return (.object fs, r.drop 1)
    else .error .malformed

/-- nothing but blanks -/
def ending (s : Bytes) : Except JsonFault Unit :=
  if (skipBlanks s).isEmpty then .ok () else .error .malformed

/-- reads one value and nothing after it -/
def whole {α : Type} (read : JsonReader α) (s : Bytes) : Except JsonFault α := do
  let (x, rest) ← read s
  ending rest
  return x

end JsonReader

/-- the value that a text stands for -/
def Json.ofBytes (s : Bytes) : Except JsonFault Json :=
  JsonReader.whole (JsonReader.value JsonReader.maxDepth) s

end RemoteShutter
