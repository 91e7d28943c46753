/-
Passing over a JSON value that nobody wants.

The text is only looked at as far as needed to find its end: strings need not be valid UTF-8, numbers may be of any
size, and brackets may be nested to any depth. The open brackets are kept in a list.
-/
import RemoteShutter.Json.Reader

namespace RemoteShutter.JsonSkip

open JsonLexeme

/-- an open bracket -/
inductive Bracket where
  | array
  | object
  deriving DecidableEq

/-- passes the rest of a string -/
def string : Nat → Bytes → Except JsonFault Bytes
  | 0, _ => .error .cutShort
  | _, [] => .error .cutShort
  | fuel + 1, b :: s =>
    if b = byte '"' then .ok s
    else if b = byte '\\' then
      match s with
      | [] => .error .cutShort
      | c :: s =>
        if c = byte 'u' then do
          let (_, s) ← hexQuad s
          string fuel s
        else if ['"', '\\', '/', 'b', 'f', 'n', 'r', 't'].any (byte · = c) then string fuel s
        else .error .malformed
    else if b < 0x20 then .error .malformed
    else string fuel s

/-- passes digits, of which there is at least one -/
def digits : Bytes → Except JsonFault Bytes
  | [] => .error .malformed
  | b :: s => if isDigit b then .ok (s.dropWhile isDigit) else .error .malformed

/-- passes an exponent, if there is one -/
def exponent : Bytes → Except JsonFault Bytes
  | [] => .ok []
  | b :: s =>
    if b = byte 'e' ∨ b = byte 'E' then
      match s with
      | [] => .error .malformed
      | c :: r => if c = byte '+' ∨ c = byte '-' then digits r else digits (c :: r)
    else .ok (b :: s)

/-- passes a number after its sign -/
def number (s : Bytes) : Except JsonFault Bytes := do
  let rest ← digits s
  if s.head? = some (byte '0') ∧ rest.length + 1 ≠ s.length then .error .malformed
  else
    match rest with
    | [] => return []
    | b :: r =>
      if b = byte '.' then
        let r ← digits r
        exponent r
      else exponent (b :: r)

/-- passes a value that is no array and no object -/
def scalar (b : UInt8) (s : Bytes) : Except JsonFault Bytes :=
  if b = byte 'n' then (word ['u', 'l', 'l'] s).map (·.2)
  else if b = byte 't' then (word ['r', 'u', 'e'] s).map (·.2)
  else if b = byte 'f' then (word ['a', 'l', 's', 'e'] s).map (·.2)
  else if b = byte '-' then number s
  else if isDigit b then number (b :: s)
  else if b = byte '"' then string s.length s
  else .error .malformed

/-- passes a key and its colon -/
def key (s : Bytes) : Except JsonFault Bytes :=
  match skipBlanks s with
  | [] => .error .cutShort
  | b :: s =>
    if b = byte '"' then do
      let s ← string s.length s
      match skipBlanks s with
      | [] => .error .cutShort
      | c :: s => if c = byte ':' then .ok s else .error .malformed
    else .error .malformed

/-- what comes next -/
inductive Ahead where
  | value
  /-- the first item or field, or the closing bracket -/
  | first
  /-- a comma or the closing bracket -/
  | next

/-- passes all that belongs to the open brackets, the innermost of which comes first -/
def run : Nat → Ahead → List Bracket → Bytes → Except JsonFault Bytes
  | 0, _, _, _ => .error .cutShort
  | fuel + 1, ahead, opened, s =>
    match ahead, opened with
    | .value, _ =>
      match skipBlanks s with
      | [] => .error .cutShort
      | b :: s =>
        if b = byte '[' then run fuel .first (.array :: opened) s
        else if b = byte '\x7b' then run fuel .first (.object :: opened) s
        else do
          let s ← scalar b s
          run fuel .next opened s
    | _, [] => .ok s
    | _, bracket :: outer =>
      match skipBlanks s with
      | [] => .error .cutShort
      | b :: r =>
        let closing := match bracket with
          | .array => byte ']'
          | .object => byte '\x7d'
        if b = closing then run fuel .next outer r
        else do
          let s ← match ahead with
            | .next => if b = byte ',' then pure r else .error .malformed
            | _ => pure (b :: r)
          match bracket with
          | .array => run fuel .value opened s
          | .object =>
            let s ← key s
            run fuel .value opened s

/-- passes one value -/
def value : JsonReader Unit := fun s => do
  let rest ← run (2 * s.length + 2) .value [] s
  return ((), rest)

end RemoteShutter.JsonSkip
