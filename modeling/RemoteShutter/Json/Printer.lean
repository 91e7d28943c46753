/-
JSON text without blanks.

`Json.compact` writes the fields of an object in their order. In strings, quotes, backslashes and controls are escaped,
and every other character stands for itself.
-/
import RemoteShutter.Json.Fault

namespace RemoteShutter

namespace JsonNumber

def compact : JsonNumber → List Char
  | natural n => Numeral.digits n.toNat
  | negative n => Numeral.ofInt n.toInt
  | real x => Decimal.ofFloat x Found.numberStyle

end JsonNumber

namespace Json

/-- one character of a string -/
def escapeChar (c : Char) : List Char :=
  if c = '"' then ['\\', '"']
  else if c = '\\' then ['\\', '\\']
  else if c = '\x08' then ['\\', 'b']
  else if c = '\x0c' then ['\\', 'f']
  else if c = '\n' then ['\\', 'n']
  else if c = '\r' then ['\\', 'r']
  else if c = '\t' then ['\\', 't']
  else if c.toNat < 0x20 then
    ['\\', 'u', '0', '0'] ++ (if c.toNat < 16 then ['0'] else []) ++ Quoted.hexDigits c.toNat
  else [c]

def compactText (s : String) : List Char :=
  '"' :: s.toList.flatMap escapeChar ++ ['"']

mutual

def compactChars : Json → List Char
  | null => ['n', 'u', 'l', 'l']
  | bool b => if b then ['t', 'r', 'u', 'e'] else ['f', 'a', 'l', 's', 'e']
  | number n => n.compact
  | text s => compactText s
  | array [] => ['[', ']']
  | array (j :: js) => '[' :: (compactChars j ++ compactItems js ++ [']'])
  | object [] => ['\x7b', '\x7d']
  | object ((k, j) :: fs) => '\x7b' :: (compactText k ++ ':' :: (compactChars j ++ compactFields fs ++ ['\x7d']))

/-- the items after the first -/
def compactItems : List Json → List Char
  | [] => []
  | j :: js => ',' :: (compactChars j ++ compactItems js)

/-- the fields after the first -/
def compactFields : List (String × Json) → List Char
  | [] => []
  | (k, j) :: fs => ',' :: (compactText k ++ ':' :: (compactChars j ++ compactFields fs))

end

def compact (j : Json) : String :=
  String.ofList j.compactChars

end Json

end RemoteShutter
