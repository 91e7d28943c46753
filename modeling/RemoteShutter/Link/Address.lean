/-
Addresses of clients on a network.

An address is four bytes, or eight groups of sixteen bits with a scope, and a port. `ofText?` reads one and `text`
writes it, in one form for each: of the groups, the longest run of zeros is left out if it has more than one, of equally
long runs the first; groups that only carry four bytes are written as these.
-/
import RemoteShutter.Text.Numeral

namespace RemoteShutter

inductive Address where
  | four (a b c d : UInt8) (port : UInt16)
  | eight (groups : Vector UInt16 8) (scope : UInt32) (port : UInt16)
  deriving DecidableEq, Repr

namespace Address

/-! ## Reading -/

/-- a number at the beginning of a text, of at most `width` digits if that is said, and what follows it -/
def number? (base : Nat) (width : Option Nat) (cs : List Char) : Option (Nat × List Char) :=
  let ds := cs.takeWhile fun c => (Numeral.digitIn? base c).isSome
  if ds.isEmpty || width.any (· < ds.length) then none
  else (Numeral.valueIn? base ds).map fun n => (n, cs.drop ds.length)

/-- a byte in decimal; none but zero itself begins with a zero -/
def byte? (cs : List Char) : Option (UInt8 × List Char) := do
  let (n, rest) ← number? 10 (some 3) cs
  if 255 < n || (cs.head? = some '0' && cs.length ≠ rest.length + 1) then none else return (n.toUInt8, rest)

/-- passes over one character -/
def past? (c : Char) : List Char → Option (List Char)
  | [] => none
  | d :: r => if d = c then some r else none

structure FourBytes where
  a : UInt8
  b : UInt8
  c : UInt8
  d : UInt8

def fourBytes? (cs : List Char) : Option (FourBytes × List Char) := do
  let (a, cs) ← byte? cs
  let (b, cs) ← (past? '.' cs).bind byte?
  let (c, cs) ← (past? '.' cs).bind byte?
  let (d, cs) ← (past? '.' cs).bind byte?
  return (⟨a, b, c, d⟩, cs)

/-- two bytes as a group -/
def group (high low : UInt8) : UInt16 :=
  (high.toNat * 256 + low.toNat).toUInt16

/-- groups that were read, whether the last two were four bytes, and what follows -/
structure Groups where
  found : List UInt16 := []
  endsInBytes : Bool := false
  rest : List Char

/-- at most `n` groups, with colons between them, and one in front unless it is the first -/
def groups (isFirst : Bool) : Nat → List Char → Groups
  | 0, cs => { rest := cs }
  | n + 1, cs =>
    match if isFirst then some cs else past? ':' cs with
    | none => { rest := cs }
    | some inner =>
      match if n = 0 then none else fourBytes? inner with
      | some (⟨a, b, c, d⟩, rest) => ⟨[group a b, group c d], true, rest⟩
      | none =>
        match number? 16 (some 4) inner with
        | some (g, rest) =>
          let more := groups false n rest
          { more with found := g.toUInt16 :: more.found }
        | none => { rest := cs }

/-- eight groups; two colons stand for at least one group of zero -/
def eightGroups? (cs : List Char) : Option (Vector UInt16 8 × List Char) := do
  let front := groups true 8 cs
  let full (gs : List UInt16) (rest : List Char) : Option (Vector UInt16 8 × List Char) :=
    if h : gs.length = 8 then some (⟨gs.toArray, by simp [h]⟩, rest) else none
  if front.found.length = 8 then full front.found front.rest
  else if front.endsInBytes then none
  else
    let rest ← (past? ':' front.rest).bind (past? ':')
    let back := groups true (7 - front.found.length) rest
    let gap := 8 - front.found.length - back.found.length
    full (front.found ++ List.replicate gap 0 ++ back.found) back.rest

/-- the port, which ends an address -/
def port? (cs : List Char) : Option UInt16 := do
  let cs ← past? ':' cs
  let (n, rest) ← number? 10 none cs
  if rest.isEmpty && n ≤ 65535 then return n.toUInt16 else none

/-- the scope of eight groups; zero if none is given -/
def scope? (cs : List Char) : Option (UInt32 × List Char) :=
  match past? '%' cs with
  | none => some (0, cs)
  | some cs => do
    let (n, rest) ← number? 10 none cs
    if n ≤ 4294967295 then return (n.toUInt32, rest) else none

def ofText? (s : String) : Option Address :=
  match s.toList with
  | '[' :: cs => do
    let (groups, cs) ← eightGroups? cs
    let (scope, cs) ← scope? cs
    let port ← (past? ']' cs).bind port?
    return .eight groups scope port
  | cs => do
    let (⟨a, b, c, d⟩, cs) ← fourBytes? cs
    return .four a b c d (← port? cs)

/-! ## Writing -/

def highByte (g : UInt16) : UInt8 :=
  (g.toNat / 256).toUInt8

def bytesText (a b c d : UInt8) : String :=
  s!"{a.toNat}.{b.toNat}.{c.toNat}.{d.toNat}"

def groupsPart (gs : List UInt16) : String :=
  ":".intercalate (gs.map fun g => String.ofList (Nat.toDigits 16 g.toNat))

/-- where the longest run of zeros begins, and how many there are -/
def longestGap (gs : List UInt16) : Nat × Nat :=
  (List.range gs.length).foldl
    (fun best i =>
      let n := ((gs.drop i).takeWhile (· = 0)).length
      if best.2 < n then (i, n) else best)
    (0, 0)

def groupsText (gs : List UInt16) : String :=
  match gs with
  | [0, 0, 0, 0, 0, 65535, g, h] =>
    "::ffff:" ++ bytesText (highByte g) g.toUInt8 (highByte h) h.toUInt8
  | _ =>
    let (start, n) := longestGap gs
    if 1 < n then groupsPart (gs.take start) ++ "::" ++ groupsPart (gs.drop (start + n)) else groupsPart gs

def text : Address → String
  | four a b c d port => s!"{bytesText a b c d}:{port.toNat}"
  | eight gs scope port =>
    let scope := if scope = 0 then "" else s!"%{scope.toNat}"
    s!"[{groupsText gs.toList}{scope}]:{port.toNat}"

end Address

end RemoteShutter
