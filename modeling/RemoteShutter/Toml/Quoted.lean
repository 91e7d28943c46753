/-
The four written forms of TOML text.

A basic text stands in double quotes and takes escapes; a literal one stands in single quotes and takes everything as it
is. Both have a form with three quotes, which may run over several lines and hold up to two of its own quotes in a row.
There a line end is read as one line feed however it is written, and one that follows the opening quotes does not count;
in a basic text, a backslash at the end of a line skips to the next character that is neither blank nor line end.

`written` chooses the first form that needs no escapes, and the basic one if there is none.
-/
import RemoteShutter.Text.Numeral

namespace RemoteShutter.Toml.Quoted

/-- a character that may stand in text or a comment as it is: neither a line end nor another control character -/
def isPlain (c : Char) : Bool :=
  c = '\t' || (' ' ≤ c && c ≠ '\x7f')

/-! ## Reading -/

/-- a character given by its code point in `n` hexadecimal digits -/
def codePoint? (n : Nat) (s : List Char) : Option (Char × List Char) := do
  let ds := s.take n
  let v ← Numeral.valueIn? 16 ds
  if ds.length = n ∧ v.isValidChar then some (Char.ofNat v, s.drop n) else none

/-- what stands after a backslash -/
def escape? : List Char → Option (Char × List Char)
  | 'b' :: s => some ('\x08', s)
  | 't' :: s => some ('\t', s)
  | 'n' :: s => some ('\n', s)
  | 'f' :: s => some ('\x0c', s)
  | 'r' :: s => some ('\r', s)
  | '"' :: s => some ('"', s)
  | '\\' :: s => some ('\\', s)
  | 'u' :: s => codePoint? 4 s
  | 'U' :: s => codePoint? 8 s
  | _ => none

theorem length_of_codePoint? {n : Nat} {s r : List Char} {c : Char} (h : codePoint? n s = some (c, r)) :
    r.length ≤ s.length := by
  simp only [codePoint?, Option.bind_eq_bind, Option.bind_eq_some_iff] at h
  obtain ⟨_, _, h⟩ := h
  split at h
  · simp only [Option.some.injEq, Prod.mk.injEq] at h
    obtain ⟨_, rfl⟩ := h
    simp
  · simp at h

theorem length_of_escape? {s r : List Char} {c : Char} (h : escape? s = some (c, r)) : r.length < s.length := by
  unfold escape? at h
  split at h
  case h_8 => exact Nat.lt_succ_of_le (length_of_codePoint? h)
  case h_9 => exact Nat.lt_succ_of_le (length_of_codePoint? h)
  case h_10 => simp at h
  all_goals
    simp only [Option.some.injEq, Prod.mk.injEq] at h
    obtain ⟨_, rfl⟩ := h
    simp

/-- more text in front of what has been read -/
def prepend (c : Char) (r : Option (List Char × List Char)) : Option (List Char × List Char) :=
  r.map fun (cs, s) => (c :: cs, s)

/-- the rest of a basic text on one line, whose opening quote has been read -/
def basic (s : List Char) : Option (List Char × List Char) :=
  match s with
  | [] => none
  | '"' :: s => some ([], s)
  | '\\' :: s =>
    match _h : escape? s with
    | none => none
    | some (c, r) => prepend c (basic r)
  | c :: s => if isPlain c then prepend c (basic s) else none
termination_by s.length
decreasing_by
  · have := length_of_escape? _h
    simp only [List.length_cons]
    omega
  · simp

/-- the rest of a literal text on one line -/
def literal : List Char → Option (List Char × List Char)
  | [] => none
  | '\x27' :: s => some ([], s)
  | c :: s => if isPlain c then prepend c (literal s) else none

/-- the text after all blanks and line ends -/
def skipLines : List Char → List Char
  | ' ' :: s => skipLines s
  | '\t' :: s => skipLines s
  | '\n' :: s => skipLines s
  | '\r' :: '\n' :: s => skipLines s
  | s => s

theorem length_skipLines (s : List Char) : (skipLines s).length ≤ s.length := by
  fun_induction skipLines s <;> simp_all <;> omega

/-- the text after a backslash at the end of a line and all blanks and line ends after it -/
def continued? (s : List Char) : Option (List Char) :=
  match s.dropWhile fun c => c = ' ' || c = '\t' with
  | '\n' :: r => some (skipLines r)
  | '\r' :: '\n' :: r => some (skipLines r)
  | _ => none

theorem length_dropWhile_le (p : Char → Bool) (s : List Char) : (s.dropWhile p).length ≤ s.length := by
  induction s with
  | nil => simp
  | cons c s ih =>
    simp only [List.dropWhile_cons]
    split
    · simp only [List.length_cons]
      omega
    · simp

theorem length_of_continued? {s r : List Char} (h : continued? s = some r) : r.length < s.length := by
  have hd := length_dropWhile_le (fun c => c = ' ' || c = '\t') s
  unfold continued? at h
  split at h
  next r' he =>
    simp only [Option.some.injEq] at h
    subst h
    have := length_skipLines r'
    rw [he] at hd
    simp only [List.length_cons] at hd
    omega
  next r' he =>
    simp only [Option.some.injEq] at h
    subst h
    have := length_skipLines r'
    rw [he] at hd
    simp only [List.length_cons] at hd
    omega
  next => simp at h

/-- the rest of a basic text on several lines -/
def longBasic (s : List Char) : Option (List Char × List Char) :=
  match s with
  | [] => none
  | '"' :: '"' :: '"' :: '"' :: '"' :: s => some (['"', '"'], s)
  | '"' :: '"' :: '"' :: '"' :: s => some (['"'], s)
  | '"' :: '"' :: '"' :: s => some ([], s)
  | '\\' :: s =>
    match _h : continued? s with
    | some r => longBasic r
    | none =>
      match _h : escape? s with
      | none => none
      | some (c, r) => prepend c (longBasic r)
  | '\n' :: s => prepend '\n' (longBasic s)
  | '\r' :: '\n' :: s => prepend '\n' (longBasic s)
  | c :: s => if isPlain c then prepend c (longBasic s) else none
termination_by s.length
decreasing_by
  · have := length_of_continued? _h
    simp only [List.length_cons]
    omega
  · have := length_of_escape? _h
    simp only [List.length_cons]
    omega
  all_goals
    simp only [List.length_cons]
    omega

/-- the rest of a literal text on several lines -/
def longLiteral : List Char → Option (List Char × List Char)
  | [] => none
  | '\x27' :: '\x27' :: '\x27' :: '\x27' :: '\x27' :: s => some (['\x27', '\x27'], s)
  | '\x27' :: '\x27' :: '\x27' :: '\x27' :: s => some (['\x27'], s)
  | '\x27' :: '\x27' :: '\x27' :: s => some ([], s)
  | '\n' :: s => prepend '\n' (longLiteral s)
  | '\r' :: '\n' :: s => prepend '\n' (longLiteral s)
  | c :: s => if isPlain c then prepend c (longLiteral s) else none

/-- the text after a line end that follows the opening quotes -/
def dropFirstEnd : List Char → List Char
  | '\n' :: s => s
  | '\r' :: '\n' :: s => s
  | s => s

/-- a text in any of its forms, opening quotes included -/
def read? : List Char → Option (List Char × List Char)
  | '"' :: '"' :: '"' :: s => longBasic (dropFirstEnd s)
  | '"' :: s => basic s
  | '\x27' :: '\x27' :: '\x27' :: s => longLiteral (dropFirstEnd s)
  | '\x27' :: s => literal s
  | _ => none

/-! ## Writing -/

inductive Form where
  | basic
  | literal
  | longBasic
  | longLiteral
  deriving DecidableEq, Repr

/-- a control character that has to be written as an escape; tabs and line feeds are not counted -/
def isControl (c : Char) : Bool :=
  c ≠ '\t' && c ≠ '\n' && (c < ' ' || c = '\x7f')

/-- the greatest number of times that `q` stands in a row, `now` of them just before `s` -/
def longestRun (q : Char) (now : Nat) : List Char → Nat
  | [] => now
  | c :: s => if c = q then longestRun q (now + 1) s else max now (longestRun q 0 s)

/-- the form that a text is written in -/
def formOf (s : List Char) : Form :=
  let hasEnd := s.contains '\n'
  let doubles := longestRun '"' 0 s
  let singles := longestRun '\x27' 0 s
  if s.any isControl then if hasEnd then .longBasic else .basic
  else if !s.contains '\\' && doubles = 0 && !hasEnd then .basic
  else if singles = 0 && !hasEnd then .literal
  else if !s.contains '\\' && doubles ≤ 2 then .longBasic
  else if singles ≤ 2 then .longLiteral
  else if hasEnd then .longBasic
  else .basic

/-- a character as an escape of its code point -/
def escapedPoint (c : Char) : List Char :=
  let ds := (Nat.toDigits 16 c.toNat).map Char.toUpper
  '\\' :: 'u' :: List.replicate (4 - ds.length) '0' ++ ds

/-- a character of a basic text, which is no quote -/
def escaped (isLong : Bool) (c : Char) : List Char :=
  if c = '\x08' then ['\\', 'b']
  else if c = '\t' then ['\\', 't']
  else if c = '\n' then if isLong then ['\n'] else ['\\', 'n']
  else if c = '\x0c' then ['\\', 'f']
  else if c = '\r' then ['\\', 'r']
  else if c = '\\' then ['\\', '\\']
  else if isPlain c then [c]
  else escapedPoint c

/-- the inside of a basic text; `quotes` more may follow in a row without an escape -/
def basicBody (isLong : Bool) (quotes : Nat) : List Char → List Char
  | [] => []
  | '"' :: s =>
    match quotes with
    | 0 => '\\' :: '"' :: basicBody isLong (if isLong then 2 else 0) s
    | n + 1 => '"' :: basicBody isLong n s
  | c :: s => escaped isLong c ++ basicBody isLong (if isLong then 2 else 0) s

/-- a text in a form -/
def write (f : Form) (s : List Char) : List Char :=
  let lead := if s.contains '\n' then ['\n'] else []
  match f with
  | .basic => '"' :: basicBody false 0 s ++ ['"']
  | .literal => '\x27' :: s ++ ['\x27']
  | .longBasic => ['"', '"', '"'] ++ lead ++ basicBody true 2 s ++ ['"', '"', '"']
  | .longLiteral => ['\x27', '\x27', '\x27'] ++ lead ++ s ++ ['\x27', '\x27', '\x27']

/-- a text as it is written -/
def written (s : String) : String :=
  String.ofList (write (formOf s.toList) s.toList)

end RemoteShutter.Toml.Quoted
