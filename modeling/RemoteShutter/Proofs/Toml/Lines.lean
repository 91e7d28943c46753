/-
The lines of a document are read as what they say.

A document is cut into lines: a pair, or the header of a table. A line holds all of a text that it sets, even where that
runs over several lines of the file.
- `text?_eq_lines`: the text of a document is that of its lines, one after the other.
- `statement_pair`, `statement_header`: what is read from one line, whatever follows it.
- `statements_lines`: so each line of a text is read as what it says, whichever lines stand there.
-/
import RemoteShutter.Proofs.Toml.Scalars

namespace RemoteShutter.Toml

open TomlEntries (Statement)

variable {c : Char} {s t r : List Char} {k name : String}

/-! ## Lines -/

/-- a pair in a table, or the header of a table -/
inductive Line where
  | pair (above : List String) (key : String) (v : TomlScalar)
  | header (name : String)
  deriving DecidableEq, Repr

namespace Line

/-- the keys that lead to what a line sets -/
def path : Line → List String
  | pair above key _ => above ++ [key]
  | header name => [name]

/-- the last of them -/
def key : Line → String
  | pair _ key _ => key
  | header name => name

def text? : Line → Option String
  | pair _ key v => pairLine? (key, v)
  | header name => some ("\n[" ++ name ++ "]\n")

/-- what a reader makes of a line -/
def statement : Line → Statement
  | pair _ key v => .pair { last := key } (.scalar v)
  | header name => .header { last := name }

end Line

/-- the lines of pairs in a table -/
def pairLines (above : List String) (ps : Pairs) : List Line :=
  ps.map fun p => .pair above p.1 p.2

/-- the lines of a document -/
def lines (ps : Pairs) (tables : List (String × Pairs)) : List Line :=
  pairLines [] ps ++ tables.flatMap fun t => .header t.1 :: pairLines [t.1] t.2

/-- the text of lines, one after the other -/
def linesText? (ls : List Line) : Option String :=
  (ls.mapM Line.text?).map String.join

theorem linesText?_append (ls ms : List Line) :
    linesText? (ls ++ ms) = (linesText? ls).bind fun s => (linesText? ms).map (s ++ ·) := by
  rw [linesText?, linesText?, linesText?, List.mapM_append]
  cases ls.mapM Line.text? with
  | none => rfl
  | some ss =>
    cases ms.mapM Line.text? with
    | none => rfl
    | some ts => exact congrArg some String.join_append

theorem linesText?_cons (l : Line) (ls : List Line) :
    linesText? (l :: ls) = l.text?.bind fun s => (linesText? ls).map (s ++ ·) := by
  rw [linesText?, linesText?, List.mapM_cons]
  cases l.text? with
  | none => rfl
  | some s =>
    cases ls.mapM Line.text? with
    | none => rfl
    | some ss => exact congrArg some String.join_cons

theorem linesText?_pairLines (above : List String) (ps : Pairs) : linesText? (pairLines above ps) = pairLines? ps := by
  rw [linesText?, pairLines, List.mapM_map]
  rfl

/-- **The text of a document is that of its lines.** -/
theorem text?_eq_lines (ps : Pairs) (tables : List (String × Pairs)) :
    text? ps tables = linesText? (lines ps tables) := by
  have htables : linesText? (tables.flatMap fun t => .header t.1 :: pairLines [t.1] t.2) =
      (tables.mapM tableLines?).map String.join := by
    induction tables with
    | nil => rfl
    | cons t ts ih =>
      rw [List.flatMap_cons, linesText?_append, linesText?_cons, linesText?_pairLines, ih, List.mapM_cons, tableLines?]
      cases pairLines? t.2 with
      | none => rfl
      | some s =>
        cases ts.mapM tableLines? with
        | none => rfl
        | some ss => exact congrArg some String.join_cons.symm
  rw [lines, linesText?_append, linesText?_pairLines, htables, text?]
  cases pairLines? ps with
  | none => rfl
  | some s =>
    cases tables.mapM tableLines? with
    | none => rfl
    | some ss => rfl

/-- lines have a text if each of them has one -/
theorem isSome_linesText?_iff (ls : List Line) : (linesText? ls).isSome = true ↔ ∀ l ∈ ls, l.text?.isSome = true := by
  induction ls with
  | nil => exact ⟨fun _ => nofun, fun _ => rfl⟩
  | cons l ls ih =>
    rw [List.forall_mem_cons, ← ih, linesText?_cons]
    cases l.text? with
    | none => exact ⟨nofun, fun h => h.1⟩
    | some s =>
      cases linesText? ls with
      | none => exact ⟨nofun, fun h => h.2⟩
      | some ss => exact ⟨fun _ => ⟨rfl, rfl⟩, fun _ => rfl⟩

/-! ## Keys -/

/-- a key that needs no quotes -/
def IsBareKey (k : String) : Prop :=
  k.toList ≠ [] ∧ ∀ c ∈ k.toList, isBare c = true

instance : DecidablePred IsBareKey := fun k =>
  @instDecidableAnd _ _ inferInstance (List.decidableBAll (fun c => isBare c = true) k.toList)

/-- such a key begins with no character that has a meaning of its own -/
theorem IsBareKey.exists_cons (h : IsBareKey k) : ∃ c cs, k.toList = c :: cs ∧ isBare c = true := by
  obtain ⟨c, cs, hk⟩ := List.exists_cons_of_ne_nil h.1
  exact ⟨c, cs, hk, h.2 c (hk ▸ List.mem_cons_self)⟩

theorem isBlank_of_isBare (hc : isBare c = true) : isBlank c = false := by
  rw [isBlank, Bool.or_eq_false_iff, decide_eq_false_iff_not, decide_eq_false_iff_not]
  exact ⟨ne_of_kind hc (by decide), ne_of_kind hc (by decide)⟩

theorem skipBlanks_of_not_blank (hc : isBlank c = false) (s : List Char) : skipBlanks (c :: s) = c :: s :=
  List.dropWhile_cons_of_neg (Bool.eq_false_iff.1 hc)

theorem simpleKey_append (h : IsBareKey k) (hc : isBare c = false) (s : List Char) :
    simpleKey (k.toList ++ c :: s) = some (k, c :: s) := by
  have htake : (k.toList ++ c :: s).takeWhile isBare = k.toList := by
    rw [List.takeWhile_append_of_pos h.2, List.takeWhile_cons_of_neg (Bool.eq_false_iff.1 hc), List.append_nil]
  have hdrop : (k.toList ++ c :: s).dropWhile isBare = c :: s := by
    rw [List.dropWhile_append_of_pos h.2, List.dropWhile_cons_of_neg (Bool.eq_false_iff.1 hc)]
  have hquote : ∀ d t, isBare d = false → k.toList ++ c :: s = d :: t → False := by
    intro d t hd heq
    obtain ⟨b, bs, hk, hb⟩ := h.exists_cons
    rw [hk] at heq
    exact ne_of_kind hb hd (List.cons.inj heq).1
  rw [simpleKey, htake, hdrop]
  · have hsome : ¬ k.toList.isEmpty = true := fun hempty => h.1 (List.isEmpty_iff.1 hempty)
    simp only [if_neg hsome, String.ofList_toList]
  · exact fun t => hquote '"' t rfl
  · exact fun t => hquote '\x27' t rfl

/-- a key is read up to the first character that is neither part of it nor a blank -/
theorem key_append (h : IsBareKey k) (hc : isBare c = false) (hdot : ∀ t, skipBlanks (c :: s) = '.' :: t → False) :
    key (k.toList ++ c :: s) = some ({ last := k }, skipBlanks (c :: s)) := by
  have hbegin : skipBlanks (k.toList ++ c :: s) = k.toList ++ c :: s := by
    obtain ⟨b, bs, hk, hb⟩ := h.exists_cons
    rw [hk]
    exact skipBlanks_of_not_blank (isBlank_of_isBare hb) _
  rw [key, mostParts, keyPath, hbegin, simpleKey_append h hc]
  simp only [Option.bind_eq_bind, Option.bind_some]
  rfl

/-! ## Statements -/

theorem toList_pairLine (k text : String) (r : List Char) :
    (k ++ " = " ++ text ++ "\n").toList ++ r = k.toList ++ ' ' :: '=' :: ' ' :: (text.toList ++ '\n' :: r) := by
  simp

theorem toList_headerLine (name : String) (r : List Char) :
    ("\n[" ++ name ++ "]\n").toList ++ r = '\n' :: '[' :: (name.toList ++ ']' :: '\n' :: r) := by
  simp

/-- a pair is read from its line -/
theorem statement_pair {v : TomlScalar} {text : String} (hk : IsBareKey k) (h : v.written? = some text)
    (r : List Char) :
    statement (k.toList ++ ' ' :: '=' :: ' ' :: (text.toList ++ '\n' :: r)) =
      some (.pair { last := k } (.scalar v), r) := by
  have hvalue := plainValue_written h r
  have hkey : key (k.toList ++ ' ' :: '=' :: ' ' :: (text.toList ++ '\n' :: r)) =
      some ({ last := k }, '=' :: ' ' :: (text.toList ++ '\n' :: r)) :=
    key_append hk rfl fun t h => absurd (List.cons.inj h).1 (by decide)
  have hskip : skipBlanks (' ' :: (text.toList ++ '\n' :: r)) = text.toList ++ '\n' :: r :=
    skipBlanks_of_plainValue hvalue
  have hpair : pair (value mostDepth) (k.toList ++ ' ' :: '=' :: ' ' :: (text.toList ++ '\n' :: r)) =
      some (({ last := k }, .scalar v), '\n' :: r) := by
    simp only [pair, hkey, Option.bind_eq_bind, Option.bind_some, expect?, if_true, hskip,
      value_of_plainValue mostDepth hvalue]
    rfl
  have hbracket : ∀ t, k.toList ++ ' ' :: '=' :: ' ' :: (text.toList ++ '\n' :: r) = '[' :: t → False := by
    intro t heq
    obtain ⟨b, bs, hk', hb⟩ := hk.exists_cons
    rw [hk'] at heq
    exact ne_of_kind hb rfl (List.cons.inj heq).1
  rw [statement, hpair]
  · rfl
  · exact fun t => hbracket ('[' :: t)
  · exact hbracket

/-- a header is read from its line -/
theorem statement_header (h : IsBareKey name) (r : List Char) :
    statement ('[' :: (name.toList ++ ']' :: '\n' :: r)) = some (.header { last := name }, r) := by
  have hkey : key (name.toList ++ ']' :: '\n' :: r) = some ({ last := name }, ']' :: '\n' :: r) :=
    key_append h rfl fun t h => absurd (List.cons.inj h).1 (by decide)
  rw [statement, hkey]
  · rfl
  · intro t heq
    obtain ⟨b, bs, hk, hb⟩ := h.exists_cons
    rw [hk] at heq
    exact ne_of_kind hb rfl (List.cons.inj heq).1

/-- a line that begins with neither a blank nor a line end nor a comment is a statement -/
theorem statements_succ {line : Statement} {ss : List Statement} {fuel : Nat} (hblank : isBlank c = false)
    (hfeed : c ≠ '\n') (hreturn : c ≠ '\r') (hcomment : c ≠ '#') (hline : statement (c :: s) = some (line, r))
    (hrest : statements fuel r = some ss) : statements (fuel + 1) (c :: s) = some (line :: ss) := by
  rw [statements, skipBlanks_of_not_blank hblank]
  split
  · next heq => cases heq
  · next heq => exact absurd (List.cons.inj heq).1 hfeed
  · next heq => exact absurd (List.cons.inj heq).1 hreturn
  · next heq => exact absurd (List.cons.inj heq).1 hcomment
  · rw [hline]
    simp only [Option.bind_eq_bind, Option.bind_some, hrest]
    rfl

/-- **Lines are read as what they say**, whichever they are. -/
theorem statements_lines {ls : List Line} {text : String} (hbare : ∀ l ∈ ls, IsBareKey l.key)
    (h : linesText? ls = some text) {fuel : Nat} (hfuel : text.toList.length < fuel) :
    statements fuel text.toList = some (ls.map Line.statement) := by
  induction ls generalizing text fuel with
  | nil =>
    cases h
    obtain ⟨fuel, rfl⟩ := Nat.exists_eq_succ_of_ne_zero (Nat.ne_zero_of_lt hfuel)
    rfl
  | cons l ls ih =>
    obtain ⟨hl, hls⟩ := List.forall_mem_cons.1 hbare
    rw [linesText?_cons, Option.bind_eq_some_iff] at h
    obtain ⟨front, hfront, h⟩ := h
    obtain ⟨rest, hrest, rfl⟩ := Option.map_eq_some_iff.1 h
    rw [String.toList_append] at hfuel ⊢
    obtain ⟨b, bs, hkey, hb⟩ := hl.exists_cons
    cases l with
    | pair above k v =>
      obtain ⟨text, htext, rfl⟩ := Option.map_eq_some_iff.1 hfront
      have hline : statement (k.toList ++ ' ' :: '=' :: ' ' :: (text.toList ++ '\n' :: rest.toList)) =
          some (.pair { last := k } (.scalar v), rest.toList) := statement_pair hl htext rest.toList
      rw [toList_pairLine] at hfuel ⊢
      dsimp only [Line.key] at hkey hfuel ⊢
      rw [hkey] at hline hfuel ⊢
      obtain ⟨fuel, rfl⟩ := Nat.exists_eq_succ_of_ne_zero (Nat.ne_zero_of_lt hfuel)
      have hrest' : statements fuel rest.toList = some (ls.map Line.statement) := by
        refine ih hls hrest ?_
        simp only [List.cons_append, List.length_cons, List.length_append] at hfuel
        omega
      exact statements_succ (isBlank_of_isBare hb) (ne_of_kind hb rfl) (ne_of_kind hb rfl) (ne_of_kind hb rfl)
        hline hrest'
    | header name =>
      obtain rfl := Option.some.inj hfront
      have hline : statement ('[' :: (name.toList ++ ']' :: '\n' :: rest.toList)) =
          some (.header { last := name }, rest.toList) := statement_header hl rest.toList
      rw [toList_headerLine] at hfuel ⊢
      obtain ⟨fuel, rfl⟩ : ∃ m, fuel = m + 2 := ⟨fuel - 2, by simp only [List.length_cons] at hfuel; omega⟩
      have hrest' : statements fuel rest.toList = some (ls.map Line.statement) := by
        refine ih hls hrest ?_
        simp only [List.length_cons, List.length_append] at hfuel
        omega
      -- the empty line in front of a header is skipped
      calc statements (fuel + 2) ('\n' :: '[' :: (name.toList ++ ']' :: '\n' :: rest.toList))
          = statements (fuel + 1) ('[' :: (name.toList ++ ']' :: '\n' :: rest.toList)) := rfl
        _ = some (.header { last := name } :: ls.map Line.statement) :=
            statements_succ (by decide) (by decide) (by decide) (by decide) hline hrest'

/-- a line begins with its key or with a line end -/
theorem Line.begins {l : Line} {text : String} (hbare : IsBareKey l.key) (h : l.text? = some text) :
    ∃ c cs, text.toList = c :: cs ∧ (isBare c = true ∨ c = '\n') := by
  cases l with
  | pair above k v =>
    obtain ⟨value, -, rfl⟩ := Option.map_eq_some_iff.1 h
    obtain ⟨b, bs, hkey, hb⟩ := hbare.exists_cons
    have htext := toList_pairLine k value []
    rw [show k.toList = b :: bs from hkey, List.append_nil] at htext
    exact ⟨b, _, htext, .inl hb⟩
  | header name =>
    obtain rfl := Option.some.inj h
    have htext := toList_headerLine name []
    rw [List.append_nil] at htext
    exact ⟨'\n', _, htext, .inr rfl⟩

/-- so none begins with the mark that may stand in front of a document -/
theorem unmarked_lines {ls : List Line} {text : String} (hbare : ∀ l ∈ ls, IsBareKey l.key)
    (h : linesText? ls = some text) : unmarked text.toList = text.toList := by
  have hmark : ∀ t, text.toList ≠ '\ufeff' :: t := by
    intro t heq
    cases ls with
    | nil =>
      cases h
      cases heq
    | cons l ls =>
      rw [linesText?_cons, Option.bind_eq_some_iff] at h
      obtain ⟨front, hfront, h⟩ := h
      obtain ⟨rest, -, rfl⟩ := Option.map_eq_some_iff.1 h
      obtain ⟨c, cs, hc, hbegins⟩ := Line.begins (hbare l List.mem_cons_self) hfront
      rw [String.toList_append, hc] at heq
      obtain rfl := (List.cons.inj heq).1
      rcases hbegins with hbegins | hbegins
      · revert hbegins
        decide
      · exact absurd hbegins (by decide)
  unfold unmarked
  split
  · next heq => exact absurd heq (hmark _)
  · rfl

end RemoteShutter.Toml
