/-
Documents are read back.

- `take?_pairLines`, `take?_header`: pairs go to the table of the last header, each behind those before it.
- `ofStatements?_lines`: so the lines of a document build its tables, if no key stands twice.
- `linesWithout_lines`: when lines are taken out, what is left is a document again.
- `ofText?_without`: it is read back too, and under each key there is what the document said, or nothing
  (`lookup_documentEntries`).
-/
import RemoteShutter.Proofs.Toml.Lines

namespace RemoteShutter.Toml

open TomlEntries (Building)

variable {k name : String}

/-! ## Tables -/

/-- the entries that pairs make -/
def entriesOf (ps : Pairs) : TomlEntries :=
  ps.map fun p => (p.1, .scalar p.2)

/-- the entries that a document makes -/
def documentEntries (ps : Pairs) (tables : List (String × Pairs)) : TomlEntries :=
  entriesOf ps ++ tables.map fun t => (t.1, .table .header (entriesOf t.2))

variable {es inner : TomlEntries} {v w : TomlValue}

/-- the keys of a table -/
abbrev keysOf {α : Type} (es : List (String × α)) : List String :=
  es.map Prod.fst

theorem any_key_eq_false (h : k ∉ keysOf es) : es.any (·.1 = k) = false := by
  rw [List.any_eq_false]
  intro e he hk
  exact h (of_decide_eq_true hk ▸ List.mem_map_of_mem he)

theorem lookup_eq_none_of_not_mem (h : k ∉ keysOf es) : es.lookup k = none := by
  rw [List.lookup_eq_none_iff]
  intro e he
  refine bne_iff_ne.2 ?_
  rintro rfl
  exact h (List.mem_map_of_mem he)

theorem addPair?_new (h : k ∉ keysOf es) (v : TomlValue) :
    TomlEntries.addPair? es { last := k } v = some (es ++ [(k, v)]) := by
  rw [TomlEntries.addPair?, TomlEntries.change?, if_pos (.inl rfl), TomlEntries.add?, any_key_eq_false h]
  rfl

theorem put_new (h : k ∉ keysOf es) (v : TomlValue) : TomlEntries.put es k v = es ++ [(k, v)] := by
  rw [TomlEntries.put, any_key_eq_false h]
  rfl

/-- the last entry is changed in its place -/
theorem put_last (h : k ∉ keysOf es) (v w : TomlValue) : TomlEntries.put (es ++ [(k, v)]) k w = es ++ [(k, w)] := by
  have hfront : es.map (fun e => if e.1 = k then (k, w) else e) = es := by
    have hsame : ∀ e ∈ es, (if e.1 = k then (k, w) else e) = e := by
      intro e he
      refine if_neg ?_
      rintro rfl
      exact h (List.mem_map_of_mem he)
    rw [List.map_congr_left hsame, List.map_id']
  have hany : (es ++ [(k, v)]).any (·.1 = k) = true := by
    rw [List.any_append]
    simp
  rw [TomlEntries.put, if_pos hany, List.map_append, hfront]
  simp

theorem lookup_last (h : k ∉ keysOf es) (v : TomlValue) : (es ++ [(k, v)]).lookup k = some v := by
  rw [List.lookup_append, lookup_eq_none_of_not_mem h, Option.none_or]
  exact List.lookup_cons_self

theorem keysOf_entriesOf (ps : Pairs) : keysOf (entriesOf ps) = keysOf ps := by
  rw [keysOf, entriesOf, List.map_map]
  rfl

/-- where one pair goes, all pairs of a table go, if no key stands twice -/
theorem take?_pairLines (place : TomlEntries → Building)
    (hplace : ∀ es k v, k ∉ keysOf es → (place es).take? (.pair { last := k } v) = some (place (es ++ [(k, v)])))
    (above : List String) {ps : Pairs} (h : (keysOf es ++ keysOf ps).Nodup) :
    ((pairLines above ps).map Line.statement).foldlM Building.take? (place es) = some (place (es ++ entriesOf ps)) := by
  induction ps generalizing es with
  | nil => exact congrArg (fun es => some (place es)) (List.append_nil es).symm
  | cons p ps ih =>
    have hnew : p.1 ∉ keysOf es := fun hmem => List.disjoint_of_nodup_append h hmem List.mem_cons_self
    have hrest : (keysOf (es ++ [(p.1, TomlValue.scalar p.2)]) ++ keysOf ps).Nodup := by
      rw [keysOf, List.map_append, List.append_assoc]
      exact h
    calc ((pairLines above (p :: ps)).map Line.statement).foldlM Building.take? (place es)
        = ((place es).take? (.pair { last := p.1 } (.scalar p.2))).bind
            (((pairLines above ps).map Line.statement).foldlM Building.take?) := rfl
      _ = some (place (es ++ [(p.1, .scalar p.2)] ++ entriesOf ps)) := by
        rw [hplace es p.1 _ hnew, Option.bind_some, ih hrest]
      _ = some (place (es ++ entriesOf (p :: ps))) := by
        rw [List.append_assoc]
        rfl

/-- pairs go to the document itself until there is a header -/
theorem take?_root (es : TomlEntries) (k : String) (v : TomlValue) (h : k ∉ keysOf es) :
    (Building.mk es []).take? (.pair { last := k } v) = some ⟨es ++ [(k, v)], []⟩ := by
  rw [Building.take?, TomlEntries.change?, addPair?_new h]
  rfl

/-- then they go to the table of the last one -/
theorem take?_table (hname : name ∉ keysOf es) (inner : TomlEntries) (k : String) (v : TomlValue)
    (h : k ∉ keysOf inner) :
    (Building.mk (es ++ [(name, .table .header inner)]) [name]).take? (.pair { last := k } v) =
      some ⟨es ++ [(name, .table .header (inner ++ [(k, v)]))], [name]⟩ := by
  rw [Building.take?]
  simp only [TomlEntries.change?, lookup_last hname, addPair?_new h, Option.map_some, put_last hname]
  simp

/-- a header makes a new table -/
theorem take?_header (hname : name ∉ keysOf es) (current : List String) :
    (Building.mk es current).take? (.header { last := name }) = some ⟨es ++ [(name, .table .header [])], [name]⟩ := by
  rw [Building.take?, TomlEntries.openTable?, TomlEntries.change?]
  simp only [lookup_eq_none_of_not_mem hname, put_new hname]
  rfl

/-- all keys of a document are different from each other, and none needs quotes -/
structure Orderly (ps : Pairs) (tables : List (String × Pairs)) : Prop where
  bare : ∀ l ∈ lines ps tables, IsBareKey l.key
  distinct : (keysOf ps ++ keysOf tables).Nodup
  distinctBelow : ∀ t ∈ tables, (keysOf t.2).Nodup

theorem take?_tables {tables : List (String × Pairs)} (current : List String) (h : (keysOf es ++ keysOf tables).Nodup)
    (hbelow : ∀ t ∈ tables, (keysOf t.2).Nodup) : ∃ current',
    ((tables.flatMap fun t => .header t.1 :: pairLines [t.1] t.2).map Line.statement).foldlM Building.take?
        ⟨es, current⟩ =
      some ⟨es ++ tables.map fun t => (t.1, .table .header (entriesOf t.2)), current'⟩ := by
  induction tables generalizing es current with
  | nil => exact ⟨current, congrArg (fun es => some (Building.mk es current)) (List.append_nil es).symm⟩
  | cons t ts ih =>
    obtain ⟨ht, hts⟩ := List.forall_mem_cons.1 hbelow
    have hname : t.1 ∉ keysOf es := fun hmem => List.disjoint_of_nodup_append h hmem List.mem_cons_self
    have hrest : (keysOf (es ++ [(t.1, TomlValue.table .header (entriesOf t.2))]) ++ keysOf ts).Nodup := by
      rw [keysOf, List.map_append, List.append_assoc]
      exact h
    have hpairs : ((pairLines [t.1] t.2).map Line.statement).foldlM Building.take?
          ⟨es ++ [(t.1, .table .header [])], [t.1]⟩ =
        some ⟨es ++ [(t.1, .table .header (entriesOf t.2))], [t.1]⟩ :=
      take?_pairLines (fun inner => ⟨es ++ [(t.1, .table .header inner)], [t.1]⟩) (take?_table hname) [t.1]
        (show (keysOf ([] : TomlEntries) ++ keysOf t.2).Nodup from ht)
    obtain ⟨current', htables⟩ := ih [t.1] hrest hts
    refine ⟨current', ?_⟩
    calc (((t :: ts).flatMap fun t => .header t.1 :: pairLines [t.1] t.2).map Line.statement).foldlM Building.take?
          ⟨es, current⟩
        = ((Building.mk es current).take? (.header { last := t.1 })).bind fun b =>
            (((pairLines [t.1] t.2).map Line.statement).foldlM Building.take? b).bind
              (((ts.flatMap fun t => .header t.1 :: pairLines [t.1] t.2).map Line.statement).foldlM Building.take?) := by
          rw [List.flatMap_cons, List.map_append, List.foldlM_append, List.map_cons, List.foldlM_cons]
          exact Option.bind_assoc _ _ _
      _ = some ⟨es ++ [(t.1, .table .header (entriesOf t.2))] ++ ts.map fun t => (t.1, .table .header (entriesOf t.2)),
            current'⟩ := by
          rw [take?_header hname, Option.bind_some, hpairs, Option.bind_some, htables]
      _ = some ⟨es ++ (t :: ts).map fun t => (t.1, .table .header (entriesOf t.2)), current'⟩ := by
          rw [List.append_assoc]
          rfl

/-- **The lines of a document build its tables.** -/
theorem ofStatements?_lines {ps : Pairs} {tables : List (String × Pairs)} (h : Orderly ps tables) :
    TomlEntries.ofStatements? ((lines ps tables).map Line.statement) = some (documentEntries ps tables) := by
  have hpairs : ((pairLines [] ps).map Line.statement).foldlM Building.take? {} = some ⟨entriesOf ps, []⟩ :=
    take?_pairLines (fun es => ⟨es, []⟩) take?_root [] (List.Nodup.of_append_left h.distinct)
  have hdistinct : (keysOf (entriesOf ps) ++ keysOf tables).Nodup := by
    rw [keysOf_entriesOf]
    exact h.distinct
  obtain ⟨current', htables⟩ := take?_tables [] hdistinct h.distinctBelow
  rw [TomlEntries.ofStatements?, lines, List.map_append, List.foldlM_append, hpairs]
  simp only [Option.bind_eq_bind, Option.bind_some, htables]
  rfl

/-- **A document is read back from its text.** -/
theorem ofText?_lines {ps : Pairs} {tables : List (String × Pairs)} {text : String} (h : Orderly ps tables)
    (htext : linesText? (lines ps tables) = some text) : ofText? text.toList = some (documentEntries ps tables) := by
  rw [ofText?, unmarked_lines h.bare htext, statements_lines h.bare htext (Nat.lt_succ_self _), Option.bind_some,
    ofStatements?_lines h]

/-! ## Lines that are taken out -/

/-- a line is taken out with its key or with a table that leads to it -/
def isGone (gone : List String → Bool) (path : List String) : Bool :=
  path.inits.any gone

variable {gone : List String → Bool}

/-- the pairs of a table that are left -/
def pairsWithout (gone : List String → Bool) (above : List String) (ps : Pairs) : Pairs :=
  ps.filter fun p => !isGone gone (above ++ [p.1])

/-- the tables that are left, with what is left of each -/
def tablesWithout (gone : List String → Bool) (tables : List (String × Pairs)) : List (String × Pairs) :=
  (tables.filter fun t => !isGone gone [t.1]).map fun t => (t.1, pairsWithout gone [t.1] t.2)

/-- the lines that are left -/
def linesWithout (gone : List String → Bool) (ls : List Line) : List Line :=
  ls.filter fun l => !isGone gone l.path

theorem isGone_append {path : List String} (h : isGone gone path = true) (below : List String) :
    isGone gone (path ++ below) = true := by
  obtain ⟨front, hfront, hgone⟩ := List.any_eq_true.1 h
  have hlonger : front <+: path ++ below := ((List.mem_inits _ _).1 hfront).trans (List.prefix_append path below)
  exact List.any_eq_true.2 ⟨front, (List.mem_inits _ _).2 hlonger, hgone⟩

theorem isGone_nothing (path : List String) : isGone (fun _ => false) path = false :=
  List.any_eq_false.2 fun _ _ => Bool.false_ne_true

theorem linesWithout_nothing (ls : List Line) : linesWithout (fun _ => false) ls = ls :=
  List.filter_eq_self.2 fun l _ => by rw [isGone_nothing]; rfl

theorem linesWithout_append (gone : List String → Bool) (ls ms : List Line) :
    linesWithout gone (ls ++ ms) = linesWithout gone ls ++ linesWithout gone ms :=
  List.filter_append ls ms

theorem linesWithout_pairLines (gone : List String → Bool) (above : List String) (ps : Pairs) :
    linesWithout gone (pairLines above ps) = pairLines above (pairsWithout gone above ps) :=
  List.filter_map

theorem tablesWithout_cons (gone : List String → Bool) (t : String × Pairs) (ts : List (String × Pairs)) :
    tablesWithout gone (t :: ts) =
      if isGone gone [t.1] then tablesWithout gone ts
      else (t.1, pairsWithout gone [t.1] t.2) :: tablesWithout gone ts := by
  rw [tablesWithout, tablesWithout, List.filter_cons]
  cases isGone gone [t.1] <;> rfl

/-- nothing is left of a table that is taken out -/
theorem linesWithout_table (gone : List String → Bool) (t : String × Pairs) :
    linesWithout gone (.header t.1 :: pairLines [t.1] t.2) =
      if isGone gone [t.1] then [] else .header t.1 :: pairLines [t.1] (pairsWithout gone [t.1] t.2) := by
  have hheader : (Line.header t.1).path = [t.1] := rfl
  rw [← linesWithout_pairLines, linesWithout, linesWithout, List.filter_cons, hheader]
  split_ifs with hkept hgone hgone
  · rw [hgone] at hkept
    cases hkept
  · rfl
  · refine List.filter_eq_nil_iff.2 ?_
    intro l hl
    obtain ⟨p, -, rfl⟩ := List.mem_map.1 hl
    rw [Line.path, isGone_append hgone]
    exact Bool.false_ne_true
  · rw [Bool.not_eq_true] at hgone
    rw [hgone] at hkept
    exact absurd rfl hkept

/-- **What is left of the lines of a document are the lines of what is left of it.** -/
theorem linesWithout_lines (gone : List String → Bool) (ps : Pairs) (tables : List (String × Pairs)) :
    linesWithout gone (lines ps tables) = lines (pairsWithout gone [] ps) (tablesWithout gone tables) := by
  have htables : linesWithout gone (tables.flatMap fun t => .header t.1 :: pairLines [t.1] t.2) =
      (tablesWithout gone tables).flatMap fun t => .header t.1 :: pairLines [t.1] t.2 := by
    induction tables with
    | nil => rfl
    | cons t ts ih =>
      rw [List.flatMap_cons, linesWithout_append, linesWithout_table, ih, tablesWithout_cons]
      split_ifs
      · rfl
      · rw [List.flatMap_cons]
  rw [lines, linesWithout_append, linesWithout_pairLines, htables, lines]

theorem keysOf_pairsWithout_sublist (gone : List String → Bool) (above : List String) (ps : Pairs) :
    List.Sublist (keysOf (pairsWithout gone above ps)) (keysOf ps) :=
  List.filter_sublist.map _

theorem Orderly.without {ps : Pairs} {tables : List (String × Pairs)} (h : Orderly ps tables) :
    Orderly (pairsWithout gone [] ps) (tablesWithout gone tables) := by
  constructor
  · intro l hl
    rw [← linesWithout_lines] at hl
    exact h.bare l (List.mem_of_mem_filter hl)
  · refine List.Nodup.sublist ?_ h.distinct
    refine (keysOf_pairsWithout_sublist gone [] ps).append ?_
    rw [keysOf, tablesWithout, List.map_map]
    exact List.filter_sublist.map Prod.fst
  · intro t ht
    obtain ⟨t, hmem, rfl⟩ := List.mem_map.1 ht
    exact (h.distinctBelow t (List.mem_of_mem_filter hmem)).sublist (keysOf_pairsWithout_sublist gone _ _)

/-- what is left of lines that have a text has one too -/
theorem exists_linesText?_without {ls : List Line} {text : String} (h : linesText? ls = some text)
    (gone : List String → Bool) : ∃ left, linesText? (linesWithout gone ls) = some left := by
  have hall := (isSome_linesText?_iff ls).1 (Option.isSome_iff_exists.2 ⟨text, h⟩)
  exact Option.isSome_iff_exists.1 ((isSome_linesText?_iff _).2 fun l hl => hall l (List.mem_of_mem_filter hl))

/-- **What is left of a document is read back too.** -/
theorem ofText?_without {ps : Pairs} {tables : List (String × Pairs)} {left : String} (h : Orderly ps tables)
    (hleft : linesText? (linesWithout gone (lines ps tables)) = some left) :
    ofText? left.toList = some (documentEntries (pairsWithout gone [] ps) (tablesWithout gone tables)) := by
  rw [linesWithout_lines] at hleft
  exact ofText?_lines h.without hleft

/-! ## What is found under a key -/

theorem lookup_map_value {α β : Type} (f : String → α → β) (es : List (String × α)) (k : String) :
    (es.map fun e => (e.1, f e.1 e.2)).lookup k = (es.lookup k).map (f k) := by
  induction es with
  | nil => rfl
  | cons e es ih =>
    rw [List.map_cons, List.lookup_cons, List.lookup_cons, ih]
    rcases eq_or_ne k e.1 with rfl | hk
    · rw [beq_self_eq_true]
      rfl
    · rw [beq_eq_false_iff_ne.2 hk]

theorem lookup_filter_key {α : Type} (kept : String → Bool) (es : List (String × α)) (k : String) :
    (es.filter fun e => kept e.1).lookup k = if kept k then es.lookup k else none := by
  induction es with
  | nil => exact (ite_self _).symm
  | cons e es ih =>
    rw [List.filter_cons, List.lookup_cons]
    rcases eq_or_ne k e.1 with rfl | hk
    · rw [beq_self_eq_true]
      split_ifs with hkept
      · exact List.lookup_cons_self
      · rw [ih, if_neg hkept]
    · rw [beq_eq_false_iff_ne.2 hk]
      split_ifs with hkept hkey hkey
      · rw [List.lookup_cons, beq_eq_false_iff_ne.2 hk, ih, if_pos hkey]
      · rw [List.lookup_cons, beq_eq_false_iff_ne.2 hk, ih, if_neg hkey]
      · rw [ih, if_pos hkey]
      · rw [ih, if_neg hkey]

theorem lookup_pairsWithout (gone : List String → Bool) (above : List String) (ps : Pairs) (k : String) :
    (entriesOf (pairsWithout gone above ps)).lookup k =
      if isGone gone (above ++ [k]) then none else (ps.lookup k).map .scalar := by
  have hmap : (entriesOf (pairsWithout gone above ps)).lookup k = ((pairsWithout gone above ps).lookup k).map .scalar :=
    lookup_map_value (fun _ v => TomlValue.scalar v) _ k
  rw [hmap, pairsWithout, lookup_filter_key fun k => !isGone gone (above ++ [k])]
  cases isGone gone (above ++ [k]) <;> rfl

theorem lookup_tablesWithout (gone : List String → Bool) (tables : List (String × Pairs)) (k : String) :
    ((tablesWithout gone tables).map fun t => (t.1, TomlValue.table .header (entriesOf t.2))).lookup k =
      if isGone gone [k] then none
      else (tables.lookup k).map fun below => .table .header (entriesOf (pairsWithout gone [k] below)) := by
  have hentries : ((tablesWithout gone tables).map fun t => (t.1, TomlValue.table .header (entriesOf t.2))).lookup k =
      ((tablesWithout gone tables).lookup k).map fun below => .table .header (entriesOf below) :=
    lookup_map_value (fun _ below => TomlValue.table .header (entriesOf below)) _ k
  rw [hentries, tablesWithout, lookup_map_value fun name => pairsWithout gone [name],
    lookup_filter_key fun k => !isGone gone [k]]
  cases isGone gone [k] with
  | true => rfl
  | false => exact Option.map_map _ _ _

/-- **Under a key there is what the document said, unless the key was taken out.** -/
theorem lookup_documentEntries (gone : List String → Bool) (ps : Pairs) (tables : List (String × Pairs)) (k : String) :
    (documentEntries (pairsWithout gone [] ps) (tablesWithout gone tables)).lookup k =
      if isGone gone [k] then none
      else ((ps.lookup k).map .scalar).or
        ((tables.lookup k).map fun below => .table .header (entriesOf (pairsWithout gone [k] below))) := by
  rw [documentEntries, List.lookup_append, lookup_pairsWithout, lookup_tablesWithout, List.nil_append]
  cases isGone gone [k] <;> rfl

end RemoteShutter.Toml
