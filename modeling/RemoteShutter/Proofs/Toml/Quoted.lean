/-
Quoted text is read back.

- `escaped_cases`: a character of a basic text stands for itself, or is an escape that is read as this character.
- `basic_basicBody`, `literal_append`: so the two forms on one line are read to their closing quote.
- `TakesQuotes`: in the other two forms up to two quotes of the text may stand in a row, also just before the closing
  ones.
- `longBasic_basicBody`, `longLiteral_append`: these forms are read to their closing quotes. Both proofs carry the quotes
  that have been seen in front of the rest.
- `read?_write`: whatever form a text is given, it is read back, in front of anything but more quotes.
-/
import Mathlib.Tactic
import RemoteShutter.Toml.Quoted

namespace RemoteShutter.Toml.Quoted

variable {c q : Char} {s t r : List Char} {isLong : Bool}

/-! ## Characters -/

/-- a character that has to be escaped is one byte -/
theorem toNat_of_not_plain (h : isPlain c = false) : c.toNat < 128 := by
  rw [isPlain, Bool.or_eq_false_iff, Bool.and_eq_false_iff, decide_eq_false_iff_not, decide_eq_false_iff_not] at h
  rcases h.2 with hlow | hdelete
  · have : c.toNat < 32 := Nat.lt_of_not_le hlow
    omega
  · rw [not_ne_iff.1 (of_decide_eq_false hdelete)]
    decide

/-- the four hexadecimal digits of a code point below 128 -/
theorem hexDigits : ∀ n < 128, ∃ ds, escapedPoint (Char.ofNat n) = '\\' :: 'u' :: ds ∧ ds.length = 4 ∧
    Numeral.valueIn? 16 ds = some n := by
  intro n hn
  refine ⟨_, rfl, ?_⟩
  revert n
  decide +kernel

theorem codePoint?_append {ds : List Char} (hlen : ds.length = 4) (hv : Numeral.valueIn? 16 ds = some c.toNat) :
    codePoint? 4 (ds ++ t) = some (c, t) := by
  rw [codePoint?, List.take_left' hlen, hv]
  simp only [Option.bind_eq_bind, Option.bind_some]
  rw [if_pos ⟨hlen, c.valid⟩, Char.ofNat_toNat, List.drop_left' hlen]

/--
A character of a basic text, unless it is a quote, stands for itself, or it is an escape that is read as this character.
-/
theorem escaped_cases (isLong : Bool) (c : Char) :
    escaped isLong c = [c] ∧ c ≠ '\\' ∧ (isPlain c = true ∨ isLong = true ∧ c = '\n') ∨
      ∃ e, escaped isLong c = '\\' :: e ∧ ∀ t, escape? (e ++ t) = some (c, t) ∧ continued? (e ++ t) = none := by
  unfold escaped
  split_ifs with hb ht hn hlong hf hr hback hplain
  · exact .inr ⟨['b'], rfl, fun t => ⟨by rw [hb]; rfl, rfl⟩⟩
  · exact .inr ⟨['t'], rfl, fun t => ⟨by rw [ht]; rfl, rfl⟩⟩
  · exact .inl ⟨by rw [hn], by rw [hn]; decide, .inr ⟨hlong, hn⟩⟩
  · exact .inr ⟨['n'], rfl, fun t => ⟨by rw [hn]; rfl, rfl⟩⟩
  · exact .inr ⟨['f'], rfl, fun t => ⟨by rw [hf]; rfl, rfl⟩⟩
  · exact .inr ⟨['r'], rfl, fun t => ⟨by rw [hr]; rfl, rfl⟩⟩
  · exact .inr ⟨['\\'], rfl, fun t => ⟨by rw [hback]; rfl, rfl⟩⟩
  · exact .inl ⟨rfl, hback, .inl hplain⟩
  · obtain ⟨ds, hds, hlen, hv⟩ := hexDigits c.toNat (toNat_of_not_plain (Bool.eq_false_iff.2 hplain))
    rw [Char.ofNat_toNat] at hds
    exact .inr ⟨'u' :: ds, hds, fun t => ⟨codePoint?_append hlen hv, rfl⟩⟩

/-- what is no control character stands for itself -/
theorem plain_of_not_control (h : isControl c = false) : isPlain c = true ∨ c = '\n' := by
  rw [isControl, Bool.and_eq_false_iff, Bool.and_eq_false_iff, Bool.or_eq_false_iff, decide_eq_false_iff_not,
    decide_eq_false_iff_not, decide_eq_false_iff_not, decide_eq_false_iff_not, not_ne_iff, not_ne_iff] at h
  rw [isPlain, Bool.or_eq_true, Bool.and_eq_true, decide_eq_true_eq, decide_eq_true_eq, decide_eq_true_eq]
  rcases h with (htab | hend) | ⟨hlow, hdelete⟩
  · exact .inl (.inl htab)
  · exact .inr hend
  · exact .inl (.inr ⟨Char.not_lt.1 hlow, hdelete⟩)

/-! ## Text on one line -/

theorem basic_escape {e : List Char} (h : escape? (e ++ t) = some (c, t)) :
    basic ('\\' :: e ++ t) = prepend c (basic t) := by
  rw [List.cons_append, basic]
  split
  · next hnone =>
    rw [h] at hnone
    cases hnone
  · next hsome =>
    rw [h] at hsome
    obtain ⟨rfl, rfl⟩ := Prod.mk.inj (Option.some.inj hsome)
    rfl

theorem basic_plain (hplain : isPlain c = true) (hquote : c ≠ '"') (hback : c ≠ '\\') :
    basic (c :: s) = prepend c (basic s) := by
  rw [basic, if_pos hplain]
  · exact hquote
  · exact hback

theorem basic_escaped (hquote : c ≠ '"') (t : List Char) : basic (escaped false c ++ t) = prepend c (basic t) := by
  rcases escaped_cases false c with ⟨hself, hback, hplain | ⟨hlong, -⟩⟩ | ⟨e, hescape, hread⟩
  · rw [hself]
    exact basic_plain hplain hquote hback
  · cases hlong
  · rw [hescape]
    exact basic_escape (hread t).1

theorem basicBody_cons (hquote : c ≠ '"') (quotes : Nat) (s : List Char) :
    basicBody isLong quotes (c :: s) = escaped isLong c ++ basicBody isLong (if isLong then 2 else 0) s := by
  rw [basicBody]
  exact hquote

/-- **A basic text on one line is read to its closing quote.** -/
theorem basic_basicBody (s r : List Char) : basic (basicBody false 0 s ++ '"' :: r) = some (s, r) := by
  induction s with
  | nil => rw [basicBody, List.nil_append, basic]
  | cons c s ih =>
    rcases eq_or_ne c '"' with rfl | hquote
    · calc basic (basicBody false 0 ('"' :: s) ++ '"' :: r)
          = basic ('\\' :: ['"'] ++ (basicBody false 0 s ++ '"' :: r)) := rfl
        _ = prepend '"' (basic (basicBody false 0 s ++ '"' :: r)) := basic_escape rfl
        _ = some ('"' :: s, r) := by rw [ih]; rfl
    · calc basic (basicBody false 0 (c :: s) ++ '"' :: r)
          = basic (escaped false c ++ (basicBody false 0 s ++ '"' :: r)) := by
            rw [basicBody_cons hquote, List.append_assoc]
            rfl
        _ = prepend c (basic (basicBody false 0 s ++ '"' :: r)) := basic_escaped hquote _
        _ = some (c :: s, r) := by rw [ih]; rfl

/-- **A literal text on one line is read to its closing quote.** -/
theorem literal_append (hplain : ∀ c ∈ s, isPlain c = true) (hquote : '\x27' ∉ s) (r : List Char) :
    literal (s ++ '\x27' :: r) = some (s, r) := by
  induction s with
  | nil => rfl
  | cons c s ih =>
    obtain ⟨hc, hs⟩ := List.forall_mem_cons.1 hplain
    have hne : c ≠ '\x27' := fun h => hquote (h ▸ List.mem_cons_self)
    rw [List.cons_append, literal, if_pos hc, ih hs fun h => hquote (List.mem_cons_of_mem c h)]
    · rfl
    · exact hne

/-! ## Text on several lines -/

/-- how quotes are read in text that stands in three of them: up to two in a row stand for themselves -/
structure TakesQuotes (q : Char) (read : List Char → Option (List Char × List Char)) : Prop where
  quote : ∀ t, ¬ [q, q] <+: t → read (q :: t) = prepend q (read t)
  three : ∀ r, r.head? ≠ some q → read (q :: q :: q :: r) = some ([], r)
  four : ∀ r, r.head? ≠ some q → read (q :: q :: q :: q :: r) = some ([q], r)
  five : ∀ r, read (q :: q :: q :: q :: q :: r) = some ([q, q], r)

namespace TakesQuotes

variable {read : List Char → Option (List Char × List Char)} {k : Nat}

/-- where at most one quote stands in front of other text, there are no two in a row -/
theorem not_two (hk : k ≤ 1) (hhead : t.head? ≠ some q) : ¬ [q, q] <+: List.replicate k q ++ t := by
  rintro ⟨u, hu⟩
  have hsecond : ∀ t', t = q :: t' → False := by
    rintro t' rfl
    exact hhead rfl
  interval_cases k
  · exact hsecond _ hu.symm
  · exact hsecond _ (List.cons.inj hu).2.symm

/-- up to two quotes in front of other text belong to the text -/
theorem before (hread : TakesQuotes q read) (hk : k ≤ 2) (hhead : t.head? ≠ some q) (h : read t = some (s, r)) :
    read (List.replicate k q ++ t) = some (List.replicate k q ++ s, r) := by
  induction k with
  | zero => exact h
  | succ k ih =>
    have htwo := not_two (Nat.le_of_succ_le_succ hk) hhead
    rw [List.replicate_succ, List.cons_append, hread.quote _ htwo, ih (Nat.le_of_succ_le hk)]
    rfl

/-- so do up to two in front of the closing ones -/
theorem closing (hread : TakesQuotes q read) (hk : k ≤ 2) (hr : r.head? ≠ some q) :
    read (List.replicate k q ++ q :: q :: q :: r) = some (List.replicate k q, r) := by
  interval_cases k
  · exact hread.three r hr
  · exact hread.four r hr
  · exact hread.five r

end TakesQuotes

/-! ### Basic text -/

theorem longBasic_plain (hplain : isPlain c = true) (hback : c ≠ '\\') (hquote : c = '"' → ¬ ['"', '"'] <+: t) :
    longBasic (c :: t) = prepend c (longBasic t) := by
  have htwo : ∀ u, c = '"' → t = '"' :: '"' :: u → False := by
    rintro u hc rfl
    exact hquote hc ⟨u, rfl⟩
  rw [longBasic, if_pos hplain]
  · exact fun u => htwo _
  · exact fun u => htwo _
  · exact htwo
  · exact hback
  · rintro rfl
    cases hplain
  · rintro u rfl
    cases hplain

theorem takesQuotes_longBasic : TakesQuotes '"' longBasic where
  quote _ htwo := longBasic_plain (by decide) (by decide) fun _ => htwo
  three r hr := longBasic.eq_4 r (fun _ h => hr (h ▸ rfl)) fun _ h => hr (h ▸ rfl)
  four r hr := longBasic.eq_3 r fun _ h => hr (h ▸ rfl)
  five := longBasic.eq_2

theorem longBasic_escape {e : List Char} (hread : escape? (e ++ t) = some (c, t)) (hline : continued? (e ++ t) = none) :
    longBasic ('\\' :: e ++ t) = prepend c (longBasic t) := by
  rw [List.cons_append, longBasic]
  split
  · next hsome =>
    rw [hline] at hsome
    cases hsome
  · split
    · next hnone =>
      rw [hread] at hnone
      cases hnone
    · next hsome =>
      rw [hread] at hsome
      obtain ⟨rfl, rfl⟩ := Prod.mk.inj (Option.some.inj hsome)
      rfl

theorem longBasic_escaped (hquote : c ≠ '"') (t : List Char) :
    longBasic (escaped true c ++ t) = prepend c (longBasic t) := by
  rcases escaped_cases true c with ⟨hself, hback, hplain | ⟨-, rfl⟩⟩ | ⟨e, hescape, hread⟩
  · rw [hself]
    exact longBasic_plain hplain hback fun hc => absurd hc hquote
  · rw [hself, List.singleton_append, longBasic]
  · rw [hescape]
    exact longBasic_escape (hread t).1 (hread t).2

theorem head?_escaped (hquote : c ≠ '"') (t : List Char) : (escaped isLong c ++ t).head? ≠ some '"' := by
  rcases escaped_cases isLong c with ⟨hself, -⟩ | ⟨e, hescape, -⟩
  · rw [hself]
    exact fun h => hquote (Option.some.inj h)
  · rw [hescape]
    exact fun h => absurd (Option.some.inj h) (by decide)

/-- **A basic text on several lines is read to its closing quotes**, with those of its own that stand in front. -/
theorem longBasic_basicBody {k : Nat} (hk : k ≤ 2) (s : List Char) (hr : r.head? ≠ some '"') :
    longBasic (List.replicate k '"' ++ (basicBody true (2 - k) s ++ '"' :: '"' :: '"' :: r)) =
      some (List.replicate k '"' ++ s, r) := by
  induction s generalizing k with
  | nil =>
    rw [basicBody, List.nil_append, List.append_nil]
    exact takesQuotes_longBasic.closing hk hr
  | cons c s ih =>
    have hafter : longBasic (basicBody true 2 s ++ '"' :: '"' :: '"' :: r) = some (s, r) := ih (Nat.zero_le 2)
    rcases eq_or_ne c '"' with rfl | hquote
    · rcases eq_or_lt_of_le hk with rfl | hlt
      · -- two quotes have been seen, so the third is an escape
        have hread : longBasic ('\\' :: ['"'] ++ (basicBody true 2 s ++ '"' :: '"' :: '"' :: r)) =
            some ('"' :: s, r) := by
          rw [longBasic_escape rfl rfl, hafter]
          rfl
        have hhead : (basicBody true 0 ('"' :: s) ++ '"' :: '"' :: '"' :: r).head? ≠ some '"' :=
          fun h => absurd (Option.some.inj h) (by decide)
        exact takesQuotes_longBasic.before le_rfl hhead hread
      · obtain ⟨m, hm⟩ : ∃ m, 2 - k = m + 1 := ⟨1 - k, by omega⟩
        have hleft : m = 2 - (k + 1) := by omega
        have hone := ih hlt
        rw [← hleft, List.replicate_succ', List.append_assoc, List.append_assoc] at hone
        rw [hm]
        exact hone
    · have hread : longBasic (escaped true c ++ (basicBody true 2 s ++ '"' :: '"' :: '"' :: r)) =
          some (c :: s, r) := by
        rw [longBasic_escaped hquote, hafter]
        rfl
      rw [basicBody_cons hquote, if_pos rfl, List.append_assoc]
      exact takesQuotes_longBasic.before hk (head?_escaped hquote _) hread

/-! ### Literal text -/

theorem longLiteral_plain (hplain : isPlain c = true) (hquote : c = '\x27' → ¬ ['\x27', '\x27'] <+: t) :
    longLiteral (c :: t) = prepend c (longLiteral t) := by
  have htwo : ∀ u, c = '\x27' → t = '\x27' :: '\x27' :: u → False := by
    rintro u hc rfl
    exact hquote hc ⟨u, rfl⟩
  rw [longLiteral, if_pos hplain]
  · exact fun u => htwo _
  · exact fun u => htwo _
  · exact htwo
  · rintro rfl
    cases hplain
  · rintro u rfl
    cases hplain

theorem takesQuotes_longLiteral : TakesQuotes '\x27' longLiteral where
  quote _ htwo := longLiteral_plain (by decide) fun _ => htwo
  three r hr := longLiteral.eq_4 r (fun _ h => hr (h ▸ rfl)) fun _ h => hr (h ▸ rfl)
  four r hr := longLiteral.eq_3 r fun _ h => hr (h ▸ rfl)
  five := longLiteral.eq_2

/-- **A literal text on several lines is read to its closing quotes**, if it has no more than two in a row. -/
theorem longLiteral_append {k : Nat} (hplain : ∀ c ∈ s, isPlain c = true ∨ c = '\n') (hk : longestRun '\x27' k s ≤ 2)
    (hr : r.head? ≠ some '\x27') :
    longLiteral (List.replicate k '\x27' ++ (s ++ '\x27' :: '\x27' :: '\x27' :: r)) =
      some (List.replicate k '\x27' ++ s, r) := by
  induction s generalizing k with
  | nil =>
    rw [List.nil_append, List.append_nil]
    exact takesQuotes_longLiteral.closing hk hr
  | cons c s ih =>
    obtain ⟨hc, hs⟩ := List.forall_mem_cons.1 hplain
    rw [longestRun] at hk
    split_ifs at hk with hquote
    · subst hquote
      have hone := ih hs hk
      rw [List.replicate_succ', List.append_assoc, List.append_assoc] at hone
      exact hone
    · obtain ⟨hseen, hrest⟩ := max_le_iff.1 hk
      have hafter : longLiteral (s ++ '\x27' :: '\x27' :: '\x27' :: r) = some (s, r) := ih hs hrest
      have hread : longLiteral (c :: (s ++ '\x27' :: '\x27' :: '\x27' :: r)) = some (c :: s, r) := by
        rcases hc with hc | rfl
        · rw [longLiteral_plain hc fun h => absurd h hquote, hafter]
          rfl
        · rw [longLiteral, hafter]
          rfl
      exact takesQuotes_longLiteral.before hseen (fun h => hquote (Option.some.inj h)) hread

/-! ## The choice of a form -/

theorem le_longestRun (q : Char) (k : Nat) (s : List Char) : k ≤ longestRun q k s := by
  induction s generalizing k with
  | nil => exact le_rfl
  | cons c s ih =>
    rw [longestRun]
    split_ifs
    · exact (Nat.le_succ k).trans (ih (k + 1))
    · exact le_max_left k _

theorem not_mem_of_longestRun {k : Nat} (h : longestRun q k s = 0) : q ∉ s := by
  induction s generalizing k with
  | nil => exact List.not_mem_nil
  | cons c s ih =>
    rw [longestRun] at h
    split_ifs at h with hc
    · have hmore := le_longestRun q (k + 1) s
      omega
    · rw [List.mem_cons, not_or]
      exact ⟨fun hq => hc hq.symm, ih (Nat.max_eq_zero_iff.1 h).2⟩

/-- A text is given a literal form only if it can stand there as it is. -/
theorem formOf_cases (s : List Char) : formOf s = .basic ∨ formOf s = .longBasic ∨
    formOf s = .literal ∧ (∀ c ∈ s, isPlain c = true) ∧ '\x27' ∉ s ∨
    formOf s = .longLiteral ∧ (∀ c ∈ s, isPlain c = true ∨ c = '\n') ∧ longestRun '\x27' 0 s ≤ 2 := by
  have hplain : ¬ s.any isControl = true → ∀ c ∈ s, isPlain c = true ∨ c = '\n' := by
    intro hnone c hc
    rw [Bool.not_eq_true, List.any_eq_false] at hnone
    exact plain_of_not_control (Bool.eq_false_iff.2 (hnone c hc))
  unfold formOf
  dsimp only
  split_ifs with hcontrol hend _ hsingle _ htwo
  · exact .inr (.inl rfl)
  · exact .inl rfl
  · exact .inl rfl
  · rw [Bool.and_eq_true, decide_eq_true_eq, Bool.not_eq_true', List.contains_eq_mem, decide_eq_false_iff_not]
      at hsingle
    obtain ⟨hnone, hline⟩ := hsingle
    refine .inr (.inr (.inl ⟨rfl, fun c hc => ?_, not_mem_of_longestRun hnone⟩))
    exact (hplain hcontrol c hc).resolve_right fun h => hline (h ▸ hc)
  · exact .inr (.inl rfl)
  · exact .inr (.inr (.inr ⟨rfl, hplain hcontrol, htwo⟩))
  · exact .inr (.inl rfl)
  · exact .inl rfl

/-! ## All forms -/

/-- a line end stands at the beginning -/
def BeginsLine (s : List Char) : Prop :=
  s.head? = some '\n' ∨ s.head? = some '\r'

theorem not_beginsLine_plain (hplain : isPlain c = true) : ¬ BeginsLine (c :: t) := by
  rintro (h | h)
  · rw [Option.some.inj h] at hplain
    cases hplain
  · rw [Option.some.inj h] at hplain
    cases hplain

/-- the line end in front of a text that has any is dropped, and nothing else -/
theorem dropFirstEnd_lead {body : List Char} (hbody : '\n' ∉ s → ¬ BeginsLine body) :
    dropFirstEnd ((if s.contains '\n' then ['\n'] else []) ++ body) = body := by
  rw [List.contains_eq_mem]
  by_cases hend : '\n' ∈ s
  · rw [if_pos (decide_eq_true hend)]
    rfl
  · rw [if_neg (by simpa using hend), List.nil_append]
    unfold dropFirstEnd
    split
    · exact absurd (.inl rfl) (hbody hend)
    · exact absurd (.inr rfl) (hbody hend)
    · rfl

theorem read?_basic (s : List Char) (hr : r.head? ≠ some '"') : read? (write .basic s ++ r) = some (s, r) := by
  have htext : write .basic s ++ r = '"' :: (basicBody false 0 s ++ '"' :: r) := by simp [write]
  have hshort : ∀ t, basicBody false 0 s ++ '"' :: r = '"' :: '"' :: t → False := by
    intro t ht
    cases s with
    | nil => exact hr (congrArg List.head? (List.cons.inj ht).2)
    | cons c s =>
      rcases eq_or_ne c '"' with rfl | hquote
      · exact absurd (List.cons.inj ht).1 (by decide)
      · rw [basicBody_cons hquote, List.append_assoc] at ht
        exact head?_escaped hquote _ (congrArg List.head? ht)
  rw [htext, read?]
  · exact basic_basicBody s r
  · exact hshort

theorem read?_literal (hplain : ∀ c ∈ s, isPlain c = true) (hquote : '\x27' ∉ s) (hr : r.head? ≠ some '\x27') :
    read? (write .literal s ++ r) = some (s, r) := by
  have htext : write .literal s ++ r = '\x27' :: (s ++ '\x27' :: r) := by simp [write]
  have hshort : ∀ t, s ++ '\x27' :: r = '\x27' :: '\x27' :: t → False := by
    intro t ht
    cases s with
    | nil => exact hr (congrArg List.head? (List.cons.inj ht).2)
    | cons c s => exact hquote ((List.cons.inj ht).1 ▸ List.mem_cons_self)
  rw [htext, read?]
  · exact literal_append hplain hquote r
  · exact hshort

theorem read?_longBasic (s : List Char) (hr : r.head? ≠ some '"') : read? (write .longBasic s ++ r) = some (s, r) := by
  have htext : write .longBasic s ++ r = '"' :: '"' :: '"' ::
      ((if s.contains '\n' then ['\n'] else []) ++ (basicBody true 2 s ++ '"' :: '"' :: '"' :: r)) := by
    simp [write]
  have hbody : '\n' ∉ s → ¬ BeginsLine (basicBody true 2 s ++ '"' :: '"' :: '"' :: r) := by
    intro hend
    cases s with
    | nil => exact not_beginsLine_plain (by decide)
    | cons c s =>
      rcases eq_or_ne c '"' with rfl | hquote
      · exact not_beginsLine_plain (by decide)
      · rw [basicBody_cons hquote, List.append_assoc]
        rcases escaped_cases true c with ⟨hself, -, hplain | ⟨-, rfl⟩⟩ | ⟨e, hescape, -⟩
        · rw [hself]
          exact not_beginsLine_plain hplain
        · exact absurd List.mem_cons_self hend
        · rw [hescape]
          exact not_beginsLine_plain (by decide)
  rw [htext, read?, dropFirstEnd_lead hbody]
  exact longBasic_basicBody (Nat.zero_le 2) s hr

theorem read?_longLiteral (hplain : ∀ c ∈ s, isPlain c = true ∨ c = '\n') (htwo : longestRun '\x27' 0 s ≤ 2)
    (hr : r.head? ≠ some '\x27') : read? (write .longLiteral s ++ r) = some (s, r) := by
  have htext : write .longLiteral s ++ r = '\x27' :: '\x27' :: '\x27' ::
      ((if s.contains '\n' then ['\n'] else []) ++ (s ++ '\x27' :: '\x27' :: '\x27' :: r)) := by
    simp [write]
  have hbody : '\n' ∉ s → ¬ BeginsLine (s ++ '\x27' :: '\x27' :: '\x27' :: r) := by
    intro hend
    cases s with
    | nil => exact not_beginsLine_plain (by decide)
    | cons c s =>
      rcases hplain c List.mem_cons_self with hc | rfl
      · exact not_beginsLine_plain hc
      · exact absurd List.mem_cons_self hend
  rw [htext, read?, dropFirstEnd_lead hbody]
  exact longLiteral_append hplain htwo hr

/-- **Quoted text is read back**, in front of anything but more quotes. -/
theorem read?_write (s : List Char) {r : List Char} (hdouble : r.head? ≠ some '"') (hsingle : r.head? ≠ some '\x27') :
    read? (write (formOf s) s ++ r) = some (s, r) := by
  rcases formOf_cases s with h | h | ⟨h, hplain, hquote⟩ | ⟨h, hplain, htwo⟩
  · rw [h]
    exact read?_basic s hdouble
  · rw [h]
    exact read?_longBasic s hdouble
  · rw [h]
    exact read?_literal hplain hquote hsingle
  · rw [h]
    exact read?_longLiteral hplain htwo hsingle

end RemoteShutter.Toml.Quoted
