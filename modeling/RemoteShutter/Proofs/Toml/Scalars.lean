/-
Scalars are read back.

A flag or a number is one word, a text is quoted.
- `word_append`: a word is cut off where the line ends.
- `ofWord?_ofInt`: the numeral of a number is no date, no time and no fraction, and is read as that number.
- `plainValue_written`, `value_of_plainValue`: every scalar that can be written is read back at the end of its line.
-/
import Mathlib.Data.List.TakeWhile
import RemoteShutter.Proofs.Text.Numerals
import RemoteShutter.Proofs.Toml.Quoted
import RemoteShutter.Toml.Printer
import RemoteShutter.Toml.Reader

namespace RemoteShutter.Toml

open Numeral (isDigit digits ofInt)

variable {c : Char} {s t r w : List Char} {n v : Nat} {z : Int}

/-! ## Digits -/

theorem isWordChar_of_isDigit (h : isDigit c = true) : isWordChar c = true := by
  obtain ⟨d, hd, rfl⟩ := Numeral.exists_digitChar h
  revert d
  decide

theorem isGroup_of_isDigit (h : isDigit c = true) : isGroup c = true := by
  rw [isGroup, h, Bool.true_or]

/-- characters of different kinds are different -/
theorem ne_of_kind {kind : Char → Bool} {d : Char} (hc : kind c = true) (hd : kind d = false) : c ≠ d := by
  rintro rfl
  rw [hc] at hd
  cases hd

theorem isSome_digitIn? (h : isDigit c = true) : (Numeral.digitIn? 10 c).isSome = true := by
  obtain ⟨d, hd, rfl⟩ := Numeral.exists_digitChar h
  revert d
  decide

theorem ungrouped?_of_isDigit (hne : s ≠ []) (hall : ∀ c ∈ s, isDigit c = true) : ungrouped? 10 s = some s := by
  induction s with
  | nil => exact absurd rfl hne
  | cons c s ih =>
    obtain ⟨hc, hs⟩ := List.forall_mem_cons.1 hall
    obtain ⟨d, hd⟩ := Option.isSome_iff_exists.1 (isSome_digitIn? hc)
    rcases eq_or_ne s [] with rfl | hmore
    · rw [ungrouped?, hd]
      rfl
    · have hgroup : ∀ t, s = '_' :: t → False := by
        rintro t rfl
        exact absurd (hs '_' List.mem_cons_self) (by decide)
      rw [ungrouped?, hd, ih hmore hs]
      · rfl
      · exact hmore
      · exact hgroup

/-- only the numeral of zero begins with a zero -/
theorem eq_zero_of_head?_digits (h : (digits n).head? = some '0') : n = 0 := by
  induction n using Numeral.digits.induct with
  | case1 n hn =>
    rw [digits, if_pos hn] at h
    revert n
    decide
  | case2 n hn ih =>
    rw [digits, if_neg hn, List.head?_append_of_ne_nil _ (Numeral.digits_ne_nil _)] at h
    have hrest := ih h
    omega

theorem decimalDigits?_digits (n : Nat) : decimalDigits? (digits n) = some (digits n) := by
  have hread : ungrouped? 10 (digits n) = some (digits n) :=
    ungrouped?_of_isDigit (Numeral.digits_ne_nil n) fun _ hc => Numeral.isDigit_of_mem_digits hc
  have hzero : ¬ ((digits n).head? = some '0' ∧ (digits n).length ≠ 1) := by
    rintro ⟨hhead, hlen⟩
    rw [eq_zero_of_head?_digits hhead, digits, if_pos (by decide)] at hlen
    exact hlen rfl
  rw [decimalDigits?, hread]
  simp only [Option.bind_eq_bind, Option.bind_some, if_neg hzero]
  rfl

/-! ## No date and no time -/

theorem mem_of_after? (h : after? c s = some t) : c ∈ s := by
  cases s with
  | nil => cases h
  | cons d s =>
    rw [after?] at h
    split_ifs at h with hd
    rw [hd]
    exact List.mem_cons_self

theorem of_field? {k least most : Nat} (h : field? k least most s = some (v, t)) :
    t = s.drop k ∧ ∀ c ∈ s.take k, isDigit c = true := by
  unfold field? at h
  dsimp only at h
  split_ifs at h with hcond
  cases h
  exact ⟨rfl, List.all_eq_true.1 hcond.2.1⟩

/-- behind the two digits of a time there is a colon -/
theorem colon_of_time? (h : time? s = some t) : ':' ∈ s := by
  simp only [time?, Option.bind_eq_bind, Option.bind_eq_some_iff] at h
  obtain ⟨⟨hour, s₁⟩, hhour, s₂, hcolon, -⟩ := h
  rw [(of_field? hhour).1] at hcolon
  exact List.mem_of_mem_drop (mem_of_after? hcolon)

/-- a date begins with four digits, and behind them there is a dash -/
theorem dash_of_date? (h : date? s = some t) : (∀ c ∈ s.take 4, isDigit c = true) ∧ '-' ∈ s.drop 4 := by
  simp only [date?, Option.bind_eq_bind, Option.bind_eq_some_iff] at h
  obtain ⟨⟨year, s₁⟩, hyear, s₂, hdash, -⟩ := h
  obtain ⟨rfl, hdigits⟩ := of_field? hyear
  exact ⟨hdigits, mem_of_after? hdash⟩

theorem ofInt_cases (z : Int) : ofInt z = digits z.natAbs ∧ 0 ≤ z ∨ ofInt z = '-' :: digits z.natAbs ∧ z < 0 := by
  rw [ofInt]
  split_ifs with hz
  · exact .inr ⟨rfl, hz⟩
  · exact .inl ⟨rfl, Int.not_lt.1 hz⟩

theorem ofInt_ne_nil (z : Int) : ofInt z ≠ [] := by
  rcases ofInt_cases z with ⟨hz, -⟩ | ⟨hz, -⟩
  · rw [hz]
    exact Numeral.digits_ne_nil _
  · rw [hz]
    exact List.cons_ne_nil _ _

theorem isWordChar_of_mem_ofInt (h : c ∈ ofInt z) : isWordChar c = true := by
  have hdigits : c ∈ digits z.natAbs → isWordChar c = true :=
    fun hc => isWordChar_of_isDigit (Numeral.isDigit_of_mem_digits hc)
  rcases ofInt_cases z with ⟨hz, -⟩ | ⟨hz, -⟩
  · rw [hz] at h
    exact hdigits h
  · rw [hz, List.mem_cons] at h
    rcases h with rfl | h
    · decide
    · exact hdigits h

theorem date?_ofInt (z : Int) : date? (ofInt z) = none := by
  by_contra hsome
  obtain ⟨t, ht⟩ := Option.ne_none_iff_exists'.1 hsome
  obtain ⟨hdigits, hdash⟩ := dash_of_date? ht
  rcases ofInt_cases z with ⟨hz, -⟩ | ⟨hz, -⟩
  · rw [hz] at hdash
    exact absurd (Numeral.isDigit_of_mem_digits (List.mem_of_mem_drop hdash)) (by decide)
  · rw [hz] at hdigits
    exact absurd (hdigits '-' List.mem_cons_self) (by decide)

theorem time?_ofInt (z : Int) : time? (ofInt z) = none := by
  by_contra hsome
  obtain ⟨t, ht⟩ := Option.ne_none_iff_exists'.1 hsome
  have hcolon := colon_of_time? ht
  rcases ofInt_cases z with ⟨hz, -⟩ | ⟨hz, -⟩
  · rw [hz] at hcolon
    exact absurd (Numeral.isDigit_of_mem_digits hcolon) (by decide)
  · rw [hz, List.mem_cons] at hcolon
    exact absurd (Numeral.isDigit_of_mem_digits (hcolon.resolve_left (by decide))) (by decide)

theorem isMoment_ofInt (z : Int) : isMoment (ofInt z) = false := by
  rw [isMoment, time?_ofInt, date?_ofInt]
  rfl

/-! ## Numbers -/

/-- the sign of a numeral is taken off -/
theorem signed_ofInt (z : Int) : signed (ofInt z) = (decide (z < 0), digits z.natAbs) := by
  rcases ofInt_cases z with ⟨hz, hsign⟩ | ⟨hz, hsign⟩
  · rw [hz, decide_eq_false (Int.not_lt.2 hsign)]
    obtain ⟨d, ds, hds⟩ := List.exists_cons_of_ne_nil (Numeral.digits_ne_nil z.natAbs)
    have hd : isDigit d = true := Numeral.isDigit_of_mem_digits (hds ▸ List.mem_cons_self)
    rw [hds, signed]
    · exact fun _ h => absurd (List.cons.inj h).1 (ne_of_kind hd (by decide))
    · exact fun _ h => absurd (List.cons.inj h).1 (ne_of_kind hd (by decide))
  · rw [hz, decide_eq_true hsign, signed]

theorem isFraction_ofInt (z : Int) : isFraction (ofInt z) = false := by
  have hall : ∀ c ∈ digits z.natAbs, isDigit c = true := fun _ hc => Numeral.isDigit_of_mem_digits hc
  have hname : ∀ c t, isDigit c = false → digits z.natAbs ≠ c :: t :=
    fun c t hc h => absurd rfl (ne_of_kind (hall c (h ▸ List.mem_cons_self)) hc)
  have hparts : fractionParts? (digits z.natAbs) = none := by
    have hgroup : ∀ c ∈ digits z.natAbs, isGroup c = true := fun c hc => isGroup_of_isDigit (hall c hc)
    rw [fractionParts?, List.takeWhile_eq_self_iff.2 hgroup, List.dropWhile_eq_nil_iff.2 hgroup, decimalDigits?_digits]
    rfl
  rw [isFraction, signed_ofInt]
  dsimp only
  rw [hparts, decide_eq_false (hname 'i' _ (by decide)), decide_eq_false (hname 'n' _ (by decide))]
  rfl

theorem whole?_ofInt (z : Int) : whole? (ofInt z) = inRange? z := by
  have hbase : ∀ c t, isDigit c = false → ofInt z = '0' :: c :: t → False := by
    intro c t hc h
    rcases ofInt_cases z with ⟨hz, -⟩ | ⟨hz, -⟩
    · have hmem : c ∈ digits z.natAbs := by
        rw [← hz, h]
        exact List.mem_cons_of_mem _ List.mem_cons_self
      exact absurd rfl (ne_of_kind (Numeral.isDigit_of_mem_digits hmem) hc)
    · rw [hz] at h
      exact absurd (List.cons.inj h).1 (by decide)
  have hsign : (if decide (z < 0) = true then -(z.natAbs : Int) else z.natAbs) = z := by
    split_ifs with h
    · rw [Int.ofNat_natAbs_of_nonpos (of_decide_eq_true h).le, neg_neg]
    · exact Int.natAbs_of_nonneg (Int.not_lt.1 fun hz => h (decide_eq_true hz))
  rw [whole?]
  · rw [signed_ofInt]
    simp only [decimalDigits?_digits, Option.bind_eq_bind, Option.bind_some, Numeral.value_digits, hsign]
  · exact fun s => hbase 'x' s rfl
  · exact fun s => hbase 'o' s rfl
  · exact fun s => hbase 'b' s rfl

/-- **The numeral of a number that fits 64 bits with a sign is read as that number.** -/
theorem ofWord?_ofInt (h : Int64.minValue.toInt ≤ z ∧ z ≤ Int64.maxValue.toInt) :
    ofWord? (ofInt z) = some (.scalar (.whole z)) := by
  have hname : ∀ c t, isDigit c = false → c ≠ '-' → ofInt z ≠ c :: t := by
    intro c t hc hdash heq
    rcases ofInt_cases z with ⟨hz, -⟩ | ⟨hz, -⟩
    · have hmem : c ∈ digits z.natAbs := by
        rw [← hz, heq]
        exact List.mem_cons_self
      exact absurd rfl (ne_of_kind (Numeral.isDigit_of_mem_digits hmem) hc)
    · rw [hz] at heq
      exact hdash (List.cons.inj heq).1.symm
  rw [ofWord?, if_neg (hname 't' _ rfl (by decide)), if_neg (hname 'f' _ rfl (by decide)),
    isMoment_ofInt, if_neg Bool.false_ne_true, isFraction_ofInt, if_neg Bool.false_ne_true, whole?_ofInt, inRange?,
    if_pos h]
  rfl

/-! ## Words -/

/-- a word is cut off where the line ends -/
theorem word_append (hword : ∀ c ∈ w, isWordChar c = true) (r : List Char) :
    word (w ++ '\n' :: r) = (ofWord? w).map (·, '\n' :: r) := by
  have htake : (w ++ '\n' :: r).takeWhile isWordChar = w := by
    rw [List.takeWhile_append_of_pos hword]
    exact List.append_nil w
  have hdrop : (w ++ '\n' :: r).dropWhile isWordChar = '\n' :: r := by
    rw [List.dropWhile_append_of_pos hword]
    rfl
  simp only [word, htake, hdrop]
  split
  · next hblank => cases hblank
  · rfl

/-- a value begins with a quote or with a character of a word -/
theorem plainValue_eq_none (hword : isWordChar c = false) (hdouble : c ≠ '"') (hsingle : c ≠ '\x27') (s : List Char) :
    plainValue (c :: s) = none := by
  have hempty : (c :: s).takeWhile isWordChar = [] := List.takeWhile_cons_of_neg (Bool.eq_false_iff.1 hword)
  have hnone : word (c :: s) = none := by
    rw [word, hempty]
    rfl
  rw [plainValue, hnone]
  · exact fun _ h => hdouble (List.cons.inj h).1
  · exact fun _ h => hsingle (List.cons.inj h).1

theorem plainValue_of_read? (h : Quoted.read? s = some (t, r)) :
    plainValue s = some (.scalar (.text (String.ofList t)), r) := by
  unfold plainValue
  split
  · rw [h]
    rfl
  · rw [h]
    rfl
  · next hdouble hsingle =>
    unfold Quoted.read? at h
    split at h
    · exact absurd rfl (hdouble _)
    · exact absurd rfl (hdouble _)
    · exact absurd rfl (hsingle _)
    · exact absurd rfl (hsingle _)
    · cases h

theorem plainValue_word (hne : w ≠ []) (hword : ∀ c ∈ w, isWordChar c = true) (r : List Char) :
    plainValue (w ++ '\n' :: r) = (ofWord? w).map (·, '\n' :: r) := by
  obtain ⟨c, cs, rfl⟩ := List.exists_cons_of_ne_nil hne
  have hc : isWordChar c = true := hword c List.mem_cons_self
  rw [← word_append hword]
  unfold plainValue
  split
  · next hquote =>
    rw [(List.cons.inj hquote).1] at hc
    cases hc
  · next hquote =>
    rw [(List.cons.inj hquote).1] at hc
    cases hc
  · rfl

/-! ## Scalars -/

/-- **A scalar that can be written is read back** at the end of its line. -/
theorem plainValue_written {x : TomlScalar} {text : String} (h : x.written? = some text) (r : List Char) :
    plainValue (text.toList ++ '\n' :: r) = some (.scalar x, '\n' :: r) := by
  cases x with
  | text s =>
    obtain rfl := Option.some.inj h
    have hread : Quoted.read? ((Quoted.written s).toList ++ '\n' :: r) = some (s.toList, '\n' :: r) := by
      rw [Quoted.written, String.toList_ofList]
      have hend : ∀ q, q ≠ '\n' → ('\n' :: r).head? ≠ some q := fun q hq h => hq (Option.some.inj h).symm
      exact Quoted.read?_write s.toList (hend '"' (by decide)) (hend '\x27' (by decide))
    rw [plainValue_of_read? hread, String.ofList_toList]
  | whole z =>
    rw [TomlScalar.written?] at h
    split_ifs at h with hfits
    obtain rfl := Option.some.inj h
    rw [String.toList_ofList, plainValue_word _ (fun _ hc => isWordChar_of_mem_ofInt hc), ofWord?_ofInt hfits]
    · rfl
    · exact ofInt_ne_nil z
  | flag b =>
    obtain rfl := Option.some.inj h
    cases b with
    | false => exact plainValue_word (w := "false".toList) (by decide) (List.all_eq_true.1 (by decide)) r
    | true => exact plainValue_word (w := "true".toList) (by decide) (List.all_eq_true.1 (by decide)) r

/-- such a value stands by itself, outside of lists and braces -/
theorem value_of_plainValue {x : TomlValue} (depth : Nat) (h : plainValue s = some (x, r)) :
    value depth s = some (x, r) := by
  have hbegins : ∀ c t, isWordChar c = false → c ≠ '"' → c ≠ '\x27' → s = c :: t → False := by
    rintro c t hword hdouble hsingle rfl
    rw [plainValue_eq_none hword hdouble hsingle] at h
    cases h
  cases depth with
  | zero =>
    rw [value]
    · exact h
    · exact fun t => hbegins '[' t (by decide) (by decide) (by decide)
    · exact fun t => hbegins '\x7b' t (by decide) (by decide) (by decide)
  | succ depth =>
    rw [value]
    · exact h
    · exact fun t => hbegins '[' t (by decide) (by decide) (by decide)
    · exact fun t => hbegins '\x7b' t (by decide) (by decide) (by decide)

/-- and no blanks are taken off in front of it -/
theorem skipBlanks_of_plainValue {x : TomlValue} (h : plainValue s = some (x, r)) : skipBlanks s = s := by
  cases s with
  | nil => rfl
  | cons c t =>
    refine List.dropWhile_cons_of_neg ?_
    intro hblank
    rw [isBlank, Bool.or_eq_true, decide_eq_true_eq, decide_eq_true_eq] at hblank
    rcases hblank with rfl | rfl
    · rw [plainValue_eq_none (by decide) (by decide) (by decide)] at h
      cases h
    · rw [plainValue_eq_none (by decide) (by decide) (by decide)] at h
      cases h

end RemoteShutter.Toml
