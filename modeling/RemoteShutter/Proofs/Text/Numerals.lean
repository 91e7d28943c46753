/-
How numbers are spelled.

A number is written in one way and read in many: a plus sign may stand in front, and any zeros behind it.
- `value_digits`, `toNat?_padded`: numerals are read back, with zeros in front or without.
- `exists_zeros`: a run of digits is the numeral of its value, but for zeros in front.
- `toNat?_eq_some_iff`: so the spellings of a number are all that is read as this number, and no two of them are the same
  (`spelled_inj`).
- `toUInt32?_eq_some_iff`: a reader that has only 32 bits to count in reads the same, and refuses what does not fit.
-/
import Mathlib.Tactic
import RemoteShutter.Text.Numeral

namespace RemoteShutter.Numeral

/-! ## Digits -/

theorem isDigit_digitChar : ∀ d < 10, isDigit (digitChar d) = true := by decide

theorem digitValue_digitChar : ∀ d < 10, digitValue (digitChar d) = d := by decide

/-- there are only ten digits -/
theorem exists_digitChar {c : Char} (h : isDigit c = true) : ∃ d < 10, c = digitChar d := by
  rw [isDigit, Bool.and_eq_true, decide_eq_true_eq, decide_eq_true_eq] at h
  have hlow : 48 ≤ c.toNat := h.1
  have hhigh : c.toNat ≤ 57 := h.2
  refine ⟨c.toNat - 48, by omega, ?_⟩
  have hback : '0'.toNat + (c.toNat - 48) = c.toNat := Nat.add_sub_of_le hlow
  rw [digitChar, hback, Char.ofNat_toNat]

theorem value_concat (cs : List Char) (c : Char) : value (cs ++ [c]) = value cs * 10 + digitValue c := by
  rw [value, List.foldl_append]
  rfl

theorem value_replicate_zero (k : Nat) (cs : List Char) : value (List.replicate k '0' ++ cs) = value cs := by
  induction k with
  | zero => rfl
  | succ k ih => exact ih

theorem digits_ne_nil (n : Nat) : digits n ≠ [] := by
  rw [digits]
  split_ifs
  · exact List.cons_ne_nil _ _
  · exact List.append_ne_nil_of_right_ne_nil _ (List.cons_ne_nil _ _)

theorem isDigit_of_mem_digits {n : Nat} {c : Char} (h : c ∈ digits n) : isDigit c = true := by
  induction n using digits.induct with
  | case1 n hn =>
    rw [digits, if_pos hn, List.mem_singleton] at h
    rw [h]
    exact isDigit_digitChar n hn
  | case2 n hn ih =>
    rw [digits, if_neg hn, List.mem_append, List.mem_singleton] at h
    rcases h with h | h
    · exact ih h
    · rw [h]
      exact isDigit_digitChar _ (Nat.mod_lt _ (by decide))

theorem digitChar_eq : ∀ d < 10, digitChar d = Nat.digitChar d := by decide

theorem digits_eq_toDigits (n : Nat) : digits n = Nat.toDigits 10 n := by
  induction n using Nat.strong_induction_on with
  | _ n ih =>
    rw [digits]
    split_ifs with hlt
    · rw [Nat.toDigits_of_lt_base hlt, digitChar_eq n hlt]
    · rw [ih (n / 10) (by omega), digitChar_eq _ (Nat.mod_lt n (by decide)),
        Nat.toDigits_of_base_le (by decide) (Nat.le_of_not_lt hlt)]

/-- **The digits of a number are the usual ones.** -/
theorem digits_eq (n : Nat) : digits n = (toString n).toList := by
  rw [digits_eq_toDigits, Nat.toString_eq_repr, Nat.toList_repr]

/-- a numeral stands for the number it was made from -/
theorem value_digits (n : Nat) : value (digits n) = n := by
  induction n using digits.induct with
  | case1 n hn =>
    rw [digits, if_pos hn]
    exact (Nat.zero_add _).trans (digitValue_digitChar n hn)
  | case2 n hn ih =>
    rw [digits, if_neg hn, value_concat, ih, digitValue_digitChar _ (Nat.mod_lt _ (by decide))]
    omega

/-- one more digit, unless there is nothing but a zero in front of it -/
theorem digits_mul_ten_add {n d : Nat} (hn : n ≠ 0) (hd : d < 10) : digits (n * 10 + d) = digits n ++ [digitChar d] := by
  have hrest : (n * 10 + d) / 10 = n := by omega
  have hlast : (n * 10 + d) % 10 = d := by omega
  rw [digits, if_neg (by omega), hrest, hlast]

/-- **A run of digits is the numeral of its value with zeros in front.** -/
theorem exists_zeros {ds : List Char} (hne : ds ≠ []) (hall : ∀ c ∈ ds, isDigit c = true) :
    ∃ zeros, ds = List.replicate zeros '0' ++ digits (value ds) := by
  induction ds using List.reverseRecOn with
  | nil => exact absurd rfl hne
  | append_singleton front c ih =>
    obtain ⟨d, hd, rfl⟩ := exists_digitChar (hall c List.mem_concat_self)
    rw [value_concat, digitValue_digitChar d hd]
    rcases eq_or_ne front [] with rfl | hfront
    · refine ⟨0, ?_⟩
      rw [show value [] * 10 + d = d from Nat.zero_add d, digits, if_pos hd]
      rfl
    · obtain ⟨zeros, hzeros⟩ := ih hfront fun c hc => hall c (List.mem_append_left _ hc)
      rcases eq_or_ne (value front) 0 with hv | hv
      · -- so far there have been zeros only, and the last of them is one more in front
        refine ⟨zeros + 1, ?_⟩
        rw [hv, show digits 0 = ['0'] from by rw [digits]; rfl] at hzeros
        rw [hv, Nat.zero_mul, Nat.zero_add, List.replicate_succ', ← hzeros, digits, if_pos hd]
      · refine ⟨zeros, ?_⟩
        rw [digits_mul_ten_add hv hd, ← List.append_assoc, ← hzeros]

/-! ## Spellings -/

/-- a number with a plus sign in front or none, and with zeros behind it -/
def spelled (hasPlus : Bool) (zeros n : Nat) : List Char :=
  (if hasPlus then ['+'] else []) ++ (List.replicate zeros '0' ++ digits n)

theorem isDigit_of_mem_zeros {zeros n : Nat} {c : Char} (h : c ∈ List.replicate zeros '0' ++ digits n) :
    isDigit c = true := by
  rcases List.mem_append.1 h with h | h
  · rw [List.eq_of_mem_replicate h]
    rfl
  · exact isDigit_of_mem_digits h

theorem mem_spelled {hasPlus : Bool} {zeros n : Nat} {c : Char} (h : c ∈ spelled hasPlus zeros n) :
    c = '+' ∨ isDigit c = true := by
  rcases List.mem_append.1 h with h | h
  · cases hasPlus with
    | false => cases h
    | true => exact .inl (List.mem_singleton.1 h)
  · exact .inr (isDigit_of_mem_zeros h)

/-- no digit is a plus sign -/
theorem head?_ne_plus {ds : List Char} (hall : ∀ c ∈ ds, isDigit c = true) : ds.head? ≠ some '+' := by
  intro hplus
  exact absurd (hall '+' (List.mem_of_mem_head? hplus)) (by decide)

/-- a spelling tells how it was made -/
theorem spelled_inj {hasPlus hasPlus' : Bool} {zeros zeros' n : Nat} :
    spelled hasPlus zeros n = spelled hasPlus' zeros' n ↔ hasPlus = hasPlus' ∧ zeros = zeros' := by
  have hdigits : ∀ zeros, (List.replicate zeros '0' ++ digits n).head? ≠ some '+' :=
    fun zeros => head?_ne_plus fun c hc => isDigit_of_mem_zeros hc
  have hzeros : List.replicate zeros '0' ++ digits n = List.replicate zeros' '0' ++ digits n ↔ zeros = zeros' := by
    rw [List.append_left_inj]
    constructor
    · intro h
      simpa using congrArg List.length h
    · rintro rfl
      rfl
  cases hasPlus with
  | false =>
    cases hasPlus' with
    | false => exact hzeros.trans ⟨fun h => ⟨rfl, h⟩, And.right⟩
    | true => exact ⟨fun h => absurd (congrArg List.head? h) (hdigits zeros), fun h => absurd h.1 (by decide)⟩
  | true =>
    cases hasPlus' with
    | false => exact ⟨fun h => absurd (congrArg List.head? h).symm (hdigits zeros'), fun h => absurd h.1 (by decide)⟩
    | true => exact (List.cons_inj_right '+').trans (hzeros.trans ⟨fun h => ⟨rfl, h⟩, And.right⟩)

/-! ## Readers -/

/-- what stands behind a plus sign, if there is one -/
def unsigned : List Char → List Char
  | '+' :: r => r
  | r => r

theorem unsigned_of_head? {cs : List Char} (h : cs.head? ≠ some '+') : unsigned cs = cs := by
  unfold unsigned
  split
  · exact absurd rfl h
  · rfl

/-- a plus sign in front or none, and then what is read -/
theorem exists_plus (cs : List Char) : ∃ hasPlus : Bool, cs = (if hasPlus then ['+'] else []) ++ unsigned cs := by
  unfold unsigned
  split
  · exact ⟨true, rfl⟩
  · exact ⟨false, rfl⟩

theorem unsigned_spelled (hasPlus : Bool) (zeros n : Nat) :
    unsigned (spelled hasPlus zeros n) = List.replicate zeros '0' ++ digits n := by
  cases hasPlus with
  | false => exact unsigned_of_head? (head?_ne_plus fun c hc => isDigit_of_mem_zeros hc)
  | true => rfl

theorem toNat?_iff {cs : List Char} {n : Nat} :
    toNat? cs = some n ↔ unsigned cs ≠ [] ∧ (∀ c ∈ unsigned cs, isDigit c = true) ∧ value (unsigned cs) = n := by
  have hread : toNat? cs =
      if (unsigned cs).isEmpty || !(unsigned cs).all isDigit then none else some (value (unsigned cs)) := rfl
  rw [hread]
  split_ifs with hbad
  · rw [Bool.or_eq_true, List.isEmpty_iff, Bool.not_eq_true', List.all_eq_false] at hbad
    constructor
    · nofun
    · rintro ⟨hne, hall, -⟩
      rcases hbad with hempty | ⟨c, hc, hdigit⟩
      · exact absurd hempty hne
      · exact absurd (hall c hc) hdigit
  · rw [Bool.or_eq_true, not_or, List.isEmpty_iff, Bool.not_eq_true', Bool.not_eq_false, List.all_eq_true] at hbad
    rw [Option.some.injEq]
    exact ⟨fun h => ⟨hbad.1, hbad.2, h⟩, fun h => h.2.2⟩

/-- **What is read as a number is a spelling of it.** -/
theorem toNat?_eq_some_iff {cs : List Char} {n : Nat} : toNat? cs = some n ↔ ∃ hasPlus zeros, cs = spelled hasPlus zeros n := by
  rw [toNat?_iff]
  constructor
  · rintro ⟨hne, hall, rfl⟩
    obtain ⟨hasPlus, hplus⟩ := exists_plus cs
    obtain ⟨zeros, hzeros⟩ := exists_zeros hne hall
    refine ⟨hasPlus, zeros, hplus.trans ?_⟩
    rw [spelled, ← hzeros]
  · rintro ⟨hasPlus, zeros, rfl⟩
    rw [unsigned_spelled]
    refine ⟨List.append_ne_nil_of_right_ne_nil _ (digits_ne_nil n), fun c hc => isDigit_of_mem_zeros hc, ?_⟩
    rw [value_replicate_zero, value_digits]

theorem padded_eq (width n : Nat) : padded width n = spelled false (width - (digits n).length) n := rfl

/-- **A numeral with zeros in front is read back.** -/
theorem toNat?_padded (width n : Nat) : toNat? (padded width n) = some n :=
  toNat?_eq_some_iff.2 ⟨_, _, padded_eq width n⟩

/-! ## Readers of 32 bits -/

/-- takes in one more digit, as long as 32 bits can hold the number -/
def grow (w : UInt32) (c : Char) : Option UInt32 :=
  if isDigit c = true ∧ w.toNat * 10 + digitValue c < 2 ^ 32 then some (w * 10 + .ofNat (digitValue c)) else none

/-- a number of 32 bits, read digit by digit -/
def toUInt32? (cs : List Char) : Option UInt32 :=
  if unsigned cs = [] then none else (unsigned cs).foldlM grow 0

theorem grow_eq_some_iff {w v : UInt32} {c : Char} :
    grow w c = some v ↔ isDigit c = true ∧ v.toNat = w.toNat * 10 + digitValue c := by
  have hexact : w.toNat * 10 + digitValue c < 2 ^ 32 →
      (w * 10 + UInt32.ofNat (digitValue c)).toNat = w.toNat * 10 + digitValue c := by
    intro hfits
    rw [UInt32.toNat_add, UInt32.toNat_mul, UInt32.toNat_ofNat']
    simp only [UInt32.reduceToNat]
    omega
  unfold grow
  split_ifs with h
  · rw [Option.some.injEq]
    constructor
    · rintro rfl
      exact ⟨h.1, hexact h.2⟩
    · rintro ⟨-, hv⟩
      exact UInt32.toNat.inj ((hexact h.2).trans hv.symm)
  · constructor
    · nofun
    · rintro ⟨hdigit, hv⟩
      exact absurd ⟨hdigit, hv ▸ v.toNat_lt⟩ h

/-- the value of a run of digits behind a number that has been read so far -/
def valueAfter (n : Nat) (ds : List Char) : Nat :=
  ds.foldl (fun n c => n * 10 + digitValue c) n

theorem le_valueAfter (n : Nat) (ds : List Char) : n ≤ valueAfter n ds := by
  induction ds generalizing n with
  | nil => exact le_rfl
  | cons c ds ih =>
    calc n ≤ n * 10 + digitValue c := by omega
      _ ≤ valueAfter n (c :: ds) := ih _

theorem foldlM_grow_eq_some_iff {w v : UInt32} {ds : List Char} :
    ds.foldlM grow w = some v ↔ (∀ c ∈ ds, isDigit c = true) ∧ valueAfter w.toNat ds = v.toNat := by
  induction ds generalizing w with
  | nil =>
    constructor
    · intro h
      cases h
      exact ⟨nofun, rfl⟩
    · rintro ⟨-, h⟩
      exact congrArg some (UInt32.toNat.inj h)
  | cons c ds ih =>
    rw [List.foldlM_cons, Option.bind_eq_bind, Option.bind_eq_some_iff, List.forall_mem_cons]
    constructor
    · rintro ⟨w', hgrow, hrest⟩
      obtain ⟨hdigit, hw'⟩ := grow_eq_some_iff.1 hgrow
      obtain ⟨hall, hv⟩ := ih.1 hrest
      rw [hw'] at hv
      exact ⟨⟨hdigit, hall⟩, hv⟩
    · rintro ⟨⟨hdigit, hall⟩, hv⟩
      -- what has been read so far is no more than the whole, which fits
      have hfits : w.toNat * 10 + digitValue c < 2 ^ 32 :=
        calc w.toNat * 10 + digitValue c ≤ valueAfter w.toNat (c :: ds) := le_valueAfter _ ds
          _ = v.toNat := hv
          _ < 2 ^ 32 := v.toNat_lt
      have hw' : (UInt32.ofNat (w.toNat * 10 + digitValue c)).toNat = w.toNat * 10 + digitValue c :=
        UInt32.toNat_ofNat_of_lt' hfits
      refine ⟨_, grow_eq_some_iff.2 ⟨hdigit, hw'⟩, ih.2 ⟨hall, ?_⟩⟩
      rw [hw']
      exact hv

/-- **Numbers of 32 bits are read as all others are**, and what takes more bits is refused. -/
theorem toUInt32?_eq_some_iff {cs : List Char} {w : UInt32} : toUInt32? cs = some w ↔ toNat? cs = some w.toNat := by
  rw [toNat?_iff, toUInt32?]
  split_ifs with hempty
  · constructor
    · nofun
    · rintro ⟨hne, -⟩
      exact absurd hempty hne
  · rw [foldlM_grow_eq_some_iff]
    exact ⟨fun h => ⟨hempty, h⟩, And.right⟩

example : toUInt32? "+04294967295".toList = some 4294967295 ∧ toUInt32? "4294967296".toList = none := by decide +kernel

end RemoteShutter.Numeral
