/-
What statistics say about their samples.

Samples are taken in one after the other. Apart from the last sample and the sum, which stops at the ends of its range,
what is kept does not depend on their order.
- `record?`, `recordAll?`: taking in samples with a guard on each counter.
- `exposures_recordAll`, `late_recordAll`: the counters count, modulo 2³²; `recordAll?_eq`: no guard stops before that.
- `largest_recordAll`: the maximum is the largest sample, whatever the signs.
- `total_recordAll`: the sum is exact as long as no sum on the way leaves 64 bits.
- `mean?_recordAll`: the mean is the sum divided by the count, cut off toward zero, and never overflows.
- `recordAll_exact`: all of this together.
-/
import Mathlib.Tactic
import RemoteShutter.Telemetry.TimingStats

namespace RemoteShutter

/-! ## Numbers of 64 bits -/

/-- 64 bits hold the number -/
def Int64.Fits (z : Int) : Prop :=
  -2 ^ 63 ≤ z ∧ z < 2 ^ 63

theorem Int64.fits_toInt (a : Int64) : Int64.Fits a.toInt :=
  ⟨a.le_toInt, a.toInt_lt⟩

theorem Int64.toInt_toInt64 {z : Int} (h : Int64.Fits z) : z.toInt64.toInt = z :=
  Int64.toInt_ofInt_of_le h.1 h.2

/-- a sum that fits is not cut off -/
theorem Int64.toInt_addSaturating {a b : Int64} (h : Int64.Fits (a.toInt + b.toInt)) :
    (Int64.addSaturating a b).toInt = a.toInt + b.toInt := by
  obtain ⟨hlow, hhigh⟩ := h
  have hmin : ¬ a.toInt + b.toInt < Int64.minValue.toInt := by
    rw [Int64.toInt_minValue]
    omega
  have hmax : ¬ Int64.maxValue.toInt < a.toInt + b.toInt := by
    rw [Int64.toInt_maxValue]
    omega
  rw [addSaturating, if_neg hmin, if_neg hmax, Int64.toInt_add]
  apply Int.bmod_eq_of_le
  · norm_num
    exact hlow
  · norm_num
    exact hhigh

/-- a quotient cut off toward zero is no less than what goes into the number so often -/
theorem le_tdiv {z low : Int} {n : Nat} (hn : 0 < n) (h : n * low ≤ z) : low ≤ Int.tdiv z n := by
  have hpos : (0 : Int) < n := Int.natCast_pos.2 hn
  rcases Int.le_total 0 z with hz | hz
  · rw [Int.tdiv_eq_ediv_of_nonneg hz]
    apply Int.le_ediv_of_mul_le hpos
    rwa [Int.mul_comm]
  · -- it is the negative of the quotient of `-z`, which is not negative
    have hneg : Int.tdiv z n = -(-z / n) := by
      rw [← Int.tdiv_eq_ediv_of_nonneg (by omega), Int.neg_tdiv, Int.neg_neg]
    have hupper : -z / n ≤ -low := by
      apply Int.ediv_le_of_le_mul hpos
      calc -z
        _ ≤ -(n * low) := Int.neg_le_neg h
        _ = -low * n := by ring
    omega

/-- and no more -/
theorem tdiv_le {z high : Int} {n : Nat} (hn : 0 < n) (h : z ≤ n * high) : Int.tdiv z n ≤ high := by
  have hneg : -high ≤ Int.tdiv (-z) n := by
    apply le_tdiv hn
    calc n * -high
      _ = -(n * high) := by ring
      _ ≤ -z := Int.neg_le_neg h
  rw [Int.neg_tdiv] at hneg
  omega

namespace TimingStats

variable {s : TimingStats} {samples : List Int64}

/-! ## Guards -/

/-- a counter, one more, unless it would pass its end -/
def next? (n : UInt32) : Option UInt32 :=
  if n.toNat + 1 < 2 ^ 32 then some (n + 1) else none

/-- takes in one sample, unless a counter would pass its end -/
def record? (s : TimingStats) (sample : Int64) : Option TimingStats := do
  let exposures ← next? s.exposures
  let late ← if 0 < sample then next? s.late else some s.late
  return {
    exposures := exposures
    total := Int64.addSaturating s.total sample
    max := if s.exposures = 0 ∨ s.max < sample then sample else s.max
    last := sample
    late := late }

/-- takes in the samples one after the other, unless a counter would pass its end -/
def recordAll? (s : TimingStats) (samples : List Int64) : Option TimingStats :=
  samples.foldlM record? s

theorem next?_of_lt {n : UInt32} (h : n.toNat + 1 < 2 ^ 32) : next? n = some (n + 1) :=
  if_pos h

theorem record?_eq (he : s.exposures.toNat + 1 < 2 ^ 32) (hl : s.late.toNat + 1 < 2 ^ 32) (sample : Int64) :
    s.record? sample = some (s.record sample) := by
  simp only [record?, next?_of_lt he, next?_of_lt hl, Option.bind_eq_bind, Option.bind_some, Option.pure_def]
  by_cases hpos : 0 < sample
  · rw [if_pos hpos, record, if_pos hpos]
  · rw [if_neg hpos, record, if_neg hpos]

/-! ## One sample more -/

theorem recordAll_concat (s : TimingStats) (samples : List Int64) (sample : Int64) :
    s.recordAll (samples ++ [sample]) = (s.recordAll samples).record sample := by
  rw [recordAll, List.foldl_append]
  rfl

theorem recordAll?_concat (s : TimingStats) (samples : List Int64) (sample : Int64) :
    s.recordAll? (samples ++ [sample]) = (s.recordAll? samples).bind (record? · sample) := by
  rw [recordAll?, List.foldlM_append]
  simp [recordAll?]

/-! ## Counters -/

/-- **The counter counts the samples.** -/
theorem exposures_recordAll (samples : List Int64) :
    (recordAll {} samples).exposures.toNat = samples.length % 2 ^ 32 := by
  induction samples using List.reverseRecOn with
  | nil => rfl
  | append_singleton samples sample ih =>
    rw [recordAll_concat, record, UInt32.toNat_add, ih, List.length_append, List.length_singleton]
    exact Nat.mod_add_mod _ _ _

/-- **The other counter counts the positive ones.** -/
theorem late_recordAll (samples : List Int64) :
    (recordAll {} samples).late.toNat = samples.countP (0 < ·) % 2 ^ 32 := by
  induction samples using List.reverseRecOn with
  | nil => rfl
  | append_singleton samples sample ih =>
    rw [recordAll_concat, List.countP_append, record]
    by_cases hpos : 0 < sample
    · rw [if_pos hpos, UInt32.toNat_add, ih, List.countP_singleton, if_pos (by simpa using hpos)]
      exact Nat.mod_add_mod _ _ _
    · rw [if_neg hpos, ih, List.countP_singleton, if_neg (by simpa using hpos), Nat.add_zero]

theorem exposures_of_lt (hfew : samples.length < 2 ^ 32) :
    (recordAll {} samples).exposures.toNat = samples.length := by
  rw [exposures_recordAll, Nat.mod_eq_of_lt hfew]

theorem late_of_lt (hfew : samples.length < 2 ^ 32) :
    (recordAll {} samples).late.toNat = samples.countP (0 < ·) := by
  rw [late_recordAll, Nat.mod_eq_of_lt (Nat.lt_of_le_of_lt List.countP_le_length hfew)]

/-- **No counter passes its end.** -/
theorem recordAll?_eq (hfew : samples.length < 2 ^ 32) : recordAll? {} samples = some (recordAll {} samples) := by
  induction samples using List.reverseRecOn with
  | nil => rfl
  | append_singleton samples sample ih =>
    rw [List.length_append, List.length_singleton] at hfew
    have hbefore : samples.length < 2 ^ 32 := by omega
    have hlate : samples.countP (0 < ·) ≤ samples.length := List.countP_le_length
    rw [recordAll?_concat, ih hbefore, recordAll_concat]
    apply record?_eq
    · rwa [exposures_of_lt hbefore]
    · rw [late_of_lt hbefore]
      omega

/-! ## The largest sample -/

/-- a sample, and none is larger -/
structure IsLargest (sample : Int64) (samples : List Int64) : Prop where
  mem : sample ∈ samples
  le : ∀ x ∈ samples, x ≤ sample

/-- there is only one -/
theorem IsLargest.unique {a b : Int64} {others : List Int64} (ha : IsLargest a samples) (hb : IsLargest b others)
    (hp : others.Perm samples) : b = a :=
  Int64.le_antisymm (ha.le b (hp.subset hb.mem)) (hb.le a (hp.symm.subset ha.mem))

/-- **The maximum is the largest sample**: the first one counts whatever its sign. -/
theorem largest_recordAll (hne : samples ≠ []) (hfew : samples.length < 2 ^ 32) :
    IsLargest (recordAll {} samples).max samples := by
  induction samples using List.reverseRecOn with
  | nil => exact absurd rfl hne
  | append_singleton samples sample ih =>
    rw [List.length_append, List.length_singleton] at hfew
    have hcount : (recordAll {} samples).exposures.toNat = samples.length := exposures_of_lt (by omega)
    rw [recordAll_concat, record]
    rcases eq_or_ne samples [] with rfl | hsome
    · exact ⟨List.mem_singleton_self sample, fun x hx => Int64.le_of_eq (List.mem_singleton.1 hx)⟩
    · obtain ⟨hmem, hle⟩ := ih hsome (by omega)
      have hstarted : (recordAll {} samples).exposures ≠ 0 := by
        intro hzero
        rw [hzero, UInt32.toNat_zero] at hcount
        exact hsome (List.length_eq_zero_iff.1 hcount.symm)
      dsimp only
      split_ifs with hbig
      · -- a new largest sample
        have hgreater := hbig.resolve_left hstarted
        refine ⟨List.mem_append_right _ (List.mem_singleton_self sample), fun x hx => ?_⟩
        rcases List.mem_append.1 hx with hx | hx
        · exact Int64.le_trans (hle x hx) (Int64.le_of_lt hgreater)
        · exact Int64.le_of_eq (List.mem_singleton.1 hx)
      · refine ⟨List.mem_append_left _ hmem, fun x hx => ?_⟩
        rcases List.mem_append.1 hx with hx | hx
        · exact hle x hx
        · rw [List.mem_singleton.1 hx]
          exact Int64.not_lt.1 fun hlt => hbig (.inr hlt)

/-! ## Sum and mean -/

/-- the sum of samples, of any size -/
def sum (samples : List Int64) : Int :=
  (samples.map Int64.toInt).sum

/-- no sum on the way leaves 64 bits -/
def SumsFit (samples : List Int64) : Prop :=
  ∀ part, part <+: samples → Int64.Fits (sum part)

theorem sum_concat (samples : List Int64) (sample : Int64) : sum (samples ++ [sample]) = sum samples + sample.toInt := by
  simp [sum]

theorem SumsFit.of_concat {sample : Int64} (h : SumsFit (samples ++ [sample])) : SumsFit samples :=
  fun part hpart => h part (hpart.trans (List.prefix_append _ _))

/-- **The sum is exact** if no sum on the way leaves its range. -/
theorem total_recordAll (h : SumsFit samples) : (recordAll {} samples).total.toInt = sum samples := by
  induction samples using List.reverseRecOn with
  | nil => rfl
  | append_singleton samples sample ih =>
    have hbefore := ih h.of_concat
    have hfits := h _ List.prefix_rfl
    rw [sum_concat, ← hbefore] at hfits
    calc (recordAll {} (samples ++ [sample])).total.toInt
      _ = (Int64.addSaturating (recordAll {} samples).total sample).toInt := by rw [recordAll_concat]; rfl
      _ = (recordAll {} samples).total.toInt + sample.toInt := Int64.toInt_addSaturating hfits
      _ = sum (samples ++ [sample]) := by rw [hbefore, sum_concat]

/-- a quotient by a count fits -/
theorem fits_tdiv {z : Int} (h : Int64.Fits z) {n : Nat} (hn : 0 < n) : Int64.Fits (Int.tdiv z n) := by
  obtain ⟨hlow, hhigh⟩ := h
  have hone : (1 : Int) ≤ n := Int.natCast_pos.2 hn
  refine ⟨le_tdiv hn ?_, Int.lt_of_le_sub_one (tdiv_le hn ?_)⟩
  · nlinarith
  · nlinarith

/-- **The mean is the sum divided by the count**, cut off toward zero. -/
theorem mean?_recordAll (hne : samples ≠ []) (hfew : samples.length < 2 ^ 32) :
    ∃ mean, (recordAll {} samples).mean? = some mean ∧
      mean.toInt = Int.tdiv (recordAll {} samples).total.toInt samples.length := by
  have hcount := exposures_of_lt hfew
  have hpos : 0 < samples.length := List.length_pos_iff.2 hne
  have hstarted : (recordAll {} samples).exposures ≠ 0 := by
    intro hzero
    rw [hzero, UInt32.toNat_zero] at hcount
    omega
  refine ⟨_, if_neg hstarted, ?_⟩
  rw [hcount]
  exact Int64.toInt_toInt64 (fits_tdiv (Int64.fits_toInt _) hpos)

/-- every sample is at least `low`, so the sum is at least as often that -/
theorem le_sum {low : Int64} (h : ∀ x ∈ samples, low ≤ x) : samples.length * low.toInt ≤ sum samples := by
  have hsum := List.card_nsmul_le_sum (samples.map Int64.toInt) low.toInt fun z hz => by
    obtain ⟨x, hx, rfl⟩ := List.mem_map.1 hz
    exact Int64.le_iff_toInt_le.1 (h x hx)
  simpa [sum] using hsum

theorem sum_le {high : Int64} (h : ∀ x ∈ samples, x ≤ high) : sum samples ≤ samples.length * high.toInt := by
  have hsum := List.sum_le_card_nsmul (samples.map Int64.toInt) high.toInt fun z hz => by
    obtain ⟨x, hx, rfl⟩ := List.mem_map.1 hz
    exact Int64.le_iff_toInt_le.1 (h x hx)
  simpa [sum] using hsum

/-! ## All together -/

/-- **Statistics are exact.** Take any samples, at least one and less than 2³², and take them in one after the other,
from empty statistics on. No counter passes its end; the count is the number of samples, the last one is the last, the
maximum is the largest, whatever the signs, and as many are late as are positive. In another order the same samples give
the same count, maximum and late count. The mean is there, and is the kept sum divided by the count, cut off toward zero.
If no sum on the way leaves 64 bits, the kept sum is the sum of the samples, and the mean is no less than the least and
no more than the largest of them. -/
theorem recordAll_exact (hne : samples ≠ []) (hfew : samples.length < 2 ^ 32) :
    let s := recordAll {} samples
    recordAll? {} samples = some s ∧ s.exposures.toNat = samples.length ∧ samples.getLast? = some s.last ∧
      IsLargest s.max samples ∧ s.late.toNat = samples.countP (0 < ·) ∧
      (∀ others, others.Perm samples →
        let o := recordAll {} others
        o.exposures = s.exposures ∧ o.max = s.max ∧ o.late = s.late) ∧
      ∃ mean, s.mean? = some mean ∧ mean.toInt = Int.tdiv s.total.toInt samples.length ∧
        (SumsFit samples → s.total.toInt = sum samples ∧ mean.toInt = Int.tdiv (sum samples) samples.length ∧
          (∀ least, (∀ x ∈ samples, least ≤ x) → least ≤ mean) ∧ mean ≤ s.max) := by
  intro s
  have hlargest : IsLargest s.max samples := largest_recordAll hne hfew
  obtain ⟨mean, hmean, hvalue⟩ := mean?_recordAll hne hfew
  refine ⟨recordAll?_eq hfew, exposures_of_lt hfew, ?_, hlargest, late_of_lt hfew, ?_, mean, hmean, hvalue, ?_⟩
  · obtain ⟨front, x, rfl⟩ := (List.eq_nil_or_concat samples).resolve_left hne
    simp [s, recordAll_concat, record]
  · intro others hp o
    have hlength : others.length = samples.length := hp.length_eq
    have hother : IsLargest o.max others := by
      apply largest_recordAll
      · rintro rfl
        exact hne (List.nil_perm.1 hp)
      · omega
    refine ⟨UInt32.toNat_inj.1 ?_, hlargest.unique hother hp, UInt32.toNat_inj.1 ?_⟩
    · rw [exposures_recordAll, exposures_recordAll, hlength]
    · rw [late_recordAll, late_recordAll, hp.countP_eq]
  · intro hfits
    have htotal : s.total.toInt = sum samples := total_recordAll hfits
    have hexact : mean.toInt = Int.tdiv (sum samples) samples.length := htotal ▸ hvalue
    have hpos : 0 < samples.length := List.length_pos_iff.2 hne
    refine ⟨htotal, hexact, fun least hleast => ?_, ?_⟩
    · rw [Int64.le_iff_toInt_le, hexact]
      exact le_tdiv hpos (le_sum hleast)
    · rw [Int64.le_iff_toInt_le, hexact]
      exact tdiv_le hpos (sum_le hlargest.le)

/-- three samples, one of them late, with a mean of -400 / 3 -/
theorem recordAll_exact_three :
    let samples : List Int64 := [-500, 200, -100]
    samples ≠ [] ∧ samples.length < 2 ^ 32 ∧ SumsFit samples ∧
      IsLargest (recordAll {} samples).max samples ∧ (recordAll {} samples).total.toInt = sum samples ∧
      sum samples = -400 ∧ ∃ mean, (recordAll {} samples).mean? = some mean ∧ mean.toInt = -133 ∧ -500 ≤ mean := by
  intro samples
  have hne : samples ≠ [] := by decide
  have hfew : samples.length < 2 ^ 32 := by decide
  have hfits : SumsFit samples := by
    intro part hpart
    have hmem : part ∈ samples.inits := (List.mem_inits part samples).2 hpart
    fin_cases hmem <;> exact ⟨by decide, by decide⟩
  obtain ⟨-, -, -, hlargest, -, -, mean, hmean, -, hexact⟩ := recordAll_exact hne hfew
  obtain ⟨htotal, hvalue, hleast, -⟩ := hexact hfits
  have hsum : sum samples = -400 := by decide
  have hlow : ∀ x ∈ samples, -500 ≤ x := by
    intro x hx
    simp only [samples, List.mem_cons, List.not_mem_nil, or_false] at hx
    rcases hx with rfl | rfl | rfl <;> decide
  refine ⟨hne, hfew, hfits, hlargest, htotal, hsum, mean, hmean, ?_, hleast (-500) hlow⟩
  rw [hvalue, hsum]
  decide

end TimingStats

end RemoteShutter
