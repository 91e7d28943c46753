/-
Timing statistics of the shots of a function, in microseconds.

A sample says how late a shot was against its plan: positive is late. Kept are the number of samples, their sum (which
stops at the ends of its range), the largest, the last, and how many were late.
-/

namespace RemoteShutter

structure TimingStats where
  exposures : UInt32 := 0
  total : Int64 := 0
  max : Int64 := 0
  last : Int64 := 0
  late : UInt32 := 0
  deriving DecidableEq, Repr

/-- the sum, or the end of the range that it would pass -/
def Int64.addSaturating (a b : Int64) : Int64 :=
  let sum := a.toInt + b.toInt
  if sum < Int64.minValue.toInt then Int64.minValue else if Int64.maxValue.toInt < sum then Int64.maxValue else a + b

namespace TimingStats

/-- takes in one sample -/
def record (s : TimingStats) (sample : Int64) : TimingStats where
  exposures := s.exposures + 1
  total := Int64.addSaturating s.total sample
  max := if s.exposures = 0 ∨ s.max < sample then sample else s.max
  last := sample
  late := if 0 < sample then s.late + 1 else s.late

/-- takes in the samples one after the other -/
def recordAll (s : TimingStats) (samples : List Int64) : TimingStats :=
  samples.foldl record s

/-- the mean sample, cut off toward zero; none before the first -/
def mean? (s : TimingStats) : Option Int64 :=
  if s.exposures = 0 then none else some (Int.tdiv s.total.toInt s.exposures.toNat).toInt64

end TimingStats

end RemoteShutter
