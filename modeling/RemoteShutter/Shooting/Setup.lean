/-
Valid parameters of the capture functions, and how they come from what a client sends.

The number of exposures is -1 for no limit, or zero or more. An exposure time is not negative, a period is positive.
Of several faults the period is reported before the number of exposures, and that before the exposure time.
-/
import RemoteShutter.Telecommand.Basic

namespace RemoteShutter

/-- how many exposures a function takes -/
inductive ShotCount where
  | limited (n : UInt32)
  | unbounded
  deriving DecidableEq, Repr

inductive TimingFault where
  /-- microseconds -/
  | negativeExposure (t : Int32)
  /-- milliseconds -/
  | interval (t : Int32)
  deriving DecidableEq, Repr

inductive SetupError where
  | shotCount (n : Int32)
  | timing (fault : TimingFault)
  deriving DecidableEq, Repr

def TimingFault.message : TimingFault → String
  | negativeExposure t => s!"negative exposure time {t.toInt} us"
  | interval t => s!"interval must be positive, got {t.toInt} ms"

def SetupError.message : SetupError → String
  | shotCount n => s!"invalid number of exposures: {n.toInt}"
  | timing fault => s!"invalid timing: {fault.message}"

namespace ShotCount

/-- whether another shot is due after `taken` shots -/
def allows (c : ShotCount) (taken : UInt32) : Bool :=
  match c with
  | limited n => taken < n
  | unbounded => true

/-- the number as a client sees it -/
def toInt64 : ShotCount → Int64
  | limited n => n.toNat.toInt64
  | unbounded => -1

def isUnbounded : ShotCount → Bool
  | limited _ => false
  | unbounded => true

def ofInt32 (n : Int32) : Except SetupError ShotCount :=
  if n = -1 then .ok unbounded
  else if n < 0 then .error (.shotCount n)
  else .ok (limited n.toUInt32)

end ShotCount

/-- an exposure time in microseconds -/
def exposureOfInt32 (t : Int32) : Except SetupError UInt32 :=
  if t < 0 then .error (.timing (.negativeExposure t)) else .ok t.toUInt32

structure SequencerConfig where
  shots : ShotCount
  /-- microseconds -/
  exposure : UInt32
  deriving DecidableEq, Repr

structure IntervalometerConfig where
  shots : ShotCount
  /-- microseconds -/
  exposure : UInt32
  /-- milliseconds from the start of one exposure to the next -/
  interval : UInt64
  deriving DecidableEq, Repr

def SequencerConfig.ofSetup (s : SequencerSetup) : Except SetupError SequencerConfig := do
  let shots ← ShotCount.ofInt32 s.exposures
  let exposure ← exposureOfInt32 s.exposureTime
  return ⟨shots, exposure⟩

def IntervalometerConfig.ofSetup (s : IntervalometerSetup) : Except SetupError IntervalometerConfig := do
  if s.interval ≤ 0 then throw (.timing (.interval s.interval))
  let shots ← ShotCount.ofInt32 s.exposures
  let exposure ← exposureOfInt32 s.exposureTime
  return ⟨shots, exposure, s.interval.toInt.toNat.toUInt64⟩

end RemoteShutter
