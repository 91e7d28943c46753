/-
What a capture function is set up to do.

A sequencer takes exposures one after the other; a sample is the time a shot took beyond its exposure. An intervalometer
starts one exposure per period; a sample is the time between the end of the shot and the end of its period, negative if
the shot was over in time. Times of the clock are in nanoseconds, samples in whole microseconds, cut off toward zero.
-/
import RemoteShutter.Shooting.Setup
import RemoteShutter.Telemetry.StatusReport

namespace RemoteShutter

inductive Plan where
  | sequencer (config : SequencerConfig)
  | intervalometer (config : IntervalometerConfig)
  deriving DecidableEq, Repr

/-- nanoseconds as whole microseconds, or the largest number that 64 bits hold -/
def Int64.ofNanos (time : Nat) : Int64 :=
  if Int64.maxValue.toInt < (time / 1000 : Nat) then Int64.maxValue else (time / 1000).toInt64

/-- whole microseconds from `deadline` to `now`, negative if `now` comes first -/
def Int64.signedMicros (now deadline : Nat) : Int64 :=
  if deadline ≤ now then Int64.ofNanos (now - deadline) else -Int64.ofNanos (deadline - now)

namespace Plan

def kind : Plan → FunctionKind
  | sequencer _ => .sequencer
  | intervalometer _ => .intervalometer

def shots : Plan → ShotCount
  | sequencer c => c.shots
  | intervalometer c => c.shots

/-- microseconds -/
def exposure : Plan → UInt32
  | sequencer c => c.exposure
  | intervalometer c => c.exposure

/-- milliseconds from one exposure to the next, if that is planned -/
def interval? : Plan → Option UInt64
  | sequencer _ => none
  | intervalometer c => some c.interval

/-- the name of the thread that takes the shots -/
def threadName : Plan → String
  | sequencer _ => "camctl-sequencer"
  | intervalometer _ => "camctl-intervalometer"

/-- the length of a period in nanoseconds -/
def period (p : Plan) : Nat :=
  (p.interval?.getD 0).toNat * 1000000

/-- the sample of a shot that began at `start` and is over at `now` -/
def sample (p : Plan) (start now : Nat) : Int64 :=
  match p with
  | sequencer c => Int64.ofNanos (now - start) - c.exposure.toNat.toInt64
  | intervalometer _ => Int64.signedMicros now (start + p.period)

/-- a period that nobody waits for -/
def isLongInterval (p : Plan) : Bool :=
  match p.interval? with
  | some ms => 60000 ≤ ms
  | none => false

end Plan

end RemoteShutter
