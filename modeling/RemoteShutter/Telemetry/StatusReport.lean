/-
Status reports: what the controller tells its client every few seconds.

A report gives the uptime and, if a capture function is set up, what it is, how far it has come and its timing.
-/
import RemoteShutter.Telemetry.TimingStats

namespace RemoteShutter

inductive FunctionKind where
  | sequencer
  | intervalometer
  deriving DecidableEq, Repr

/-- where a capture function stands -/
inductive LifecycleState where
  | idle
  | testing
  | started
  | finished
  deriving DecidableEq, Repr

structure FunctionReport where
  kind : FunctionKind
  lifecycle : LifecycleState
  download : Bool
  /-- -1 if there is no limit -/
  programmed : Int64
  /-- microseconds -/
  exposureTime : UInt32
  /-- milliseconds -/
  interval : Option UInt64
  stats : TimingStats
  deriving DecidableEq, Repr

structure StatusReport where
  /-- seconds -/
  uptime : UInt64
  function : Option FunctionReport
  deriving DecidableEq, Repr

namespace FunctionKind

def text : FunctionKind → String
  | sequencer => "sequencer"
  | intervalometer => "intervalometer"

def all : List FunctionKind := [sequencer, intervalometer]

/-- the kind as a name of its own -/
def name : FunctionKind → String
  | sequencer => "Sequencer"
  | intervalometer => "Intervalometer"

end FunctionKind

namespace LifecycleState

def text : LifecycleState → String
  | idle => "idle"
  | testing => "testing"
  | started => "started"
  | finished => "finished"

def all : List LifecycleState := [idle, testing, started, finished]

end LifecycleState

end RemoteShutter
