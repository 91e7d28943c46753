/-
The life of one capture function.

A function is idle, then started, then finished, and never goes back. Besides, a test shot may be under way, but not
while the function is started. Everything here is one undivided look at, or change of, the shared state; calls and
threads are put together from these pieces, and between two pieces of one others may come in between.
-/
import RemoteShutter.Camera.Basic
import RemoteShutter.Shooting.Plan

namespace RemoteShutter

inductive Phase where
  | idle
  | started
  | finished
  deriving DecidableEq, Repr

structure Lifecycle where
  phase : Phase := .idle
  isTesting : Bool := false
  /-- the run is asked to stop -/
  isAborted : Bool := false
  /-- each picture is downloaded after its exposure -/
  downloads : Bool := false
  stats : TimingStats := {}
  lastShot : Option Shot := none
  deriving DecidableEq, Repr

inductive FunctionError where
  | testInProgress
  | operating
  | alreadyFinished
  | noShotYet
  | setup (e : SetupError)
  | camera (e : CameraError)
  /-- the host refuses a thread -/
  | spawn (thread reason : String)
  deriving DecidableEq, Repr

def FunctionError.message : FunctionError → String
  | testInProgress => "a test capture is in progress"
  | operating => "function is operating"
  | alreadyFinished => "function already finished and cannot be restarted"
  | noShotYet => "no picture taken yet"
  | setup e => e.message
  | camera e => s!"camera error: {e.message}"
  | spawn thread reason => s!"failed to spawn {thread} thread: {reason}"

namespace Lifecycle

/-- a sequence or a test shot is under way -/
def isOperating (l : Lifecycle) : Bool :=
  l.phase = .started || l.isTesting

def isStarted (l : Lifecycle) : Bool :=
  l.phase ≠ .idle

def isFinished (l : Lifecycle) : Bool :=
  l.phase = .finished

/-- what a client is told -/
def state (l : Lifecycle) : LifecycleState :=
  if l.isTesting then .testing
  else
    match l.phase with
    | .idle => .idle
    | .started => .started
    | .finished => .finished

/-- whether a start has anything to do: true when idle, false when started already -/
def canStart (l : Lifecycle) : Except FunctionError Bool :=
  if l.isTesting then .error .testInProgress
  else
    match l.phase with
    | .idle => .ok true
    | .started => .ok false
    | .finished => .error .alreadyFinished

/-- starts an idle function; whether it was this that started it -/
def commitStart (l : Lifecycle) : Except FunctionError (Bool × Lifecycle) := do
  if ← l.canStart then return (true, { l with phase := .started }) else return (false, l)

/-- the run could not be launched -/
def cancelStart (l : Lifecycle) : Lifecycle :=
  { l with phase := .idle }

/-- the run is over -/
def finish (l : Lifecycle) : Lifecycle :=
  { l with phase := .finished }

/-- whether there is a run to abort -/
def canAbort (l : Lifecycle) : Bool :=
  l.phase = .started

def raiseAbort (l : Lifecycle) : Lifecycle :=
  { l with isAborted := true }

def beginTest (l : Lifecycle) : Except FunctionError Lifecycle :=
  if l.isOperating then .error .operating else .ok { l with isTesting := true }

def endTest (l : Lifecycle) : Lifecycle :=
  { l with isTesting := false }

def setDownloads (l : Lifecycle) (b : Bool) : Lifecycle :=
  { l with downloads := b }

def noteShot (l : Lifecycle) (s : Shot) : Lifecycle :=
  { l with lastShot := some s }

def record (l : Lifecycle) (sample : Int64) : Lifecycle :=
  { l with stats := l.stats.record sample }

end Lifecycle

end RemoteShutter
