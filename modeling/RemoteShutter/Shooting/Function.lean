/-
A capture function: its plan, its shared state, and its threads as far as they run.

A report on a function is put together from three looks: at the lifecycle, at the download flag, and at the statistics.
`ReportPoint` walks through them one by one, because the run may make progress in between.
-/
import RemoteShutter.Shooting.Run

namespace RemoteShutter

structure CaptureFunction where
  plan : Plan
  /-- where pictures are downloaded to -/
  folder : String
  life : Lifecycle := {}
  run : Option RunPoint := none
  test : Option TestPoint := none
  deriving DecidableEq, Repr

namespace CaptureFunction

def isOperating (f : CaptureFunction) : Bool :=
  f.life.isOperating

/-- one of its threads holds the camera -/
def holdsCamera (f : CaptureFunction) : Bool :=
  (f.run.any RunPoint.holdsCamera) || (f.test.any TestPoint.holdsCamera)

/-- how many of its threads hold the camera -/
def holders (f : CaptureFunction) : Nat :=
  (f.run.any RunPoint.holdsCamera).toNat + (f.test.any TestPoint.holdsCamera).toNat

/-- its run makes a step -/
def stepRun (f : CaptureFunction) (studio : Studio) : CaptureFunction × Studio :=
  match f.run with
  | none => (f, studio)
  | some p =>
    let s := p.step f.plan f.folder f.life studio
    ({ f with run := s.point, life := s.life }, s.studio)

/-- its test shot makes a step -/
def stepTest (f : CaptureFunction) (studio : Studio) : CaptureFunction × Studio :=
  match f.test with
  | none => (f, studio)
  | some p =>
    let s := p.step f.plan f.folder f.life studio
    ({ f with test := s.point, life := s.life }, s.studio)

/-- the run is launched -/
def launch (f : CaptureFunction) : CaptureFunction :=
  { f with run := some (.head 0) }

/-- the test shot is launched -/
def launchTest (f : CaptureFunction) : CaptureFunction :=
  { f with test := some .begin }

/-- a report from what was seen at three times -/
def reportOf (f : CaptureFunction) (state : LifecycleState) (download : Bool) (stats : TimingStats) : FunctionReport where
  kind := f.plan.kind
  lifecycle := state
  download := download
  programmed := f.plan.shots.toInt64
  exposureTime := f.plan.exposure
  interval := f.plan.interval?
  stats := stats

/-- the report of a function that makes no progress meanwhile -/
def report (f : CaptureFunction) : FunctionReport :=
  f.reportOf f.life.state f.life.downloads f.life.stats

end CaptureFunction

/-- how far a report has come -/
inductive ReportPoint where
  | lifecycle
  | download (state : LifecycleState)
  | stats (state : LifecycleState) (download : Bool)
  | done (r : FunctionReport)
  deriving DecidableEq, Repr

/-- the next look at the function -/
def ReportPoint.step (f : CaptureFunction) : ReportPoint → ReportPoint
  | lifecycle => download f.life.state
  | download state => stats state f.life.downloads
  | stats state b => done (f.reportOf state b f.life.stats)
  | done r => done r

end RemoteShutter
