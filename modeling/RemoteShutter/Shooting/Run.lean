/-
The two threads of a capture function: the run, which takes the planned shots, and the test shot.

Each is a program counter with a step function. A step does one undivided piece of work on what the thread shares with
others: the lifecycle of its function, the camera, the files and the clock. Between two steps anything may happen. While a
capture is going on the thread holds the camera, and nobody else gets at it; settings cannot change then, but cables can
be pulled.

A run ends when it is complete, when it sees at its loop head or in its wait that it is aborted, or when a capture fails.
A failed download does not end it.
-/
import RemoteShutter.Shooting.Lifecycle
import RemoteShutter.Camera.Session

namespace RemoteShutter

/-- what threads work on besides their functions -/
structure Studio where
  camera : Camera := {}
  files : FileTree := {}
  /-- nanoseconds -/
  clock : Nat := 0
  deriving DecidableEq, Repr

/-- why a run ends -/
inductive RunEnd where
  | complete
  | aborted
  | failed (e : CameraError)
  deriving DecidableEq, Repr

/-- where a run stands; `taken` counts its shots, `start` is the time its current shot began -/
inductive RunPoint where
  /-- before it looks whether another shot is due -/
  | head (taken : UInt32)
  /-- before it takes the camera and looks at its mode -/
  | aim (taken : UInt32) (start : Nat)
  /-- with the camera in its hands, before the capture -/
  | fire (taken : UInt32) (start : Nat) (mode : ExposureMode)
  /-- before it notes the shot -/
  | note (taken : UInt32) (start : Nat) (shot : Shot)
  /-- before it looks whether to download -/
  | deliver (taken : UInt32) (start : Nat)
  /-- before it downloads the last shot -/
  | fetch (taken : UInt32) (start : Nat)
  /-- before it records the sample of the shot -/
  | sample (taken : UInt32) (start : Nat)
  /-- waiting for the end of the period -/
  | wait (taken : UInt32) (deadline : Nat)
  /-- before it declares the function finished -/
  | leave (reason : RunEnd)
  deriving DecidableEq, Repr

/-- where a test shot stands -/
inductive TestPoint where
  /-- before it looks whether to download -/
  | begin
  | aim (folder : Option String)
  | fire (folder : Option String) (mode : ExposureMode)
  /-- before it declares itself over -/
  | leave
  deriving DecidableEq, Repr

namespace Studio

/-- a capture with the camera in hand; the clock moves on by the time of an exposure -/
def fire (s : Studio) (exposure : UInt32) (mode : ExposureMode) (folder : Option String) :
    Except CameraError Shot × Studio :=
  let (r, camera, files) := s.camera.fire s.files mode folder
  let time := if camera.shots = s.camera.shots then 0 else s.camera.captureTime exposure
  (r, ⟨camera, files, s.clock + time⟩)

/-- downloads a picture, for better or worse -/
def fetch (s : Studio) (shot : Option Shot) (folder : String) : Except FunctionError Unit × Studio :=
  match shot with
  | none => (.error .noShotYet, s)
  | some shot =>
    match s.camera.download s.files shot folder with
    | (.ok (), camera, files) => (.ok (), { s with camera := camera, files := files })
    | (.error e, camera, files) => (.error (.camera e), { s with camera := camera, files := files })

end Studio

/-- what a step leaves: where the thread stands, if it still runs, and what it shares -/
structure Stepped (Point : Type) where
  point : Option Point
  life : Lifecycle
  studio : Studio

namespace RunPoint

/-- the thread holds the camera -/
def holdsCamera : RunPoint → Bool
  | fire _ _ _ => true
  | _ => false

/-- the next step takes the camera -/
def needsCamera : RunPoint → Bool
  | aim _ _ => true
  | fetch _ _ => true
  | _ => false

/-- one step of the run of a function that downloads into `folder` -/
def step (plan : Plan) (folder : String) (life : Lifecycle) (studio : Studio) : RunPoint → Stepped RunPoint
  | head taken =>
    if life.isAborted then ⟨some (leave .aborted), life, studio⟩
    else if plan.shots.allows taken then ⟨some (aim taken studio.clock), life, studio⟩
    else ⟨some (leave .complete), life, studio⟩
  | aim taken start =>
    match studio.camera.exposureMode with
    | .ok mode => ⟨some (fire taken start mode), life, studio⟩
    | .error e => ⟨some (leave (.failed e)), life, studio⟩
  | fire taken start mode =>
    match studio.fire plan.exposure mode none with
    | (.ok shot, studio) => ⟨some (note taken start shot), life, studio⟩
    | (.error e, studio) => ⟨some (leave (.failed e)), life, studio⟩
  | note taken start shot => ⟨some (deliver (taken + 1) start), life.noteShot shot, studio⟩
  | deliver taken start =>
    ⟨some (if life.downloads then fetch taken start else sample taken start), life, studio⟩
  | fetch taken start => ⟨some (sample taken start), life, (studio.fetch life.lastShot folder).2⟩
  | sample taken start =>
    let life := life.record (plan.sample start studio.clock)
    match plan with
    | .sequencer _ => ⟨some (head taken), life, studio⟩
    | .intervalometer _ =>
      if plan.shots.allows taken then ⟨some (wait taken (start + plan.period)), life, studio⟩
      else ⟨some (leave .complete), life, studio⟩
  | wait taken deadline =>
    if life.isAborted then ⟨some (leave .aborted), life, studio⟩
    else if deadline ≤ studio.clock then ⟨some (head taken), life, studio⟩
    else ⟨some (wait taken deadline), life, studio⟩
  | leave _ => ⟨none, life.finish, studio⟩

end RunPoint

namespace TestPoint

def holdsCamera : TestPoint → Bool
  | fire _ _ => true
  | _ => false

def needsCamera : TestPoint → Bool
  | aim _ => true
  | _ => false

/-- one step of the test shot of a function that downloads into `folder` -/
def step (plan : Plan) (folder : String) (life : Lifecycle) (studio : Studio) : TestPoint → Stepped TestPoint
  | begin => ⟨some (aim (if life.downloads then some folder else none)), life, studio⟩
  | aim destination =>
    match studio.camera.exposureMode with
    | .ok mode => ⟨some (fire destination mode), life, studio⟩
    | .error _ => ⟨some leave, life, studio⟩
  | fire destination mode => ⟨some leave, life, (studio.fire plan.exposure mode destination).2⟩
  | leave => ⟨none, life.endTest, studio⟩

end TestPoint

end RemoteShutter
