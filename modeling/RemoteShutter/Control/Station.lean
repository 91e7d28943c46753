/-
The station: everything that telecommands act on, and how they act.

A station has the camera, the files and the clock, and all capture functions ever configured; the last one is the active
one. Commands are carried out one at a time. A command in progress is a program counter, and each of its steps is one
undivided piece of work, so that the threads of the functions, and faults, may come in between. A step that needs the
camera waits while a capture holds it. `dispatch` carries a command out, and nothing else happens meanwhile than that
captures end which the command has to wait for.

A setup replaces the active function only if that is not operating at the moment it looks. What a failing command leaves
behind is what it found, with two exceptions: a reconnect has already disconnected, and a function that the host refuses
a thread has had the camera made ready.
-/
import RemoteShutter.Shooting.Function
import RemoteShutter.Telecommand.Basic
import RemoteShutter.Text.Printable

namespace RemoteShutter

/-! ## Requests to the host -/

inductive PowerAction where
  | shutdown
  | reboot
  deriving DecidableEq, Repr

def PowerAction.name : PowerAction → String
  | shutdown => "shutdown"
  | reboot => "reboot"

/-- what takes requests to shut the host down or to boot it again -/
inductive PowerHook where
  /-- a main loop, which carries them out later -/
  | listening
  /-- a main loop that has ended -/
  | exited
  /-- no means; what it says to a shutdown and to a reboot -/
  | without (shutdown reboot : String)
  deriving DecidableEq, Repr

/-! ## Outcomes -/

inductive DispatchError where
  | busy
  | noFunction
  | setup (e : SetupError)
  | function (e : FunctionError)
  | camera (e : CameraError)
  | power (reason : String)
  deriving DecidableEq, Repr

def DispatchError.message : DispatchError → String
  | busy => "cannot reconfigure while the active function is operating"
  | noFunction => "no function configured"
  | setup e => s!"invalid setup: {e.message}"
  | function e => e.message
  | camera e => e.message
  | power reason => s!"power control unavailable: {reason}"

/-- how a command ends -/
abbrev Outcome := Except DispatchError Unit

/-- where a command in progress stands -/
inductive CallPoint where
  | begin (c : Telecommand)
  /-- the active function has been found not operating; the new one is next -/
  | build (c : Telecommand)
  /-- a start has found something to do; the camera is next -/
  | startReady
  | startCommit
  | startLaunch
  /-- there is a run to abort; the signal is next -/
  | raise
  /-- a test shot has been admitted; the camera is next -/
  | testReady
  | testLaunch
  /-- the camera was not ready for the test shot, which has to be withdrawn -/
  | testWithdraw (e : CameraError)
  | reconnect
  | probe
  /-- the camera's connection and answer are known; its number is next -/
  | identify (isConnected isResponsive : Bool)
  | done (outcome : Outcome)

/-- the next step takes the camera -/
def CallPoint.needsCamera : CallPoint → Bool
  | startReady | testReady | reconnect | probe => true
  | identify isConnected _ => isConnected
  | _ => false

/-- a command that stands here has at most so many steps left -/
def CallPoint.stepsLeft : CallPoint → Nat
  | begin _ => 4
  | startReady => 3
  | startCommit | testReady | probe => 2
  | done _ => 0
  | _ => 1

structure Station where
  studio : Studio := {}
  /-- where functions download to -/
  folder : String
  power : PowerHook := .listening
  functions : List CaptureFunction := []
  call : Option CallPoint := none
  requests : List PowerAction := []
  /-- why the host refuses new threads, while it does -/
  threadFault : Option String := none
  /-- what the commands say -/
  log : List LogEvent := []

namespace Station

def active? (s : Station) : Option CaptureFunction :=
  s.functions.getLast?

/-- a capture is going on -/
def isCameraHeld (s : Station) : Bool :=
  s.functions.any CaptureFunction.holdsCamera

/-- how many threads hold the camera -/
def holders (s : Station) : Nat :=
  (s.functions.map CaptureFunction.holders).foldr (· + ·) 0

def say (s : Station) (es : List LogEvent) : Station :=
  { s with log := s.log ++ es }

/-- changes the active function, if there is one -/
def updateActive (s : Station) (f : CaptureFunction → CaptureFunction) : Station :=
  { s with functions := s.functions.modify (s.functions.length - 1) f }

def updateLife (s : Station) (f : Lifecycle → Lifecycle) : Station :=
  s.updateActive fun g => { g with life := f g.life }

def setCamera (s : Station) (c : Camera) : Station :=
  { s with studio := { s.studio with camera := c } }

/-- the command goes on at `p` -/
def goTo (s : Station) (p : CallPoint) : Station :=
  { s with call := some p }

def finishCall (s : Station) (o : Outcome) : Station :=
  s.goTo (.done o)

/-! ## Commands -/

/-- a number of exposures, for the log -/
def shotCountText : ShotCount → String
  | .limited n => s!"Limited({n.toNat})"
  | .unbounded => "Unbounded"

/-- the plan that a setup asks for -/
def planOf : Telecommand → Except SetupError (Option (Plan × Bool))
  | .sequencerSetup setup => do
    let config ← SequencerConfig.ofSetup setup
    return some (.sequencer config, setup.download)
  | .intervalometerSetup setup => do
    let config ← IntervalometerConfig.ofSetup setup
    return some (.intervalometer config, setup.download)
  | _ => return none

/-- what is said about a new function -/
def configured (plan : Plan) (download : Bool) : List LogEvent :=
  let shots := ("config.shots", LogValue.worded (shotCountText plan.shots))
  let exposure := ("exposure_us", LogValue.ofNat plan.exposure.toNat)
  let details := match plan with
    | .sequencer _ => (⟨.debug, "sequencer configured", [shots, exposure]⟩ : LogEvent)
    | .intervalometer c =>
      ⟨.debug, "intervalometer configured", [shots, exposure, ("interval_ms", .ofNat c.interval.toNat)]⟩
  [details, ⟨.info, "function configured", [("kind", .worded plan.kind.name), ("download", .ofBool download)]⟩]

def abortingFunction : LogEvent := ⟨.info, "aborting function", []⟩

/-- the active function is told to stop, if it runs -/
def abort (s : Station) : Station :=
  match s.active? with
  | some f => if f.life.canAbort then (s.say [abortingFunction]).updateLife Lifecycle.raiseAbort else s
  | none => s

/-- a new function takes the place of the active one, which is told to stop -/
def install (s : Station) (plan : Plan) (download : Bool) : Station :=
  let s := (s.say (configured plan download)).abort
  { s with functions := s.functions ++ [{ plan := plan, folder := s.folder, life := { downloads := download } }] }

def requestPower (s : Station) (a : PowerAction) : Station :=
  match s.power with
  | .listening => { s with requests := s.requests ++ [a] }.finishCall (.ok ())
  | .exited => s.finishCall (.error (.power "main loop has exited"))
  | .without shutdown reboot =>
    s.finishCall (.error (.power (match a with
      | .shutdown => shutdown
      | .reboot => reboot)))

/-- does something with the active function; without one the command fails -/
def withActive (s : Station) (act : CaptureFunction → Station) : Station :=
  match s.active? with
  | some f => act f
  | none => (s.say [⟨.warn, "no function configured", []⟩]).finishCall (.error .noFunction)

/-- the first step of a command -/
def beginCall (s : Station) (c : Telecommand) : Station :=
  let s := s.say [⟨.info, "executing telecommand", [("command", .text c.name)]⟩]
  match c with
  | .sequencerSetup _ | .intervalometerSetup _ =>
    if s.active?.any CaptureFunction.isOperating then
      (s.say [⟨.warn, "cannot set up a new function while the active one is operating", []⟩]).finishCall (.error .busy)
    else s.goTo (.build c)
  | .start => s.withActive fun f =>
    match f.life.canStart with
    | .error e => s.finishCall (.error (.function e))
    | .ok false => s.finishCall (.ok ())
    | .ok true => s.goTo .startReady
  | .stop => s.withActive fun f =>
    if f.life.canAbort then (s.say [abortingFunction]).goTo .raise else s.finishCall (.ok ())
  | .testCapture => s.withActive fun f =>
    match f.life.beginTest with
    | .error e => (s.say [⟨.warn, "cannot test while operating", []⟩]).finishCall (.error (.function e))
    | .ok life => (s.updateLife fun _ => life).goTo .testReady
  | .downloadAfterExposure b => s.withActive fun _ =>
    ((s.updateLife (·.setDownloads b)).say
      [⟨.info, "download after exposure set", [("download", .ofBool b)]⟩]).finishCall (.ok ())
  | .reconnect => s.goTo .reconnect
  | .testConnection => s.goTo .probe
  | .shutdown => s.requestPower .shutdown
  | .reboot => s.requestPower .reboot

/-- the thread of a test shot, by its name -/
def testThreadName : String := "camctl-test-capture"

/-- one step of a command that stands at `p` -/
def stepCall (s : Station) : CallPoint → Station
  | .begin c => s.beginCall c
  | .build c =>
    match planOf c with
    | .error e => s.finishCall (.error (.setup e))
    | .ok none => s.finishCall (.ok ())
    | .ok (some (plan, download)) => (s.install plan download).finishCall (.ok ())
  | .startReady =>
    match s.studio.camera.ensureReady with
    | (.error e, camera, log) => ((s.setCamera camera).say log).finishCall (.error (.function (.camera e)))
    | (.ok (), camera, log) => ((s.setCamera camera).say log).goTo .startCommit
  | .startCommit => s.withActive fun f =>
    match f.life.commitStart with
    | .error e => s.finishCall (.error (.function e))
    | .ok (false, _) => s.finishCall (.ok ())
    | .ok (true, life) => (s.updateLife fun _ => life).goTo .startLaunch
  | .startLaunch => s.withActive fun f =>
    match s.threadFault with
    | some reason =>
      (s.updateLife Lifecycle.cancelStart).finishCall (.error (.function (.spawn f.plan.threadName reason)))
    | none =>
      ((s.updateActive CaptureFunction.launch).say
        [⟨.info, "function started", [("thread", .text f.plan.threadName)]⟩]).finishCall (.ok ())
  | .raise => (s.updateLife Lifecycle.raiseAbort).finishCall (.ok ())
  | .testReady =>
    match s.studio.camera.ensureReady with
    | (.error e, camera, log) =>
      ((s.setCamera camera).say (log ++
        [⟨.error, "cannot test capture, camera not ready", [("error", .worded e.message)]⟩])).goTo (.testWithdraw e)
    | (.ok (), camera, log) =>
      ((s.setCamera camera).say (log ++ [⟨.info, "test capture...", []⟩])).goTo .testLaunch
  | .testLaunch =>
    match s.threadFault with
    | some reason => (s.updateLife Lifecycle.endTest).finishCall (.error (.function (.spawn testThreadName reason)))
    | none => (s.updateActive CaptureFunction.launchTest).finishCall (.ok ())
  | .testWithdraw e => (s.updateLife Lifecycle.endTest).finishCall (.error (.function (.camera e)))
  | .reconnect =>
    match s.studio.camera.reconnect with
    | (.error e, camera, log) => ((s.setCamera camera).say log).finishCall (.error (.camera e))
    | (.ok (), camera, log) =>
      ((s.setCamera camera).say (log ++ [⟨.info, "camera reconnected", []⟩])).finishCall (.ok ())
  | .probe =>
    let (isConnected, isResponsive) := s.studio.camera.probe
    s.goTo (.identify isConnected isResponsive)
  | .identify isConnected isResponsive =>
    let serial := if isConnected then s.studio.camera.serialNumber.toOption else none
    (s.say [⟨.info, "camera connection test", [("connected", .ofBool isConnected),
      ("responsive", .ofBool isResponsive), ("serial", .text (serial.getD "-"))]⟩]).finishCall (.ok ())
  | .done o => s.finishCall o

/-! ## What may happen at a station -/

inductive Event where
  /-- a command begins, if none is in progress -/
  | call (c : Telecommand)
  /-- the command in progress makes a step -/
  | proceed
  /-- the run of the `i`th function makes a step -/
  | run (i : Nat)
  /-- the test shot of the `i`th function makes a step -/
  | test (i : Nat)
  /-- nanoseconds pass -/
  | pass (time : Nat)
  | fault (f : Camera.Fault)
  /-- from now on the host refuses new threads, for the given reason, or no longer does -/
  | threads (fault : Option String)
  | set (name value : String)
  | download (shot : Shot) (folder : String)
  deriving DecidableEq, Repr

/-- no command is in progress -/
def isFree (s : Station) : Bool :=
  match s.call with
  | none | some (.done _) => true
  | _ => false

/-- changes a function and the studio together -/
def stepFunction (s : Station) (i : Nat) (act : CaptureFunction → Studio → CaptureFunction × Studio) : Station :=
  match s.functions[i]? with
  | none => s
  | some f =>
    let (f, studio) := act f s.studio
    { s with functions := s.functions.set i f, studio := studio }

/-- the camera may be taken for the next step of a thread -/
def mayStep (s : Station) (needsCamera : Bool) : Bool :=
  !(needsCamera && s.isCameraHeld)

def step (s : Station) : Event → Station
  | .call c => if s.isFree then s.goTo (.begin c) else s
  | .proceed =>
    match s.call with
    | none => s
    | some p => if s.mayStep p.needsCamera then s.stepCall p else s
  | .run i =>
    if s.mayStep (s.functions[i]?.any fun f => f.run.any RunPoint.needsCamera) then
      s.stepFunction i CaptureFunction.stepRun
    else s
  | .test i =>
    if s.mayStep (s.functions[i]?.any fun f => f.test.any TestPoint.needsCamera) then
      s.stepFunction i CaptureFunction.stepTest
    else s
  | .pass time => { s with studio := { s.studio with clock := s.studio.clock + time } }
  | .fault f => s.setCamera (s.studio.camera.suffer f)
  | .threads fault => { s with threadFault := fault }
  | .set name value =>
    if s.isCameraHeld then s else s.setCamera (s.studio.camera.set name value).2.1
  | .download shot folder =>
    if s.isCameraHeld then s else { s with studio := (s.studio.fetch (some shot) folder).2 }

def steps (s : Station) (es : List Event) : Station :=
  es.foldl step s

/-! ## Carrying out a command -/

/-- the step with which the capture that holds the camera ends -/
def captureEnd? (s : Station) : Option Event :=
  s.functions.zipIdx.findSome? fun (f, i) =>
    if f.run.any RunPoint.holdsCamera then some (.run i)
    else if f.test.any TestPoint.holdsCamera then some (.test i)
    else none

/-- what the command in progress needs next: a step of its own, or the end of the capture that it waits for -/
def turn? (s : Station) : Option Event :=
  match s.call with
  | none | some (.done _) => none
  | some p => if s.mayStep p.needsCamera then some .proceed else s.captureEnd?

/-- at most `fuel` turns of the command in progress -/
def turns : Nat → Station → List Event
  | 0, _ => []
  | fuel + 1, s =>
    match s.turn? with
    | none => []
    | some e => e :: turns fuel (s.step e)

/-- no more turns can be left: the steps of the command, and the captures to wait for -/
def turnsLeft (s : Station) : Nat :=
  (s.call.map CallPoint.stepsLeft).getD 0 + s.holders

/-- all turns that the command in progress has left -/
def rest (s : Station) : List Event :=
  turns s.turnsLeft s

/-- the command in progress is carried out to its end -/
def finish (s : Station) : Station :=
  s.steps s.rest

/-- carries out a command behind the one that may be in progress, with its outcome -/
def dispatch (s : Station) (c : Telecommand) : Option Outcome × Station :=
  let s := (s.finish.step (.call c)).finish
  match s.call with
  | some (.done o) => (some o, { s with call := none })
  | _ => (none, s)

/-- the report on the active function -/
def status (s : Station) : Option FunctionReport :=
  s.active?.map CaptureFunction.report

/-- downloads the last shot of the active function again; none if there is no function -/
def downloadLast (s : Station) (folder : String) : Option (Except FunctionError Unit) × Station :=
  match s.active? with
  | none => (none, s)
  | some f =>
    let (r, studio) := s.studio.fetch f.life.lastShot folder
    (some r, { s with studio := studio })

/-- changes a setting of the camera -/
def set (s : Station) (name value : String) : Except CameraError Unit × Station :=
  let (r, camera, log) := s.studio.camera.set name value
  (r, (s.setCamera camera).say log)

/-- the active function is told to stop; this has to wait while a command is in progress -/
def abortActive (s : Station) : Station :=
  if s.isFree then s.abort else s

/-- the station as one line of text -/
def text (s : Station) : String :=
  let active := match s.active? with
    | some f => "Some(" ++ f.plan.kind.name ++ ")"
    | none => "None"
  "Dispatcher \x7b download_folder: " ++ Quoted.text s.folder ++ ", active: " ++ active ++ ", .. \x7d"

/-- the camera as one line of text -/
def cameraText : String :=
  "CameraHandle \x7b .. \x7d"

end Station

end RemoteShutter
