/-
What the rest of the controller does with the camera, each in one undivided piece.

`ensureReady` connects if need be and otherwise checks that the camera answers. `shoot` takes a picture the way the
camera's mode demands. `reconnect` drops the connection and makes a new one; whoever waits for the camera meanwhile never
sees it disconnected in between.
-/
import RemoteShutter.Camera.Basic

namespace RemoteShutter.Camera

def ensureReady (c : Camera) : Except CameraError Unit × Camera × List LogEvent :=
  if !c.isConnected then
    let start : LogEvent := ⟨.warn, "camera not connected, connecting", []⟩
    match c.connect with
    | (.error e, c, log) =>
      (.error e, c, start :: log ++ [⟨.error, "failed connecting to camera", [("error", .worded e.message)]⟩])
    | (.ok (), c, log) => (.ok (), c, start :: log ++ [⟨.info, "connected to camera", []⟩])
  else if !c.isResponsive then (.error .unresponsive, c, [⟨.error, "camera is not responsive", []⟩])
  else (.ok (), c, [])

def reconnect (c : Camera) : Except CameraError Unit × Camera × List LogEvent :=
  c.disconnect.connect

/-- whether the camera is connected, and whether it answers -/
def probe (c : Camera) : Bool × Bool :=
  (c.isConnected, c.isConnected && c.isResponsive)

/-- takes a picture in the mode that was found, and downloads it if a folder is given -/
def fire (c : Camera) (files : FileTree) (mode : ExposureMode) (folder : Option String) :
    Except CameraError Shot × Camera × FileTree :=
  match mode with
  | .bulb =>
    match c.remoteCapture with
    | (.error e, c) => (.error e, c, files)
    | (.ok s, c) => c.delivered files s folder
  | .fixed _ => c.capture files folder

/-- takes one picture, and downloads it if a folder is given -/
def shoot (c : Camera) (files : FileTree) (folder : Option String) : Except CameraError Shot × Camera × FileTree :=
  match c.exposureMode with
  | .error e => (.error e, c, files)
  | .ok mode => c.fire files mode folder

/-- nanoseconds that a capture with an exposure of so many microseconds takes -/
def captureTime (c : Camera) (exposure : UInt32) : Nat :=
  exposure.toNat * 1000 + c.latency * 1000000

/-- faults from outside -/
inductive Fault where
  /-- the cable is pulled -/
  | unplug
  | refuseConnect (b : Bool)
  | answer (b : Bool)
  | failCaptures (b : Bool)
  deriving DecidableEq, Repr

def suffer (c : Camera) : Fault → Camera
  | .unplug => c.unplug
  | .refuseConnect b => { c with refusesConnect := b }
  | .answer b => { c with isUnresponsive := !b }
  | .failCaptures b => { c with failsCaptures := b }

end RemoteShutter.Camera
