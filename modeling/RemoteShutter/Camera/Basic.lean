/-
The camera: a body that takes pictures, keeps them, and hands them out.

Operations return what they achieve and the camera afterwards. The camera counts connections, exposures of both kinds
(timed by itself or by a remote trigger) and downloads, in 32 bits, and begins again where they do not suffice. Faults
can be put on it from outside: a pulled cable, refused connections, no answers, failing captures.

An exposure that fails leaves the camera as it was. One that succeeds takes the next number, also if the download that
belongs to it fails.
-/
import RemoteShutter.Camera.Shot
import RemoteShutter.Files.Tree
import RemoteShutter.Log.Event
import RemoteShutter.Text.CharClass
import RemoteShutter.Text.Utf8

namespace RemoteShutter

inductive DownloadFault where
  | unknownPicture
  | file (e : FileError)
  deriving DecidableEq, Repr

inductive CameraError where
  | notConnected
  | unresponsive
  | connect (reason : String)
  | capture (reason : String)
  | download (shot : String) (destination : String) (fault : DownloadFault)
  | setting (name : String) (reason : String)
  deriving DecidableEq, Repr

def DownloadFault.message : DownloadFault → String
  | unknownPicture => "no such picture on camera"
  | file e => e.message

def CameraError.message : CameraError → String
  | notConnected => "camera not connected"
  | unresponsive => "camera is not responsive"
  | connect reason => s!"failed to connect to camera: {reason}"
  | capture reason => s!"capture failed: {reason}"
  | download shot destination fault => s!"failed to download {shot} to {destination}: {fault.message}"
  | setting name reason => s!"failed to set {name}: {reason}"

/-- how exposures are timed -/
inductive ExposureMode where
  /-- by holding the shutter open from outside -/
  | bulb
  /-- by the camera, in microseconds -/
  | fixed (time : UInt32)
  deriving DecidableEq, Repr

structure Camera where
  /-- milliseconds that each capture takes on top of its exposure -/
  latency : Nat := 0
  /-- microseconds shown while the camera times exposures itself -/
  shutter : UInt32 := 1000
  isBulb : Bool := false
  shots : UInt32 := 0
  isConnected : Bool := false
  isUnresponsive : Bool := false
  refusesConnect : Bool := false
  failsCaptures : Bool := false
  connects : UInt32 := 0
  disconnects : UInt32 := 0
  captures : UInt32 := 0
  remoteCaptures : UInt32 := 0
  downloads : UInt32 := 0
  deriving DecidableEq, Repr

namespace Camera

def serial : String := "SIM-00000001"

/-- whether the camera is connected and answers -/
def isResponsive (c : Camera) : Bool :=
  c.isConnected && !c.isUnresponsive

def connect (c : Camera) : Except CameraError Unit × Camera × List LogEvent :=
  if c.refusesConnect then (.error (.connect "no camera detected"), c, [])
  else
    (.ok (), { c with isConnected := true, connects := c.connects + 1 },
      [⟨.debug, "simulated camera connected", [("serial", .text serial)]⟩])

def disconnect (c : Camera) : Camera :=
  if c.isConnected then { c with isConnected := false, disconnects := c.disconnects + 1 } else c

/-- the cable is pulled; nothing is counted -/
def unplug (c : Camera) : Camera :=
  { c with isConnected := false }

def serialNumber (c : Camera) : Except CameraError String :=
  if c.isConnected then .ok serial else .error .notConnected

/-- exposes one picture, which takes the next number -/
def expose (c : Camera) : Except CameraError Shot × Camera :=
  if !c.isConnected then (.error .notConnected, c)
  else if c.failsCaptures then (.error (.capture "simulated capture failure"), c)
  else (.ok (Shot.ofNumber (c.shots + 1).toNat), { c with shots := c.shots + 1 })

/-- a picture that the camera has -/
def has (c : Camera) (s : Shot) : Bool :=
  match s.number? with
  | some n => 1 ≤ n && n ≤ c.shots.toNat
  | none => false

/-- what a downloaded picture contains -/
def pictureText (s : Shot) : Bytes :=
  Utf8.encode s!"simulated picture {s.text}\n".toList

/-- copies a picture to the file `destination` -/
def downloadTo (c : Camera) (files : FileTree) (s : Shot) (destination : String) :
    Except CameraError Unit × Camera × FileTree :=
  if !c.isConnected then (.error .notConnected, c, files)
  else if !c.has s then (.error (.download s.text destination .unknownPicture), c, files)
  else
    match files.write destination (pictureText s) with
    | .error e => (.error (.download s.text destination (.file e)), c, files)
    | .ok files => (.ok (), { c with downloads := c.downloads + 1 }, files)

/-- copies a picture into a folder under its own name -/
def download (c : Camera) (files : FileTree) (s : Shot) (folder : String) :
    Except CameraError Unit × Camera × FileTree :=
  c.downloadTo files s (Path.join folder s.name)

/-- downloads a picture that has just been taken, if a folder is given -/
def delivered (c : Camera) (files : FileTree) (s : Shot) (folder : Option String) :
    Except CameraError Shot × Camera × FileTree :=
  match folder with
  | none => (.ok s, c, files)
  | some folder =>
    match c.download files s folder with
    | (.ok (), c, files) => (.ok s, c, files)
    | (.error e, c, files) => (.error e, c, files)

/-- takes a picture that the camera times, and downloads it if a folder is given -/
def capture (c : Camera) (files : FileTree) (folder : Option String) : Except CameraError Shot × Camera × FileTree :=
  match c.expose with
  | (.error e, c) => (.error e, c, files)
  | (.ok s, c) => delivered { c with captures := c.captures + 1 } files s folder

/-- takes a picture by the remote trigger -/
def remoteCapture (c : Camera) : Except CameraError Shot × Camera :=
  match c.expose with
  | (.error e, c) => (.error e, c)
  | (.ok s, c) => (.ok s, { c with remoteCaptures := c.remoteCaptures + 1 })

def exposureMode (c : Camera) : Except CameraError ExposureMode :=
  if !c.isConnected then .error .notConnected else .ok (if c.isBulb then .bulb else .fixed c.shutter)

/-- changes a setting; the shutter speed decides how exposures are timed -/
def set (c : Camera) (name value : String) : Except CameraError Unit × Camera × List LogEvent :=
  if value.isEmpty then (.error (.setting name "empty value"), c, [])
  else
    (.ok (), if name = "shutterspeed" then { c with isBulb := lowerCase value = "bulb" } else c,
      [⟨.debug, "simulated camera setting applied", [("name", .text name), ("value", .text value)]⟩])

end Camera

end RemoteShutter
