/-
The controller: a station, a link to its client, and a main loop.

It starts by setting up the camera and the download folder; a folder that cannot be made is only complained about. Then
the link listens. Frames from the client go to the station. A tick sends the client a status report, unless nobody is
connected. The first power request, or an interrupt, ends the main loop: the active function is stopped, then the link is
shut down, and only then a requested power action is carried out.
-/
import RemoteShutter.Controller.Host
import RemoteShutter.Control.Handler
import RemoteShutter.Control.Schedule
import RemoteShutter.Link.Outbound
import RemoteShutter.Log.Record
import RemoteShutter.Settings.Basic

namespace RemoteShutter

structure Controller where
  host : Host
  link : Link
  station : Station
  /-- how many events of the link have been taken in -/
  heard : Nat := 0
  /-- the client, for the log -/
  peer : Option Address := none
  /-- seconds -/
  uptime : Nat := 0
  /-- programs of the host that have been run, with their arguments -/
  commands : List (String × List String) := []
  log : List LogRecord := []

namespace Controller

/-! ## What it says -/

def appTarget : String := "camctl::app"
def powerTarget : String := "camctl::power"
def linkTarget : String := "camctl_link::server"
def cameraTarget : String := "camctl_camera::simulated"
def lifecycleTarget : String := "camctl_functions::lifecycle"

def say (c : Controller) (target : String) (e : LogEvent) (thread : LogThread := .main) : Controller :=
  { c with log := c.log ++ [⟨target, thread, e⟩] }

/-! ## Starting -/

/-- a controller that has done nothing yet -/
def ofSettings (settings : Settings) (host : Host) (link : Link) (files : FileTree) : Controller :=
  let camera : Camera := { latency := settings.camera.latency.toNat }
  { host := host, link := link
    station := { studio := { camera := camera, files := files }, folder := settings.downloadFolder } }

/-- from the start the controller times exposures, if it is to -/
def prepareCamera (c : Controller) (isBulb : Bool) : Except ControllerError Unit × Controller :=
  if !isBulb then (.ok (), c)
  else
    match c.station.studio.camera.set "shutterspeed" "bulb" with
    | (.error e, camera, log) =>
      (.error (.setting e.message), log.foldl (fun c e => c.say cameraTarget e) { c with station := c.station.setCamera camera })
    | (.ok (), camera, log) =>
      let c := log.foldl (fun c e => c.say cameraTarget e) { c with station := c.station.setCamera camera }
      (.ok (), c.say appTarget ⟨.info, "camera set to BULB", []⟩)

def prepareFolder (c : Controller) : Controller :=
  let (made, files) := c.station.studio.files.createFolders c.station.folder
  let c := { c with station := { c.station with studio := { c.station.studio with files := files } } }
  match made with
  | .ok () => c
  | .error e =>
    c.say appTarget ⟨.warn, "cannot create download folder",
      [("folder", .worded c.station.folder), ("error", .worded e.message)]⟩

def listen (c : Controller) (port : Nat) : Except ControllerError Unit × Controller :=
  let address := c.host.address port
  if c.host.isPortTaken then (.error (.portTaken address), c)
  else
    let c := c.say linkTarget ⟨.info, "link server listening", [("local_addr", .worded address)]⟩
    (.ok (), c.say appTarget ⟨.info, "controller ready", [("addr", .worded address)]⟩)

/-- everything up to the main loop -/
def start (settings : Settings) (host : Host) (link : Link) (files : FileTree) :
    Except ControllerError Unit × Controller :=
  match (ofSettings settings host link files).prepareCamera settings.camera.isBulb with
  | (.error e, c) => (.error e, c)
  | (.ok (), c) => c.prepareFolder.listen settings.port.toNat

/-! ## The main loop -/

/-- the client is on the same host -/
def clientAddress : Address := .four 127 0 0 1 50000

/-- takes in one event of the link; then the functions go on as far as they can -/
def take (c : Controller) : LinkEvent → Controller
  | .connected => { c with peer := some clientAddress }
  | .disconnected => { c with peer := none }
  | .frame f => { c with station := (c.station.onFrame c.peer f).settle false }

/-- the link goes on as far as it can, and the station with what comes of it -/
def settle (c : Controller) : Controller :=
  let c := { c with link := c.link.settle }
  let news := c.link.events.drop c.heard
  news.foldl take { c with heard := c.heard + news.length }

def status (c : Controller) : StatusReport :=
  ⟨c.uptime.toUInt64, c.station.status⟩

/-- sends the client a status report -/
def publish (c : Controller) : Controller :=
  if c.link.queue.isConnected then
    let c := { c with link := { c.link with queue := c.link.queue.sendStatus c.status } }
    c.say appTarget ⟨.info, "controller alive", [("uptime_secs", .ofNat c.uptime)]⟩
  else c

/-- what may happen at a controller -/
inductive Event where
  | link (e : Link.Event)
  /-- it is time for a status report -/
  | tick
  /-- seconds pass -/
  | pass (seconds : Nat)
  deriving DecidableEq, Repr

def step (c : Controller) : Event → Controller
  | .link e => { c with link := c.link.step e }.settle
  | .tick => c.publish.settle
  | .pass seconds => { c with uptime := c.uptime + seconds }

def steps (c : Controller) (es : List Event) : Controller :=
  es.foldl step c

/-- the power action that ends the main loop, if there is one -/
def requested? (c : Controller) : Option PowerAction :=
  c.station.requests.head?

/-! ## Ending -/

/-- stops the active function, if it runs -/
def stopFunction (c : Controller) : Controller :=
  match c.station.active? with
  | some f =>
    if f.life.canAbort then
      let c := c.say appTarget ⟨.info, "aborting active function", [("kind", .worded f.plan.kind.name)]⟩ .closing
      let c := c.say lifecycleTarget Station.abortingFunction .closing
      { c with station := c.station.abortActive.settle false }
    else c
  | none => c

def stopLink (c : Controller) : Controller :=
  let c := c.say linkTarget ⟨.info, "link server shutting down", []⟩ .closing
  { c with link := c.link.shutdown }

/-- carries out a power action -/
def execute (c : Controller) (a : PowerAction) : Except ControllerError Unit × Controller :=
  let (program, arguments) := a.command
  let c := c.say powerTarget
    ⟨.info, "executing power transition", [("action", .worded a.name), ("program", .text program)]⟩
  let c :=
    if c.host.programs.any (·.1 = program) then { c with commands := c.commands ++ [(program, arguments)] } else c
  match c.host.run program with
  | .ok () => (.ok (), c)
  | .error e =>
    (.error e, c.say appTarget
      ⟨.error, "power transition failed", [("action", .worded a.name), ("error", .worded e.message)]⟩)

/-- everything after the main loop -/
def close (c : Controller) (a : Option PowerAction) : Except ControllerError Unit × Controller :=
  let c := (c.say appTarget ⟨.info, "stopping controller...", []⟩).stopFunction.stopLink
  match a with
  | some a => c.execute a
  | none => (.ok (), c)

/-- the controller is interrupted -/
def interrupt (c : Controller) : Except ControllerError Unit × Controller :=
  (c.say appTarget ⟨.info, "SIGINT received, shutting down", []⟩).close none

end Controller

end RemoteShutter
