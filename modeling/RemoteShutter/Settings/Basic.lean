/-
The settings of the controller.

Each has a default. Sizes and counts are kept as wide as they can be given; `check` refuses those that the link cannot
work with, and a log threshold that nobody can read.
-/
import RemoteShutter.Link.Server
import RemoteShutter.Log.Threshold
import RemoteShutter.Text.Printable

namespace RemoteShutter

structure CameraSettings where
  /-- milliseconds that each capture takes on top of its exposure -/
  latency : UInt64 := 0
  /-- exposures are timed by the controller from the start -/
  isBulb : Bool := false
  deriving DecidableEq, Repr

structure Settings where
  port : UInt16 := 8888
  /-- where pictures are downloaded to -/
  downloadFolder : String := "/home/pi/CCCaptures/"
  /-- bytes that wait for the client at most -/
  sendBuffer : UInt64 := 1048576
  /-- bytes of one read, and of one write -/
  recvChunk : UInt64 := 512
  sendChunk : UInt64 := 512
  /-- how much of the log goes to the client -/
  logLevel : String := "info"
  /-- seconds between two status reports; zero for none -/
  statusInterval : UInt64 := 5
  camera : CameraSettings := {}
  deriving DecidableEq, Repr

/-- what is wrong with settings -/
inductive SettingsFault where
  | noSendBuffer
  | noRecvChunk
  | noSendChunk
  | logLevel (text : String)
  deriving DecidableEq, Repr

def SettingsFault.message : SettingsFault → String
  | noSendBuffer => "send_buffer_size must be positive"
  | noRecvChunk => "recv_chunk_size must be positive"
  | noSendChunk => "send_chunk_size must be positive"
  | logLevel text => s!"invalid remote_log_level {Quoted.text text}"

namespace Settings

/-- the settings of the link -/
def link (c : Settings) : LinkConfig :=
  ⟨c.port.toNat, c.sendBuffer.toNat, c.recvChunk.toNat, c.sendChunk.toNat⟩

/-- how much of the log goes to the client -/
def threshold (c : Settings) : Except SettingsFault LogThreshold :=
  match LogThreshold.ofText? c.logLevel with
  | some t => .ok t
  | none => .error (.logLevel c.logLevel)

/-- seconds between two status reports, if there are any -/
def statusPeriod? (c : Settings) : Option Nat :=
  if c.statusInterval = 0 then none else some c.statusInterval.toNat

/-- the first thing that is wrong, if anything is -/
def check (c : Settings) : Except SettingsFault Unit := do
  if c.sendBuffer = 0 then throw .noSendBuffer
  if c.recvChunk = 0 then throw .noRecvChunk
  if c.sendChunk = 0 then throw .noSendChunk
  let _ ← c.threshold

end Settings

end RemoteShutter
