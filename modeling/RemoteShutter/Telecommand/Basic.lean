/-
Telecommands: what a client can ask of the controller.

Each command has a number and a name. Setups carry the number of exposures (-1 for no limit), the exposure time in
microseconds, whether to download each picture, and for the intervalometer the period in milliseconds.
-/

namespace RemoteShutter

structure SequencerSetup where
  exposures : Int32
  exposureTime : Int32
  download : Bool
  deriving DecidableEq, Repr

structure IntervalometerSetup where
  exposures : Int32
  exposureTime : Int32
  interval : Int32
  download : Bool
  deriving DecidableEq, Repr

inductive Telecommand where
  | shutdown
  | reboot
  | testConnection
  | reconnect
  | start
  | stop
  | testCapture
  | downloadAfterExposure (download : Bool)
  | sequencerSetup (setup : SequencerSetup)
  | intervalometerSetup (setup : IntervalometerSetup)
  deriving DecidableEq, Repr

namespace Telecommand

/-- the number by which a client names the command -/
def id : Telecommand → Nat
  | shutdown => 1
  | reboot => 2
  | start => 5
  | stop => 6
  | testConnection => 9
  | reconnect => 10
  | testCapture => 18
  | downloadAfterExposure _ => 19
  | sequencerSetup _ => 20
  | intervalometerSetup _ => 30

/-- the name of the command in log lines -/
def name : Telecommand → String
  | shutdown => "shutdown"
  | reboot => "reboot"
  | start => "function_start"
  | stop => "function_stop"
  | testConnection => "camera_test_connection"
  | reconnect => "camera_reconnect"
  | testCapture => "function_test_capture"
  | downloadAfterExposure _ => "download_after_exposure"
  | sequencerSetup _ => "sequencer_setup"
  | intervalometerSetup _ => "intervalometer_setup"

end Telecommand

end RemoteShutter
