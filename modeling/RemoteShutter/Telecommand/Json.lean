/-
Telecommands as JSON objects.

A command is written as an object with its number and its parameters, and read from any object that has these; other
fields do not matter. The number must be a natural one and is looked up in full. Parameters are taken in the order of
their keys, so of two wrong ones the first by key is reported; a missing one is reported only if all that are there fit.
-/
import RemoteShutter.Telecommand.Basic
import RemoteShutter.Json.Convert
import RemoteShutter.Json.Reader
import RemoteShutter.Json.Printer

namespace RemoteShutter

inductive CommandError where
  | json (fault : JsonFault)
  | missingId
  | unknown (id : UInt64)

namespace Telecommand

def idKey : String := "cmd_id"
def exposuresKey : String := "num_exposures"
def exposureTimeKey : String := "exposure_time"
def intervalKey : String := "interval"
def downloadKey : String := "download"

/-- a parameter, if it is there -/
def parameter? {α : Type} (j : Json) (key : String) (convert : Json → Except Mismatch α) :
    Except Mismatch (Option α) :=
  match j.field? key with
  | none => .ok none
  | some v => (convert v).map some

def required {α : Type} (key : String) : Option α → Except Mismatch α
  | some x => .ok x
  | none => .error (.missing key)

def downloadOfJson (j : Json) : Except Mismatch Bool := do
  let download ← parameter? j downloadKey Json.toBool
  required downloadKey download

def sequencerOfJson (j : Json) : Except Mismatch SequencerSetup := do
  let download ← parameter? j downloadKey Json.toBool
  let exposureTime ← parameter? j exposureTimeKey Json.toInt32
  let exposures ← parameter? j exposuresKey Json.toInt32
  let exposures ← required exposuresKey exposures
  let exposureTime ← required exposureTimeKey exposureTime
  let download ← required downloadKey download
  return ⟨exposures, exposureTime, download⟩

def intervalometerOfJson (j : Json) : Except Mismatch IntervalometerSetup := do
  let download ← parameter? j downloadKey Json.toBool
  let exposureTime ← parameter? j exposureTimeKey Json.toInt32
  let interval ← parameter? j intervalKey Json.toInt32
  let exposures ← parameter? j exposuresKey Json.toInt32
  let exposures ← required exposuresKey exposures
  let exposureTime ← required exposureTimeKey exposureTime
  let interval ← required intervalKey interval
  let download ← required downloadKey download
  return ⟨exposures, exposureTime, interval, download⟩

def ofMismatch {α : Type} : Except Mismatch α → Except CommandError α
  | .ok x => .ok x
  | .error m => .error (.json (.mismatch m))

/-- the command that an object stands for -/
def ofJson (j : Json) : Except CommandError Telecommand :=
  match (j.field? idKey).bind Json.natural? with
  | none => .error .missingId
  | some id =>
    match id.toNat with
    | 1 => .ok shutdown
    | 2 => .ok reboot
    | 5 => .ok start
    | 6 => .ok stop
    | 9 => .ok testConnection
    | 10 => .ok reconnect
    | 18 => .ok testCapture
    | 19 => (ofMismatch (downloadOfJson j)).map downloadAfterExposure
    | 20 => (ofMismatch (sequencerOfJson j)).map sequencerSetup
    | 30 => (ofMismatch (intervalometerOfJson j)).map intervalometerSetup
    | _ => .error (.unknown id)

def int32 (z : Int32) : Json :=
  .ofInt z.toInt

/-- the object that stands for a command, its fields in the order of their keys -/
def toJson (c : Telecommand) : Json :=
  let parameters := match c with
    | downloadAfterExposure download => [(downloadKey, Json.bool download)]
    | sequencerSetup s =>
      [(downloadKey, .bool s.download), (exposureTimeKey, int32 s.exposureTime), (exposuresKey, int32 s.exposures)]
    | intervalometerSetup s =>
      [(downloadKey, .bool s.download), (exposureTimeKey, int32 s.exposureTime), (intervalKey, int32 s.interval),
        (exposuresKey, int32 s.exposures)]
    | _ => []
  .object ((idKey, .ofNat c.id) :: parameters)

/-- the text that a client sends -/
def text (c : Telecommand) : String :=
  c.toJson.compact

def toBytes (c : Telecommand) : Bytes :=
  Utf8.encode c.text.toList

/-- the command that the payload of a telecommand frame stands for -/
def ofBytes (payload : Bytes) : Except CommandError Telecommand :=
  match Json.ofBytes payload with
  | .ok j => ofJson j
  | .error fault => .error (.json fault)

end Telecommand

namespace CommandError

/-- the wording, where the fault of the text itself has none -/
def message? : CommandError → Option String
  | json (.mismatch m) => some m.message
  | json _ => none
  | missingId => some "missing or invalid cmd_id"
  | unknown id => some s!"unrecognized command: {id.toNat}"

/-- the wording in log lines -/
def logText : CommandError → String
  | missingId => "missing or invalid cmd_id"
  | unknown id => s!"unrecognized command: {id.toNat}"
  | json _ => "invalid JSON"

end CommandError

end RemoteShutter
