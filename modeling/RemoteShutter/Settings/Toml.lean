/-
Settings as TOML.

Every setting has a key, and a key that is absent means its default. Keys that nobody knows are skipped. A value of the
wrong kind, or a number out of range, makes the settings invalid.

The settings of the camera are a table, but may also be a list of values in their order. A date or time in their place
brings no settings of the camera at all.
-/
import RemoteShutter.Settings.Basic
import RemoteShutter.Toml.Reader
import RemoteShutter.Toml.Printer

namespace RemoteShutter

namespace TomlValue

/-- a whole number of at most `most` -/
def natural? (most : Nat) : TomlValue → Option Nat
  | scalar (.whole n) => if 0 ≤ n ∧ n ≤ most then some n.toNat else none
  | _ => none

def uint16? (v : TomlValue) : Option UInt16 :=
  (v.natural? 65535).map Nat.toUInt16

def uint64? (v : TomlValue) : Option UInt64 :=
  (v.natural? 18446744073709551615).map Nat.toUInt64

def flag? : TomlValue → Option Bool
  | scalar (.flag b) => some b
  | _ => none

def text? : TomlValue → Option String
  | scalar (.text s) => some s
  | _ => none

end TomlValue

/-- a value that may be absent, in which case its default counts -/
def TomlValue.orDefault {α : Type} (read : TomlValue → Option α) (default : α) : Option TomlValue → Option α
  | none => some default
  | some v => read v

namespace CameraSettings

/-- from the value of each setting, if it has one -/
def ofValues? (latency isBulb : Option TomlValue) : Option CameraSettings := do
  let default : CameraSettings := {}
  return {
    latency := ← TomlValue.orDefault TomlValue.uint64? default.latency latency
    isBulb := ← TomlValue.orDefault TomlValue.flag? default.isBulb isBulb }

def ofToml? : TomlValue → Option CameraSettings
  | .table _ es => ofValues? (es.lookup "capture_latency_ms") (es.lookup "bulb")
  | .list _ vs => ofValues? vs[0]? vs[1]?
  | .moment => some {}
  | _ => none

def pairs (c : CameraSettings) : Toml.Pairs :=
  [("capture_latency_ms", .whole c.latency.toNat), ("bulb", .flag c.isBulb)]

end CameraSettings

namespace Settings

def ofToml? (es : TomlEntries) : Option Settings := do
  let default : Settings := {}
  return {
    port := ← TomlValue.orDefault TomlValue.uint16? default.port (es.lookup "port")
    downloadFolder := ← TomlValue.orDefault TomlValue.text? default.downloadFolder (es.lookup "download_folder")
    sendBuffer := ← TomlValue.orDefault TomlValue.uint64? default.sendBuffer (es.lookup "send_buffer_size")
    recvChunk := ← TomlValue.orDefault TomlValue.uint64? default.recvChunk (es.lookup "recv_chunk_size")
    sendChunk := ← TomlValue.orDefault TomlValue.uint64? default.sendChunk (es.lookup "send_chunk_size")
    logLevel := ← TomlValue.orDefault TomlValue.text? default.logLevel (es.lookup "remote_log_level")
    statusInterval := ← TomlValue.orDefault TomlValue.uint64? default.statusInterval (es.lookup "status_interval_secs")
    camera := ← TomlValue.orDefault CameraSettings.ofToml? default.camera (es.lookup "camera") }

/-- the settings that a text describes, if it is valid -/
def ofText? (s : List Char) : Option Settings :=
  (Toml.ofText? s).bind ofToml?

def pairs (c : Settings) : Toml.Pairs :=
  [("port", .whole c.port.toNat), ("download_folder", .text c.downloadFolder),
    ("send_buffer_size", .whole c.sendBuffer.toNat), ("recv_chunk_size", .whole c.recvChunk.toNat),
    ("send_chunk_size", .whole c.sendChunk.toNat), ("remote_log_level", .text c.logLevel),
    ("status_interval_secs", .whole c.statusInterval.toNat)]

/-- the text of settings, unless a number is too large for it -/
def text? (c : Settings) : Option String :=
  Toml.text? c.pairs [("camera", c.camera.pairs)]

end Settings

end RemoteShutter
