/-
Status reports as JSON text.

A report is written as an object with its fields in a fixed order; what is absent is left out. Reading takes the fields
in any order, or an array with all of them, and treats null like an absent part.
-/
import RemoteShutter.Telemetry.StatusReport
import RemoteShutter.Json.Convert
import RemoteShutter.Json.Printer
import RemoteShutter.Json.Record

namespace RemoteShutter

open JsonReader (RecordField Record)

/-! ## Writing -/

namespace TimingStats

def toJson (s : TimingStats) : Json :=
  .object [("exposuresCount", .ofNat s.exposures.toNat), ("totalUs", .ofInt s.total.toInt), ("maxUs", .ofInt s.max.toInt),
    ("lastUs", .ofInt s.last.toInt), ("lateCount", .ofNat s.late.toNat)]

end TimingStats

namespace FunctionReport

def toJson (r : FunctionReport) : Json :=
  let interval := match r.interval with
    | some ms => [("intervalMs", Json.ofNat ms.toNat)]
    | none => []
  .object ([("kind", .text r.kind.text), ("lifecycle", .text r.lifecycle.text),
    ("downloadAfterExposure", .bool r.download), ("programmedExposures", .ofInt r.programmed.toInt),
    ("exposureTimeUs", .ofNat r.exposureTime.toNat)] ++ interval ++ [("stats", r.stats.toJson)])

end FunctionReport

namespace StatusReport

def toJson (r : StatusReport) : Json :=
  let function := match r.function with
    | some f => [("function", f.toJson)]
    | none => []
  .object (("uptimeSecs", .ofNat r.uptime.toNat) :: function)

def text (r : StatusReport) : String :=
  r.toJson.compact

def toBytes (r : StatusReport) : Bytes :=
  Utf8.encode r.text.toList

end StatusReport

/-! ## Reading -/

/-- a field that must be there -/
def requiredField {σ α : Type} (key : String) (get : σ → Option α) (set : σ → α → σ) (read : JsonReader α) : RecordField σ where
  key := key
  isFilled s := (get s).isSome
  read s bs := (read bs).map fun (x, rest) => (set s x, rest)
  leftOut _ := none

/-- a field that may be left out or null -/
def optionalField {σ α : Type} (key : String) (get : σ → Option (Option α)) (set : σ → Option α → σ)
    (read : JsonReader α) : RecordField σ where
  key := key
  isFilled s := (get s).isSome
  read s bs := (JsonReader.optional read bs).map fun (x, rest) => (set s x, rest)
  leftOut s := some (set s none)

namespace TimingStats

/-- statistics of which some fields have been read -/
structure Partial where
  exposures : Option UInt32 := none
  total : Option Int64 := none
  max : Option Int64 := none
  last : Option Int64 := none
  late : Option UInt32 := none

def uint32 : JsonReader UInt32 := JsonReader.numberAs "u32" JsonNumber.toUInt32
def int64 : JsonReader Int64 := JsonReader.numberAs "i64" JsonNumber.toInt64

def layout : Record Partial where
  name := "TimingStats"
  fields := [
    requiredField "exposuresCount" (·.exposures) (fun s x => { s with exposures := some x }) uint32,
    requiredField "totalUs" (·.total) (fun s x => { s with total := some x }) int64,
    requiredField "maxUs" (·.max) (fun s x => { s with max := some x }) int64,
    requiredField "lastUs" (·.last) (fun s x => { s with last := some x }) int64,
    requiredField "lateCount" (·.late) (fun s x => { s with late := some x }) uint32]

def Partial.whole (p : Partial) : TimingStats :=
  ⟨p.exposures.getD 0, p.total.getD 0, p.max.getD 0, p.last.getD 0, p.late.getD 0⟩

def read : JsonReader TimingStats := fun s =>
  (layout.read {} s).map fun (p, rest) => (p.whole, rest)

end TimingStats

namespace FunctionReport

/-- a report of which some fields have been read -/
structure Partial where
  kind : Option FunctionKind := none
  lifecycle : Option LifecycleState := none
  download : Option Bool := none
  programmed : Option Int64 := none
  exposureTime : Option UInt32 := none
  interval : Option (Option UInt64) := none
  stats : Option TimingStats := none

def layout : Record Partial where
  name := "FunctionReport"
  fields := [
    requiredField "kind" (·.kind) (fun s x => { s with kind := some x })
      (JsonReader.choice (FunctionKind.all.map fun k => (k.text, k))),
    requiredField "lifecycle" (·.lifecycle) (fun s x => { s with lifecycle := some x })
      (JsonReader.choice (LifecycleState.all.map fun l => (l.text, l))),
    requiredField "downloadAfterExposure" (·.download) (fun s x => { s with download := some x }) JsonReader.boolean,
    requiredField "programmedExposures" (·.programmed) (fun s x => { s with programmed := some x }) TimingStats.int64,
    requiredField "exposureTimeUs" (·.exposureTime) (fun s x => { s with exposureTime := some x }) TimingStats.uint32,
    optionalField "intervalMs" (·.interval) (fun s x => { s with interval := some x })
      (JsonReader.numberAs "u64" JsonNumber.toUInt64),
    requiredField "stats" (·.stats) (fun s x => { s with stats := some x }) TimingStats.read]

def Partial.whole (p : Partial) : FunctionReport :=
  ⟨p.kind.getD .sequencer, p.lifecycle.getD .idle, p.download.getD false, p.programmed.getD 0, p.exposureTime.getD 0,
    p.interval.getD none, p.stats.getD {}⟩

def read : JsonReader FunctionReport := fun s =>
  (layout.read {} s).map fun (p, rest) => (p.whole, rest)

end FunctionReport

namespace StatusReport

/-- a report of which some fields have been read -/
structure Partial where
  uptime : Option UInt64 := none
  function : Option (Option FunctionReport) := none

def layout : Record Partial where
  name := "StatusReport"
  fields := [
    requiredField "uptimeSecs" (·.uptime) (fun s x => { s with uptime := some x })
      (JsonReader.numberAs "u64" JsonNumber.toUInt64),
    optionalField "function" (·.function) (fun s x => { s with function := some x }) FunctionReport.read]

def read : JsonReader StatusReport := fun s =>
  (layout.read {} s).map fun (p, rest) => (⟨p.uptime.getD 0, p.function.getD none⟩, rest)

/-- the report that a text stands for -/
def ofBytes (s : Bytes) : Except JsonFault StatusReport :=
  JsonReader.whole read s

end StatusReport

end RemoteShutter
