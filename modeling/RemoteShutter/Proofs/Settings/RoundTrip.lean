/-
Settings are read back from the file that they were saved in.

- `isSome_text?_iff`: settings have a text if no number is too large for it.
- `ofText?_without`: from what is left of the text when keys are taken out, all other settings are read back, and those
  taken out get their defaults.
- `load_of_read`: a file is loaded by its content alone.
- `save_load`: settings that have a text are saved wherever a file can be written, and are read back from there. Others
  leave all files as they were.
-/
import RemoteShutter.Proofs.Files.Folders
import RemoteShutter.Proofs.Text.Utf8
import RemoteShutter.Proofs.Toml.Documents
import RemoteShutter.Settings.Storage

namespace RemoteShutter

open Toml (isGone)

/-! ## Values -/

namespace TomlValue

theorem natural?_whole {most n : Nat} (h : n ≤ most) : (scalar (.whole n)).natural? most = some n := by
  rw [natural?, if_pos ⟨Int.natCast_nonneg n, Int.ofNat_le.2 h⟩, Int.toNat_natCast]

theorem uint16?_whole (n : UInt16) : (scalar (.whole n.toNat)).uint16? = some n := by
  rw [uint16?, natural?_whole (Nat.le_of_lt_succ n.toNat_lt), Option.map_some, Nat.toUInt16, UInt16.ofNat_toNat]

theorem uint64?_whole (n : UInt64) : (scalar (.whole n.toNat)).uint64? = some n := by
  rw [uint64?, natural?_whole (Nat.le_of_lt_succ n.toNat_lt), Option.map_some, Nat.toUInt64, UInt64.ofNat_toNat]

/-- a value that was taken out gives way to the default -/
theorem orDefault_ite {α : Type} {read : TomlValue → Option α} {v : TomlValue} {x : α} (h : read v = some x)
    (default : α) (gone : Bool) :
    orDefault read default (if gone then none else some v) = some (if gone then default else x) := by
  cases gone with
  | true => rfl
  | false => exact h

end TomlValue

namespace CameraSettings

/-- settings in which some have been given up for their defaults -/
def without (gone : List String → Bool) (c : CameraSettings) : CameraSettings :=
  let default : CameraSettings := {}
  { latency := if isGone gone ["camera", "capture_latency_ms"] then default.latency else c.latency
    isBulb := if isGone gone ["camera", "bulb"] then default.isBulb else c.isBulb }

theorem ofToml?_without (gone : List String → Bool) (c : CameraSettings) :
    ofToml? (.table .header (Toml.entriesOf (Toml.pairsWithout gone ["camera"] c.pairs))) = some (c.without gone) := by
  have hlatency : c.pairs.lookup "capture_latency_ms" = some (.whole c.latency.toNat) := rfl
  have hbulb : c.pairs.lookup "bulb" = some (.flag c.isBulb) := rfl
  have hflag : TomlValue.flag? (.scalar (.flag c.isBulb)) = some c.isBulb := rfl
  rw [ofToml?, Toml.lookup_pairsWithout, Toml.lookup_pairsWithout, hlatency, hbulb, Option.map_some, Option.map_some,
    ofValues?, TomlValue.orDefault_ite (TomlValue.uint64?_whole c.latency), TomlValue.orDefault_ite hflag]
  rfl

end CameraSettings

namespace Settings

variable {c : Settings} {files t : FileTree} {path text : String} {gone : List String → Bool}

/-- the lines that settings are written in: one for each key, and one for the header of the camera's table -/
def lines (c : Settings) : List Toml.Line :=
  Toml.lines c.pairs [("camera", c.camera.pairs)]

/-- settings in which some have been given up for their defaults -/
def without (gone : List String → Bool) (c : Settings) : Settings :=
  let default : Settings := {}
  { port := if isGone gone ["port"] then default.port else c.port
    downloadFolder := if isGone gone ["download_folder"] then default.downloadFolder else c.downloadFolder
    sendBuffer := if isGone gone ["send_buffer_size"] then default.sendBuffer else c.sendBuffer
    recvChunk := if isGone gone ["recv_chunk_size"] then default.recvChunk else c.recvChunk
    sendChunk := if isGone gone ["send_chunk_size"] then default.sendChunk else c.sendChunk
    logLevel := if isGone gone ["remote_log_level"] then default.logLevel else c.logLevel
    statusInterval := if isGone gone ["status_interval_secs"] then default.statusInterval else c.statusInterval
    camera := if isGone gone ["camera"] then default.camera else c.camera.without gone }

/-- no number is too large for 64 bits with a sign -/
def Fits (c : Settings) : Prop :=
  ∀ n ∈ [c.port.toNat, c.sendBuffer.toNat, c.recvChunk.toNat, c.sendChunk.toNat, c.statusInterval.toNat,
    c.camera.latency.toNat], n ≤ 2 ^ 63 - 1

instance (c : Settings) : Decidable c.Fits :=
  List.decidableBAll _ _

/-! ## Text -/

theorem text?_eq_lines (c : Settings) : c.text? = Toml.linesText? c.lines :=
  Toml.text?_eq_lines _ _

theorem orderly (c : Settings) : Toml.Orderly c.pairs [("camera", c.camera.pairs)] := by
  constructor
  · have hkeys : c.lines.map Toml.Line.key = ["port", "download_folder", "send_buffer_size", "recv_chunk_size",
        "send_chunk_size", "remote_log_level", "status_interval_secs", "camera", "capture_latency_ms", "bulb"] := rfl
    have hbare : ∀ k ∈ c.lines.map Toml.Line.key, Toml.IsBareKey k := by
      rw [hkeys]
      decide
    exact fun l hl => hbare _ (List.mem_map_of_mem hl)
  · change ["port", "download_folder", "send_buffer_size", "recv_chunk_size", "send_chunk_size", "remote_log_level",
      "status_interval_secs", "camera"].Nodup
    decide
  · intro t ht
    rw [List.mem_singleton.1 ht]
    change ["capture_latency_ms", "bulb"].Nodup
    decide

theorem isSome_pairLine?_whole (k : String) (n : Nat) :
    (Toml.pairLine? (k, .whole n)).isSome = true ↔ n ≤ 2 ^ 63 - 1 := by
  have hleast : Int64.minValue.toInt = -2 ^ 63 := by decide
  have hmost : Int64.maxValue.toInt = 2 ^ 63 - 1 := by decide
  rw [Toml.pairLine?, TomlScalar.written?, Option.isSome_map, hleast, hmost]
  split_ifs with hrange
  · exact ⟨fun _ => by omega, fun _ => rfl⟩
  · exact ⟨fun h => absurd h Bool.false_ne_true, fun h => absurd ⟨by omega, by omega⟩ hrange⟩

/-- **Settings have a text if no number is too large for it.** -/
theorem isSome_text?_iff : c.text?.isSome = true ↔ c.Fits := by
  rw [text?_eq_lines, Toml.isSome_linesText?_iff, Fits]
  have htext : ∀ k s, (Toml.pairLine? (k, .text s)).isSome = true := fun _ _ => rfl
  have hflag : ∀ k b, (Toml.pairLine? (k, .flag b)).isSome = true := fun _ _ => rfl
  simp only [lines, Toml.lines, pairs, CameraSettings.pairs, Toml.pairLines, List.map_cons, List.map_nil,
    List.flatMap_cons, List.flatMap_nil, List.append_nil, List.cons_append, List.nil_append, List.forall_mem_cons,
    Toml.Line.text?, isSome_pairLine?_whole, htext, hflag, Option.isSome_some, List.not_mem_nil, false_imp_iff,
    implies_true, true_and, and_true]

/-- **What is left of the text of settings is read as the settings that are left.** -/
theorem ofText?_without (h : Toml.linesText? (Toml.linesWithout gone c.lines) = some text) :
    ofText? text.toList = some (c.without gone) := by
  let left := Toml.documentEntries (Toml.pairsWithout gone [] c.pairs)
    (Toml.tablesWithout gone [("camera", c.camera.pairs)])
  have hvalue : ∀ k v, c.pairs.lookup k = some v →
      left.lookup k = if isGone gone [k] then none else some (.scalar v) := by
    intro k v hk
    rw [Toml.lookup_documentEntries, hk]
    rfl
  have hcamera : left.lookup "camera" = if isGone gone ["camera"] then none
      else some (.table .header (Toml.entriesOf (Toml.pairsWithout gone ["camera"] c.camera.pairs))) := by
    rw [Toml.lookup_documentEntries]
    rfl
  have htext : ∀ s, TomlValue.text? (.scalar (.text s)) = some s := fun _ => rfl
  rw [ofText?, Toml.ofText?_without c.orderly h, Option.bind_some, ofToml?, hvalue "port" _ rfl,
    hvalue "download_folder" _ rfl, hvalue "send_buffer_size" _ rfl, hvalue "recv_chunk_size" _ rfl,
    hvalue "send_chunk_size" _ rfl, hvalue "remote_log_level" _ rfl, hvalue "status_interval_secs" _ rfl, hcamera]
  simp only [TomlValue.orDefault_ite (TomlValue.uint16?_whole _), TomlValue.orDefault_ite (TomlValue.uint64?_whole _),
    TomlValue.orDefault_ite (htext _), TomlValue.orDefault_ite (CameraSettings.ofToml?_without gone c.camera)]
  rfl

theorem without_nothing (c : Settings) : c.without (fun _ => false) = c := by
  simp only [without, CameraSettings.without, Toml.isGone_nothing, Bool.false_eq_true, if_false]

/-- **The text of settings is read as these settings.** -/
theorem ofText?_text? (h : c.text? = some text) : ofText? text.toList = some c := by
  rw [text?_eq_lines, ← Toml.linesWithout_nothing c.lines] at h
  rw [ofText?_without h, without_nothing]

/-! ## Files -/

/-- a file is loaded by its content alone -/
theorem load_of_read (hread : t.read path = .ok (Utf8.encode text.toList)) (htext : ofText? text.toList = some c) :
    load t path = (.ok c, t) := by
  have hcontent : (t.read path).toOption.bind Utf8.decode? = some text.toList := by
    rw [hread]
    exact Utf8.decode?_encode text.toList
  rw [load, if_pos (FileTree.contains_of_read hread), ofContent, hcontent]
  simp only [htext]

/-- **Settings are read back from the file that they were saved in.** Wherever a file can be written, they can be saved
if and only if no number is too large. The file then has the lines of the settings, and is loaded as these settings.
Whichever keys are taken out of it, one by one or with the camera's whole table, what is left is loaded as the same
settings with the defaults of those keys. Settings that cannot be saved leave every file as it was and make none.

The null device takes settings like any file, but what it takes is written nowhere and cannot be loaded. -/
theorem save_load (c : Settings) {files : FileTree} {path : String} (h : files.IsWritable path) :
    ((c.save files path).1 = .ok () ↔ c.Fits) ∧
    (c.Fits → FileTree.destination path ≠ FileTree.nullDevice →
      ∃ text saved, Toml.linesText? c.lines = some text ∧ c.save files path = (.ok (), saved) ∧
        saved.read path = .ok (Utf8.encode text.toList) ∧ load saved path = (.ok c, saved) ∧
        ∀ gone, ∃ left, Toml.linesText? (Toml.linesWithout gone c.lines) = some left ∧
          ∀ edited : FileTree, edited.read path = .ok (Utf8.encode left.toList) →
            load edited path = (.ok (c.without gone), edited)) ∧
    (¬ c.Fits → ∃ made, c.save files path = (.error .tooLarge, made) ∧ files.KeepsFiles made) := by
  obtain ⟨made, content, t, hmade, hwrite⟩ := h
  have hkeeps : files.KeepsFiles made := by
    have hall := FileTree.keepsFiles_createFolders files ((Path.parent? path).getD "")
    rw [hmade] at hall
    exact hall
  cases htext : c.text? with
  | none =>
    have hlarge : ¬ c.Fits := by
      rw [← isSome_text?_iff, htext]
      exact Bool.false_ne_true
    have hsave : c.save files path = (.error .tooLarge, made) := by
      rw [save, hmade]
      simp only [htext]
    refine ⟨?_, fun hfits => absurd hfits hlarge, fun _ => ⟨made, hsave, hkeeps⟩⟩
    rw [hsave]
    exact ⟨nofun, fun hfits => absurd hfits hlarge⟩
  | some text =>
    have hfits : c.Fits := by
      rw [← isSome_text?_iff, htext]
      rfl
    obtain ⟨written, hwritten⟩ := FileTree.write_of_write hwrite (Utf8.encode text.toList)
    have hsave : c.save files path = (.ok (), written.keepPrivate path) := by
      rw [save, hmade]
      simp only [htext, hwritten]
    refine ⟨?_, fun _ hnull => ?_, fun hlarge => absurd hfits hlarge⟩
    · rw [hsave]
      exact ⟨fun _ => hfits, fun _ => rfl⟩
    · have hread : (written.keepPrivate path).read path = .ok (Utf8.encode text.toList) :=
        FileTree.read_keepPrivate (FileTree.read_of_write hwritten hnull)
      have hlines : Toml.linesText? c.lines = some text := by
        rw [← text?_eq_lines, htext]
      refine ⟨text, _, hlines, hsave, hread, load_of_read hread (ofText?_text? htext), fun gone => ?_⟩
      obtain ⟨left, hleft⟩ := Toml.exists_linesText?_without hlines gone
      exact ⟨left, hleft, fun edited hedited => load_of_read hedited (ofText?_without hleft)⟩

/-- a name with both quotes, a backslash and a line end in it, saved below a folder that is made for the file; then two of
the lines are taken out -/
theorem save_load_quoted :
    let c : Settings :=
      { port := 9000, downloadFolder := "it's \"here\"\n\\", camera := { latency := 250, isBulb := true } }
    let path := "camctl/controller.toml"
    let left := "download_folder = '''\nit's \"here\"\n\\'''\nsend_buffer_size = 1048576\nrecv_chunk_size = 512\n" ++
      "send_chunk_size = 512\nremote_log_level = \"info\"\nstatus_interval_secs = 5\n\n" ++
      "[camera]\ncapture_latency_ms = 250\n"
    let edited : FileTree :=
      ⟨[(.inside ["camctl", "controller.toml"], .file (Utf8.encode left.toList) true), (.inside ["camctl"], .folder)]⟩
    ∃ saved, c.save {} path = (.ok (), saved) ∧ load saved path = (.ok c, saved) ∧
      load edited path = (.ok { c with port := 8888, camera := { latency := 250 } }, edited) := by
  intro c path left edited
  have hwritable : FileTree.IsWritable {} path :=
    ⟨⟨[(.inside ["camctl"], .folder)]⟩, [],
      ⟨[(.inside ["camctl", "controller.toml"], .file [] false), (.inside ["camctl"], .folder)]⟩,
      by decide +kernel, by decide +kernel⟩
  obtain ⟨-, hfits, -⟩ := save_load c hwritable
  obtain ⟨text, saved, -, hsave, -, hload, hleft⟩ := hfits (by decide) (by decide +kernel)
  obtain ⟨rest, hrest, hedited⟩ := hleft fun keys => keys = ["port"] ∨ keys = ["camera", "bulb"]
  have hsame : Toml.linesText? (Toml.linesWithout (fun keys => keys = ["port"] ∨ keys = ["camera", "bulb"]) c.lines) =
      some left := by decide +kernel
  have hkept : c.without (fun keys => keys = ["port"] ∨ keys = ["camera", "bulb"]) =
      { c with port := 8888, camera := { latency := 250 } } := by decide +kernel
  have hread : edited.read path = .ok (Utf8.encode left.toList) := by
    have hplace : FileTree.destination path = .inside ["camctl", "controller.toml"] := by decide +kernel
    refine FileTree.read_eq_ok_iff.2 ⟨.inside ["camctl"], "controller.toml", true, by decide +kernel, by decide +kernel,
      by decide, ?_⟩
    rw [hplace]
    rfl
  rw [hkept, Option.some.inj (hrest.symm.trans hsame)] at hedited
  exact ⟨saved, hsave, hload, hedited edited hread⟩

end Settings

end RemoteShutter
