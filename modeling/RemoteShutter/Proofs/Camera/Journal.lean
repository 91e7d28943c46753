/-
What the counters of a camera stand for.

The journal of a roll lists what comes of everything that is done with the camera: connections that are made, dropped on
demand or lost, pictures that are exposed, files that are written. It is made from the answers of the camera and of the
files, and no entry looks at a counter.
- `Tells`: entries that lead from one camera with its files to another. Each counter goes up by the entries that it
  counts, each connection is still there or was dropped or lost, and the files come from the writes alone.
- `tells_step`, `tells_steps`: so it is for every operation, and for every history.
- `exposed_steps`: the pictures of the journal are those of the roll.
- `step_of_unexposed`, `exposed_of_step`: a capture that exposes nothing changes nothing; one that exposes a picture gives
  it the next number, even if the download fails.
- `connections_journal`: no connection gets lost without an entry.
- `counters_follow_journal`: all of it for a new camera with which anything has been done.

A fault may also hit an operation midway. What is left then is what two operations leave with the fault between them: a
capture without a folder and a download, or a disconnect and a connect.
-/
import Mathlib.Tactic
import RemoteShutter.Proofs.Camera.Roll

namespace RemoteShutter

namespace Camera

/-! ## Counters and entries -/

/-- the counters of a camera -/
inductive Counter where
  | shots
  | connects
  | disconnects
  | captures
  | remoteCaptures
  | downloads
  deriving DecidableEq, Repr

def reading (c : Camera) : Counter → UInt32
  | .shots => c.shots
  | .connects => c.connects
  | .disconnects => c.disconnects
  | .captures => c.captures
  | .remoteCaptures => c.remoteCaptures
  | .downloads => c.downloads

/-- what comes of an operation, piece by piece -/
inductive Entry where
  /-- a connection was made -/
  | connected
  /-- the connection was dropped on demand -/
  | dropped
  /-- the connection was lost: the cable was pulled, or another connection took its place -/
  | lost
  | exposed (mode : ExposureMode) (s : Shot)
  /-- a file was written -/
  | wrote (destination : String) (content : Bytes)
  /-- others have left other files -/
  | left (files : FileTree)
  deriving DecidableEq, Repr

namespace Entry

/-- whether a counter takes note of it; a picture is counted among all pictures and among those of its kind -/
def countedBy : Entry → Counter → Bool
  | .connected, .connects => true
  | .dropped, .disconnects => true
  | .exposed _ _, .shots => true
  | .exposed (.fixed _) _, .captures => true
  | .exposed .bulb _, .remoteCaptures => true
  | .wrote _ _, .downloads => true
  | _, _ => false

def shot? : Entry → Option Shot
  | .exposed _ s => some s
  | _ => none

/-- does to the files what the entry says -/
def perform (files : FileTree) : Entry → Except FileError FileTree
  | .wrote destination content => files.write destination content
  | .left files' => .ok files'
  | _ => .ok files

theorem length_shots (es : List Entry) : (es.filterMap shot?).length = es.countP (·.countedBy .shots) := by
  rw [List.length_filterMap_eq_countP]
  congr 1
  funext e
  cases e <;> rfl

/-- a picture is of one kind or of the other -/
theorem countP_shots (es : List Entry) :
    es.countP (·.countedBy .shots) = es.countP (·.countedBy .captures) + es.countP (·.countedBy .remoteCaptures) := by
  induction es with
  | nil => rfl
  | cons e es ih =>
    rw [List.countP_cons, List.countP_cons, List.countP_cons, ih]
    cases e with
    | exposed mode s => cases mode <;> simp only [countedBy, if_true, if_false, Bool.false_eq_true] <;> omega
    | _ => rfl

end Entry

/-! ## What comes of each operation -/

section Entries

variable (c : Camera)

/-- a connection that is made takes the place of the one that is there -/
def dialEntries : List Entry :=
  match c.connect.1 with
  | .error _ => []
  | .ok () => if c.isConnected then [.lost, .connected] else [.connected]

def dropEntries : List Entry :=
  if c.isConnected then [.dropped] else []

def handleEntries : Handling → List Entry
  | .fault .unplug => if c.isConnected then [.lost] else []
  | .fault _ => []
  | .connect => c.dialEntries
  | .disconnect => c.dropEntries
  | .ensureReady => if c.isConnected then [] else c.dialEntries
  | .reconnect => c.dropEntries ++ c.disconnect.dialEntries
  | .set _ _ => []

/-- a picture that is there is written to its file, if that can be done -/
def writeEntries (files : FileTree) (s : Shot) (destination : String) : List Entry :=
  if c.isConnected && c.has s then
    match files.write destination (pictureText s) with
    | .error _ => []
    | .ok _ => [.wrote destination (pictureText s)]
  else []

def deliveryEntries (files : FileTree) (s : Shot) : Option String → List Entry
  | none => []
  | some folder => c.writeEntries files s (Path.join folder s.name)

/-- the exposure stands also if nothing comes of the download -/
def fireEntries (files : FileTree) (mode : ExposureMode) (folder : Option String) : List Entry :=
  match c.exposure? with
  | none => []
  | some s => .exposed mode s :: (c.exposed mode).deliveryEntries files s folder

end Entries

/-! ## Entries lead from one camera to another -/

/-- the entries say how the camera `c` with the files `files` has become `c'` with `files'` -/
structure Tells (c : Camera) (files : FileTree) (es : List Entry) (c' : Camera) (files' : FileTree) : Prop where
  counted : ∀ k, c'.reading k = c.reading k + .ofNat (es.countP (·.countedBy k))
  /-- a connection that was there or was made is still there, or it was dropped or lost -/
  connection : c.isConnected.toNat + es.countP (·.countedBy .connects) =
    c'.isConnected.toNat + es.countP (·.countedBy .disconnects) + es.count .lost
  /-- every write in the list succeeds, and nothing else changes the files -/
  written : es.foldlM Entry.perform files = .ok files'

variable {c c' c'' : Camera} {files files' files'' : FileTree} {es es' : List Entry}

theorem tells_same (hreading : ∀ k, c'.reading k = c.reading k) (hconnected : c'.isConnected = c.isConnected)
    (files : FileTree) : Tells c files [] c' files :=
  ⟨fun k => (hreading k).trans (UInt32.add_zero _).symm, by rw [hconnected]; rfl, rfl⟩

theorem Tells.refl (c : Camera) (files : FileTree) : Tells c files [] c files :=
  tells_same (fun _ => rfl) rfl files

theorem Tells.trans (h : Tells c files es c' files') (h' : Tells c' files' es' c'' files'') :
    Tells c files (es ++ es') c'' files'' := by
  refine ⟨?_, ?_, ?_⟩
  · intro k
    rw [h'.counted, h.counted, List.countP_append, UInt32.ofNat_add, UInt32.add_assoc]
  · have hfirst := h.connection
    have hsecond := h'.connection
    rw [List.countP_append, List.countP_append, List.count_append]
    omega
  · rw [List.foldlM_append, h.written]
    exact h'.written

/-! ## Connections -/

theorem tells_connect (c : Camera) (files : FileTree) : Tells c files c.dialEntries c.connect.2.1 files := by
  unfold dialEntries connect
  cases c.refusesConnect with
  | true => exact .refl c files
  | false =>
    cases hconnected : c.isConnected with
    | false => exact ⟨fun k => by cases k <;> simp [reading, Entry.countedBy], by rw [hconnected]; rfl, rfl⟩
    | true => exact ⟨fun k => by cases k <;> simp [reading, Entry.countedBy], by rw [hconnected]; rfl, rfl⟩

theorem tells_disconnect (c : Camera) (files : FileTree) : Tells c files c.dropEntries c.disconnect files := by
  unfold dropEntries disconnect
  cases hconnected : c.isConnected with
  | false => exact .refl c files
  | true => exact ⟨fun k => by cases k <;> simp [reading, Entry.countedBy], by rw [hconnected]; rfl, rfl⟩

theorem tells_unplug (c : Camera) (files : FileTree) :
    Tells c files (if c.isConnected then [.lost] else []) c.unplug files := by
  cases hconnected : c.isConnected with
  | false => exact tells_same (fun k => by cases k <;> rfl) hconnected.symm files
  | true => exact ⟨fun k => by cases k <;> simp [reading, unplug, Entry.countedBy], by rw [hconnected]; rfl, rfl⟩

/-- a setting touches neither the counters nor the connection -/
theorem tells_set (c : Camera) (name value : String) (files : FileTree) :
    Tells c files [] (c.set name value).2.1 files := by
  unfold set
  split_ifs
  · exact .refl c files
  · apply tells_same
    · intro k
      cases k <;> rfl
    · rfl
  · exact .refl c files

theorem tells_handle (c : Camera) (h : Handling) (files : FileTree) :
    Tells c files (c.handleEntries h) (c.handle h) files := by
  cases h with
  | fault f =>
    cases f with
    | unplug => exact c.tells_unplug files
    | refuseConnect | answer | failCaptures =>
      apply tells_same
      · intro k
        cases k <;> rfl
      · rfl
  | connect => exact c.tells_connect files
  | disconnect => exact c.tells_disconnect files
  | ensureReady =>
    simp only [handleEntries, handle, ensureReady_camera]
    split_ifs
    · exact .refl c files
    · exact c.tells_connect files
  | reconnect => exact (c.tells_disconnect files).trans (c.disconnect.tells_connect files)
  | set name value => exact c.tells_set name value files

/-! ## Pictures and files -/

theorem tells_exposed (c : Camera) (mode : ExposureMode) (s : Shot) (files : FileTree) :
    Tells c files [.exposed mode s] (c.exposed mode) files := by
  cases mode with
  | bulb => exact ⟨fun k => by cases k <;> simp [exposed, reading, Entry.countedBy], rfl, rfl⟩
  | fixed time => exact ⟨fun k => by cases k <;> simp [exposed, reading, Entry.countedBy], rfl, rfl⟩

theorem tells_downloadTo (c : Camera) (files : FileTree) (s : Shot) (destination : String) :
    Tells c files (c.writeEntries files s destination) (c.downloadTo files s destination).2.1
      (c.downloadTo files s destination).2.2 := by
  unfold writeEntries
  cases hconnected : c.isConnected with
  | false =>
    rw [downloadTo_of_disconnected hconnected]
    exact .refl c files
  | true =>
    cases hhas : c.has s with
    | false =>
      rw [downloadTo_of_unknown hconnected hhas]
      exact .refl c files
    | true =>
      rw [downloadTo_of_has hconnected hhas]
      cases hwrite : files.write destination (pictureText s) with
      | error e => exact .refl c files
      | ok files' =>
        refine ⟨fun k => by cases k <;> simp [withDownloads, reading, Entry.countedBy], rfl, ?_⟩
        rw [Bool.and_self, if_pos rfl, List.foldlM_cons, Entry.perform, hwrite]
        rfl

theorem tells_delivered (c : Camera) (files : FileTree) (s : Shot) (folder : Option String) :
    Tells c files (c.deliveryEntries files s folder) (c.delivered files s folder).2.1
      (c.delivered files s folder).2.2 := by
  cases folder with
  | none => exact .refl c files
  | some folder =>
    rw [delivered_some]
    exact c.tells_downloadTo files s (Path.join folder s.name)

/-- **A capture is told by its exposure and its write**, and by nothing if it is not exposed. -/
theorem tells_fire (c : Camera) (files : FileTree) (mode : ExposureMode) (folder : Option String) :
    Tells c files (c.fireEntries files mode folder) (c.fire files mode folder).2.1 (c.fire files mode folder).2.2 := by
  rw [fire_eq]
  unfold fireEntries exposure?
  cases c.expose.1 with
  | error e => exact .refl c files
  | ok s => exact (c.tells_exposed mode s files).trans ((c.exposed mode).tells_delivered files s folder)

theorem tells_remoteCapture (c : Camera) (files : FileTree) :
    Tells c files (c.fireEntries files .bulb none) c.remoteCapture.2 files := by
  have hfire := c.tells_fire files .bulb none
  rwa [fire_bulb] at hfire

theorem tells_shoot (c : Camera) (files : FileTree) (folder : Option String) :
    Tells c files (c.fireEntries files c.mode folder) (c.shoot files folder).2.1 (c.shoot files folder).2.2 := by
  unfold shoot exposureMode
  cases hconnected : c.isConnected with
  | false =>
    rw [fireEntries, exposure?_of_disconnected hconnected]
    exact .refl c files
  | true => exact c.tells_fire files c.mode folder

/-! ## Exposures that fail -/

theorem exposure?_eq_none_iff : c.exposure? = none ↔ c.isConnected = false ∨ c.failsCaptures = true := by
  unfold exposure? expose
  cases c.isConnected <;> cases c.failsCaptures <;> simp [Except.toOption]

theorem exposure?_cases (c : Camera) : c.exposure? = none ∨ c.exposure? = some (Shot.ofNumber (c.shots + 1).toNat) := by
  rcases c.expose_cases with ⟨e, he⟩ | he
  · exact .inl (by rw [exposure?, he]; rfl)
  · exact .inr (by rw [exposure?, he]; rfl)

theorem fire_of_unexposed (h : c.exposure? = none) (files : FileTree) (mode : ExposureMode) (folder : Option String) :
    ∃ e, c.fire files mode folder = (.error e, c, files) := by
  rw [fire_eq]
  rw [exposure?] at h
  cases hexpose : c.expose.1 with
  | error e => exact ⟨e, rfl⟩
  | ok s =>
    rw [hexpose] at h
    cases h

theorem shoot_of_unexposed (h : c.exposure? = none) (files : FileTree) (folder : Option String) :
    ∃ e, c.shoot files folder = (.error e, c, files) := by
  unfold shoot
  cases c.exposureMode with
  | error e => exact ⟨e, rfl⟩
  | ok mode => exact fire_of_unexposed h files mode folder

/-- whether an operation is a capture -/
def Operation.exposes : Operation → Bool
  | .capture _ | .remoteCapture | .shoot _ => true
  | _ => false

end Camera

open Camera (Operation Entry Tells)

namespace Roll

/-! ## The journal of a roll -/

def entries (r : Roll) : Operation → List Entry
  | .handle h => r.camera.handleEntries h
  | .capture folder => r.camera.fireEntries r.files (.fixed r.camera.shutter) folder
  | .remoteCapture => r.camera.fireEntries r.files .bulb none
  | .shoot folder => r.camera.fireEntries r.files r.camera.mode folder
  | .download s destination => r.camera.writeEntries r.files s destination
  | .beside files => [.left files]

/-- what comes of the operations, one after the other -/
def journal (r : Roll) : List Operation → List Entry
  | [] => []
  | op :: ops => r.entries op ++ (r.step op).journal ops

/-- **What comes of an operation tells how the counters, the connection and the files have changed.** -/
theorem tells_step (r : Roll) (op : Operation) :
    Tells r.camera r.files (r.entries op) (r.step op).camera (r.step op).files := by
  cases op with
  | handle h => exact r.camera.tells_handle h r.files
  | capture folder => exact r.camera.tells_fire r.files (.fixed r.camera.shutter) folder
  | remoteCapture => exact r.camera.tells_remoteCapture r.files
  | shoot folder => exact r.camera.tells_shoot r.files folder
  | download s destination => exact r.camera.tells_downloadTo r.files s destination
  | beside files => exact ⟨fun k => by cases k <;> simp [step, entries, Entry.countedBy], rfl, rfl⟩

theorem tells_steps (r : Roll) (ops : List Operation) :
    Tells r.camera r.files (r.journal ops) (r.steps ops).camera (r.steps ops).files := by
  induction ops generalizing r with
  | nil => exact .refl r.camera r.files
  | cons op ops ih => exact (r.tells_step op).trans (ih (r.step op))

/-! ## Exposures in the journal -/

theorem shots_writeEntries (c : Camera) (files : FileTree) (s : Shot) (destination : String) :
    (c.writeEntries files s destination).filterMap Entry.shot? = [] := by
  unfold Camera.writeEntries
  split_ifs
  · split <;> rfl
  · rfl

/-- connections and settings are no pictures -/
theorem shots_handleEntries (c : Camera) (h : Camera.Handling) : (c.handleEntries h).filterMap Entry.shot? = [] := by
  have hdrop : c.dropEntries.filterMap Entry.shot? = [] := by
    unfold Camera.dropEntries
    split_ifs <;> rfl
  have hdial : ∀ c' : Camera, c'.dialEntries.filterMap Entry.shot? = [] := fun c' => by
    unfold Camera.dialEntries
    split
    · rfl
    · split_ifs <;> rfl
  cases h with
  | fault f =>
    cases f with
    | unplug => simp only [Camera.handleEntries]; split_ifs <;> rfl
    | _ => rfl
  | connect => exact hdial c
  | disconnect => exact hdrop
  | ensureReady =>
    simp only [Camera.handleEntries]
    split_ifs
    · rfl
    · exact hdial c
  | reconnect => rw [Camera.handleEntries, List.filterMap_append, hdrop, hdial, List.append_nil]
  | set => rfl

theorem shots_fireEntries (c : Camera) (files : FileTree) (mode : ExposureMode) (folder : Option String) :
    (c.fireEntries files mode folder).filterMap Entry.shot? = c.exposure?.toList := by
  unfold Camera.fireEntries
  cases c.exposure? with
  | none => rfl
  | some s =>
    cases folder with
    | none => rfl
    | some folder => exact congrArg (s :: ·) (shots_writeEntries _ files s _)

theorem exposed_step (r : Roll) (op : Operation) :
    (r.step op).exposed = r.exposed ++ (r.entries op).filterMap Entry.shot? := by
  cases op with
  | handle h =>
    rw [entries, shots_handleEntries, List.append_nil]
    rfl
  | capture | remoteCapture | shoot =>
    rw [entries, shots_fireEntries]
    rfl
  | download s destination =>
    rw [entries, shots_writeEntries, List.append_nil]
    rfl
  | beside files => exact (List.append_nil _).symm

/-- the journal has the pictures of the roll -/
theorem exposed_steps (r : Roll) (ops : List Operation) :
    (r.steps ops).exposed = r.exposed ++ (r.journal ops).filterMap Entry.shot? := by
  induction ops generalizing r with
  | nil => exact (List.append_nil _).symm
  | cons op ops ih =>
    calc (r.steps (op :: ops)).exposed = (r.step op).exposed ++ ((r.step op).journal ops).filterMap Entry.shot? :=
          ih (r.step op)
      _ = r.exposed ++ (r.journal (op :: ops)).filterMap Entry.shot? := by
          rw [exposed_step, List.append_assoc, journal, List.filterMap_append]

/-! ## The books balance -/

variable {r : Roll} {op : Operation}

theorem captured_of_error (h : r.camera.exposure? = none) (e : CameraError) :
    r.captured (.error e, r.camera, r.files) = r := by
  unfold captured
  rw [h]
  simp [Except.toOption]

/-- **A capture that exposes nothing changes nothing.** -/
theorem step_of_unexposed (h : r.camera.exposure? = none) (hop : op.exposes = true) : r.step op = r := by
  cases op with
  | capture folder =>
    obtain ⟨e, he⟩ := Camera.fire_of_unexposed h r.files (.fixed r.camera.shutter) folder
    exact (congrArg r.captured he).trans (captured_of_error h e)
  | remoteCapture =>
    obtain ⟨e, he⟩ := Camera.fire_of_unexposed h r.files .bulb none
    rw [step, ← Camera.fire_bulb, he]
    exact captured_of_error h e
  | shoot folder =>
    obtain ⟨e, he⟩ := Camera.shoot_of_unexposed h r.files folder
    exact (congrArg r.captured he).trans (captured_of_error h e)
  | handle | download | beside => cases hop

/-- **A capture that exposes a picture gives it the next number**, whatever becomes of the download. -/
theorem exposed_of_step (h : r.camera.exposure? ≠ none) (hop : op.exposes = true) :
    (r.step op).exposed = r.exposed ++ [Shot.ofNumber (r.camera.shots + 1).toNat] := by
  have hexposure : r.camera.exposure? = some (Shot.ofNumber (r.camera.shots + 1).toNat) :=
    r.camera.exposure?_cases.resolve_left h
  cases op with
  | capture | remoteCapture | shoot =>
    simp only [step, captured, hexposure]
    rfl
  | handle | download | beside => cases hop

/-- **Every connection of a camera is accounted for**: it was dropped or lost, or it is the one that is there. -/
theorem connections_journal (latency : Nat) (shutter : UInt32) (files : FileTree) (ops : List Operation) :
    let r := (start latency shutter files).steps ops
    let journal := (start latency shutter files).journal ops
    journal.countP (·.countedBy .connects) =
      journal.countP (·.countedBy .disconnects) + r.camera.isConnected.toNat + journal.count .lost := by
  intro r journal
  have hconnection := (tells_steps (start latency shutter files) ops).connection
  have happart : (start latency shutter files).camera.isConnected.toNat = 0 := rfl
  rw [happart, Nat.zero_add] at hconnection
  rw [hconnection, Nat.add_comm r.camera.isConnected.toNat]

/-- **The counters of a camera count what has come of its use.** Take a new camera, and let anything be done with it:
faults, connections, settings, captures of both kinds with and without a download, downloads, and work of others on the
files. As long as no counter has 2 ^ 32 pieces to count, this is so.
- Each counter is the number of the pieces that it stands for: connections made, connections dropped, pictures of either
  kind and of both, files written.
- The pictures of the two kinds are all pictures, and the connections that were dropped, with the one that is there, are
  not more than those that were made.
- The n-th picture has the number n. The next capture takes the next number if there is an exposure, also if it fails
  afterwards; if the camera is not connected or its captures fail, everything stays as it is.
- The writes in the journal, done again in their order, all succeed and give the files that are there. -/
theorem counters_follow_journal (latency : Nat) (shutter : UInt32) (files : FileTree) (ops : List Operation)
    (hfew : ∀ k, ((start latency shutter files).journal ops).countP (·.countedBy k) < 2 ^ 32) :
    let r := (start latency shutter files).steps ops
    let journal := (start latency shutter files).journal ops
    (∀ k, (r.camera.reading k).toNat = journal.countP (·.countedBy k)) ∧
      r.camera.shots.toNat = r.camera.captures.toNat + r.camera.remoteCaptures.toNat ∧
      r.camera.disconnects.toNat + r.camera.isConnected.toNat ≤ r.camera.connects.toNat ∧
      journal.filterMap Entry.shot? = (List.range' 1 r.camera.shots.toNat).map Shot.ofNumber ∧
      (∀ op, op.exposes = true →
        if r.camera.isConnected = false ∨ r.camera.failsCaptures = true then r.step op = r
        else (r.step op).camera.shots = r.camera.shots + 1 ∧
          (r.step op).exposed = r.exposed ++ [Shot.ofNumber (r.camera.shots + 1).toNat]) ∧
      journal.foldlM Entry.perform files = .ok r.files := by
  intro r journal
  have htells := tells_steps (start latency shutter files) ops
  have hkeeps : Keeps r := keeps_steps (keeps_start latency shutter files) ops
  have hreading : ∀ k, (r.camera.reading k).toNat = journal.countP (·.countedBy k) := by
    intro k
    have hcounted := htells.counted k
    have hzero : (start latency shutter files).camera.reading k = 0 := by cases k <;> rfl
    rw [hzero, UInt32.zero_add] at hcounted
    rw [hcounted]
    exact UInt32.toNat_ofNat_of_lt' (hfew k)
  have hexposed : r.exposed = journal.filterMap Entry.shot? := exposed_steps (start latency shutter files) ops
  refine ⟨hreading, ?_, ?_, ?_, ?_, htells.written⟩
  · calc r.camera.shots.toNat = journal.countP (·.countedBy .shots) := hreading .shots
      _ = journal.countP (·.countedBy .captures) + journal.countP (·.countedBy .remoteCaptures) :=
          Entry.countP_shots journal
      _ = r.camera.captures.toNat + r.camera.remoteCaptures.toNat := by rw [← hreading, ← hreading]; rfl
  · have hmade : r.camera.connects.toNat = journal.countP (·.countedBy .connects) := hreading .connects
    have hdropped : r.camera.disconnects.toNat = journal.countP (·.countedBy .disconnects) := hreading .disconnects
    have hconnections := connections_journal latency shutter files ops
    rw [hmade, hdropped, hconnections]
    exact Nat.le_add_right _ _
  · rw [← hexposed, hkeeps.exposed_eq]
    rw [hexposed, Entry.length_shots]
    exact hfew .shots
  · intro op hop
    split_ifs with hblind
    · exact step_of_unexposed (Camera.exposure?_eq_none_iff.2 hblind) hop
    · have hnext := exposed_of_step (mt Camera.exposure?_eq_none_iff.1 hblind) hop
      refine ⟨?_, hnext⟩
      rw [(keeps_step hkeeps op).exposed.shots, hnext, List.length_append, UInt32.ofNat_add, ← hkeeps.exposed.shots]
      rfl

/-- a camera that is not there at first, two connections one over the other, a download to nowhere, captures that fail,
a picture on file, a pulled cable and a picture fetched later -/
def faultyDay : List Operation :=
  [.handle (.fault (.refuseConnect true)), .handle .connect, .capture none, .handle (.fault (.refuseConnect false)),
    .handle .ensureReady, .handle .connect, .capture (some "nowhere"), .handle (.fault (.failCaptures true)),
    .remoteCapture, .handle (.fault (.failCaptures false)), .handle (.set "shutterspeed" "bulb"), .shoot (some "."),
    .handle (.fault .unplug), .handle .reconnect, .download (Shot.ofNumber 1) "first.jpg", .handle .disconnect]

theorem counters_follow_journal_of_faulty_day :
    let r := (start 0 1000 {}).steps faultyDay
    let journal := (start 0 1000 {}).journal faultyDay
    journal = [.connected, .lost, .connected, .exposed (.fixed 1000) (Shot.ofNumber 1), .exposed .bulb (Shot.ofNumber 2),
        .wrote "./IMG_0002.JPG" (Camera.pictureText (Shot.ofNumber 2)), .lost, .connected,
        .wrote "first.jpg" (Camera.pictureText (Shot.ofNumber 1)), .dropped] ∧
      (∀ k, journal.countP (·.countedBy k) < 2 ^ 32) ∧
      r.camera.connects = 3 ∧ r.camera.disconnects = 1 ∧ r.camera.isConnected = false ∧
      r.camera.captures = 1 ∧ r.camera.remoteCaptures = 1 ∧ r.camera.shots = 2 ∧ r.camera.downloads = 2 ∧
      journal.foldlM Entry.perform {} = .ok r.files ∧ r.step (.capture (some ".")) = r := by
  intro r journal
  have hjournal : journal = [.connected, .lost, .connected, .exposed (.fixed 1000) (Shot.ofNumber 1),
      .exposed .bulb (Shot.ofNumber 2), .wrote "./IMG_0002.JPG" (Camera.pictureText (Shot.ofNumber 2)), .lost, .connected,
      .wrote "first.jpg" (Camera.pictureText (Shot.ofNumber 1)), .dropped] := by decide +kernel
  have hfew : ∀ k, journal.countP (·.countedBy k) < 2 ^ 32 := by
    intro k
    rw [hjournal]
    cases k <;> decide
  have hgone : r.camera.isConnected = false := by decide +kernel
  obtain ⟨hreading, -, -, -, hexposes, hwritten⟩ := counters_follow_journal 0 1000 {} faultyDay hfew
  have hcounts : ∀ k, r.camera.reading k = .ofNat (journal.countP (·.countedBy k)) := fun k => by
    rw [← hreading k, UInt32.ofNat_toNat]
  rw [hjournal] at hcounts
  have hblind := hexposes (.capture (some ".")) rfl
  rw [if_pos (.inl hgone)] at hblind
  exact ⟨hjournal, hfew, hcounts .connects, hcounts .disconnects, hgone, hcounts .captures, hcounts .remoteCaptures,
    hcounts .shots, hcounts .downloads, hwritten, hblind⟩

end Roll

end RemoteShutter
