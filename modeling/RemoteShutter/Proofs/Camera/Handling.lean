/-
What others do to a camera.

Pictures and downloads change the counters of a camera and nothing else. All that is left can only be changed by
handling the camera: by faults put on it, connections made and dropped, and settings.
- `bare`: the camera without its counts of pictures, which is all that handling changes.
- `handle_eq`: handling leaves these counts alone and never looks at them.
- `handle_exposed`, `handle_withDownloads`: so pictures, downloads and handling may come in any order.
- `fire_eq`: a capture goes the same way in either mode.
- `downloadTo_of_disconnected`, `downloadTo_of_unknown`, `downloadTo_of_has`: what comes of a download.
- `fire_cases`, `fetch_cases`: a capture moves the counters on or changes nothing, and so does a download with its own
  counter and the file of the picture.
-/
import Mathlib.Tactic
import RemoteShutter.Proofs.Camera.Counters

namespace RemoteShutter.Camera

/-- what can be done to a camera besides taking pictures and downloading them -/
inductive Handling where
  | fault (f : Fault)
  | connect
  | disconnect
  | ensureReady
  | reconnect
  | set (name value : String)
  deriving DecidableEq, Repr

def handle (c : Camera) : Handling → Camera
  | .fault f => c.suffer f
  | .connect => c.connect.2.1
  | .disconnect => c.disconnect
  | .ensureReady => c.ensureReady.2.1
  | .reconnect => c.reconnect.2.1
  | .set name value => (c.set name value).2.1

/-- the camera as it would be if it had never been used for a picture -/
def bare (c : Camera) : Camera :=
  { c with shots := 0, captures := 0, remoteCaptures := 0, downloads := 0 }

/-- the camera with one more picture, taken in a mode -/
def exposed (c : Camera) : ExposureMode → Camera
  | .bulb => { c with shots := c.shots + 1, remoteCaptures := c.remoteCaptures + 1 }
  | .fixed _ => { c with shots := c.shots + 1, captures := c.captures + 1 }

/-- the camera with another count of downloads -/
def withDownloads (c : Camera) (n : UInt32) : Camera :=
  { c with downloads := n }

/-- how the camera times its next exposure, if it answers -/
def mode (c : Camera) : ExposureMode :=
  if c.isBulb then .bulb else .fixed c.shutter

@[simp] theorem bare_exposed (c : Camera) (mode : ExposureMode) : (c.exposed mode).bare = c.bare := by
  cases mode <;> rfl

@[simp] theorem shots_exposed (c : Camera) (mode : ExposureMode) : (c.exposed mode).shots = c.shots + 1 := by
  cases mode <;> rfl

@[simp] theorem mode_exposed (c : Camera) (mode : ExposureMode) : (c.exposed mode).mode = c.mode := by
  cases mode <;> rfl

theorem mode_of_exposureMode {c : Camera} {mode : ExposureMode} (h : c.exposureMode = .ok mode) : mode = c.mode := by
  unfold exposureMode at h
  split at h
  · cases h
  · exact (Except.ok.inj h).symm

/-- **Handling has no part in the counts of pictures**: it leaves them alone, and what it does to the rest does not
depend on them. -/
theorem handle_eq (c : Camera) (h : Handling) : c.handle h =
    { c.bare.handle h with
      shots := c.shots, captures := c.captures, remoteCaptures := c.remoteCaptures, downloads := c.downloads } := by
  obtain ⟨latency, shutter, isBulb, shots, connected, unresponsive, refuses, fails, connects, disconnects, captures,
    remote, downloads⟩ := c
  cases h with
  | fault f => cases f <;> rfl
  | connect => cases refuses <;> rfl
  | disconnect => cases connected <;> rfl
  | ensureReady => cases connected <;> cases refuses <;> cases unresponsive <;> rfl
  | reconnect => cases connected <;> cases refuses <;> rfl
  | set name value =>
    by_cases hempty : value.isEmpty = true
    · simp only [handle, set, bare, hempty, if_true]
    · by_cases hname : name = "shutterspeed"
      · simp only [handle, set, bare, hempty, hname, if_true, if_false, Bool.false_eq_true]
      · simp only [handle, set, bare, hempty, hname, if_false, Bool.false_eq_true]

theorem handle_exposed (c : Camera) (mode : ExposureMode) (h : Handling) :
    (c.exposed mode).handle h = (c.handle h).exposed mode := by
  rw [handle_eq (c.exposed mode), handle_eq c, bare_exposed]
  cases mode <;> rfl

theorem handle_withDownloads (c : Camera) (n : UInt32) (h : Handling) :
    (c.withDownloads n).handle h = (c.handle h).withDownloads n := by
  rw [handle_eq, handle_eq c]
  rfl

theorem exposed_withDownloads (c : Camera) (n : UInt32) (mode : ExposureMode) :
    (c.withDownloads n).exposed mode = (c.exposed mode).withDownloads n := by
  cases mode <;> rfl

theorem takes_handle (c : Camera) (h : Handling) : c.Takes (c.handle h) none := by
  apply takes_none
  · rw [handle_eq]
  · rw [handle_eq]
  · rw [handle_eq]

theorem shots_handle (c : Camera) (h : Handling) : (c.handle h).shots = c.shots := by
  rw [handle_eq]

/-- a capture in either mode: the exposure, its count, and the delivery of the picture -/
theorem fire_eq (c : Camera) (files : FileTree) (mode : ExposureMode) (folder : Option String) :
    c.fire files mode folder =
      match c.expose.1 with
      | .error e => (.error e, c, files)
      | .ok s => (c.exposed mode).delivered files s folder := by
  rcases c.expose_cases with ⟨e, he⟩ | he
  · cases mode <;> simp only [fire, remoteCapture, capture, he]
  · cases mode <;> simp only [fire, remoteCapture, capture, he] <;> rfl

/-- the remote trigger, as a capture without a folder -/
theorem fire_bulb (c : Camera) (files : FileTree) :
    c.fire files .bulb none = (c.remoteCapture.1, c.remoteCapture.2, files) := by
  unfold fire
  rcases c.remoteCapture with ⟨_ | _, c'⟩ <;> rfl

/-- a capture takes the next picture or changes nothing -/
theorem fire_cases (c : Camera) (files : FileTree) (mode : ExposureMode) :
    (∃ e, c.fire files mode none = (.error e, c, files)) ∨
      c.fire files mode none = (.ok (Shot.ofNumber (c.shots + 1).toNat), c.exposed mode, files) := by
  rw [fire_eq]
  rcases c.expose_cases with ⟨e, he⟩ | he
  · rw [he]
    exact .inl ⟨e, rfl⟩
  · rw [he]
    exact .inr rfl

/-! ## Downloads -/

section Downloads

variable {c : Camera} {s : Shot}

theorem downloadTo_of_disconnected (h : c.isConnected = false) (files : FileTree) (s : Shot) (destination : String) :
    c.downloadTo files s destination = (.error .notConnected, c, files) := by
  rw [downloadTo, h]
  rfl

theorem downloadTo_of_unknown (hconnected : c.isConnected = true) (hhas : c.has s = false) (files : FileTree)
    (destination : String) :
    c.downloadTo files s destination = (.error (.download s.text destination .unknownPicture), c, files) := by
  rw [downloadTo, hconnected, hhas]
  rfl

/-- a picture that the camera has is downloaded if its file can be written -/
theorem downloadTo_of_has (hconnected : c.isConnected = true) (hhas : c.has s = true) (files : FileTree)
    (destination : String) : c.downloadTo files s destination =
      match files.write destination (pictureText s) with
      | .error e => (.error (.download s.text destination (.file e)), c, files)
      | .ok files => (.ok (), c.withDownloads (c.downloads + 1), files) := by
  have hthere : ¬ (!c.isConnected) = true := by rw [hconnected]; decide
  have hknown : ¬ (!c.has s) = true := by rw [hhas]; decide
  rw [downloadTo, if_neg hthere, if_neg hknown]
  cases files.write destination (pictureText s) <;> rfl

/-- a download needs a connection, a picture that the camera has, and a file that can be written -/
theorem download_cases (c : Camera) (files : FileTree) (s : Shot) (folder : String) :
    (∃ e, c.download files s folder = (.error e, c, files)) ∨
      ∃ files', c.isConnected = true ∧ c.has s = true ∧
        files.write (Path.join folder s.name) (pictureText s) = .ok files' ∧
        c.download files s folder = (.ok (), c.withDownloads (c.downloads + 1), files') := by
  unfold download
  cases hconnected : c.isConnected with
  | false => exact .inl ⟨_, downloadTo_of_disconnected hconnected files s _⟩
  | true =>
    cases hhas : c.has s with
    | false => exact .inl ⟨_, downloadTo_of_unknown hconnected hhas files _⟩
    | true =>
      rw [downloadTo_of_has hconnected hhas]
      cases hwrite : files.write (Path.join folder s.name) (pictureText s) with
      | error e => exact .inl ⟨_, rfl⟩
      | ok files' => exact .inr ⟨files', rfl, rfl, rfl, rfl⟩

end Downloads

end RemoteShutter.Camera

namespace RemoteShutter.Studio

theorem fire_cases (s : Studio) (exposure : UInt32) (mode : ExposureMode) :
    (∃ e, s.fire exposure mode none = (.error e, s)) ∨
      s.fire exposure mode none = (.ok (Shot.ofNumber (s.camera.shots + 1).toNat),
        { s with camera := s.camera.exposed mode, clock := s.clock + s.camera.captureTime exposure }) := by
  unfold fire
  rcases s.camera.fire_cases s.files mode with ⟨e, he⟩ | he
  · refine .inl ⟨e, ?_⟩
    simp only [he, if_true, Nat.add_zero]
  · refine .inr ?_
    have hmore : (s.camera.exposed mode).shots ≠ s.camera.shots := by
      rw [Camera.shots_exposed]
      simp
    simp only [he, if_neg hmore]

/-- **A download that fails changes nothing**; one that succeeds writes the picture and is counted. -/
theorem fetch_cases (s : Studio) (shot : Option Shot) (folder : String) :
    (∃ e, s.fetch shot folder = (.error e, s)) ∨
      ∃ picture files, shot = some picture ∧ s.camera.isConnected = true ∧ s.camera.has picture = true ∧
        s.files.write (Path.join folder picture.name) (Camera.pictureText picture) = .ok files ∧
        s.fetch shot folder = (.ok (),
          { s with camera := s.camera.withDownloads (s.camera.downloads + 1), files := files }) := by
  cases shot with
  | none => exact .inl ⟨_, rfl⟩
  | some picture =>
    rcases s.camera.download_cases s.files picture folder with ⟨e, he⟩ | ⟨files, hconnected, hhas, hwrite, hok⟩
    · refine .inl ⟨.camera e, ?_⟩
      simp only [fetch, he]
    · refine .inr ⟨picture, files, rfl, hconnected, hhas, hwrite, ?_⟩
      simp only [fetch, hok]

/-- nothing else is needed for a download -/
theorem fetch_ok {s : Studio} {folder : String} {shot : Shot} {files : FileTree} (hconnected : s.camera.isConnected = true)
    (hhas : s.camera.has shot = true)
    (hwrite : s.files.write (Path.join folder shot.name) (Camera.pictureText shot) = .ok files) :
    s.fetch (some shot) folder = (.ok (),
      { s with camera := s.camera.withDownloads (s.camera.downloads + 1), files := files }) := by
  simp only [fetch, Camera.download, Camera.downloadTo_of_has hconnected hhas, hwrite]

/-- a download has no part in a camera but its own count -/
theorem fetch_camera (s : Studio) (shot : Option Shot) (folder : String) :
    ∃ n, (s.fetch shot folder).2.camera = s.camera.withDownloads n := by
  rcases s.fetch_cases shot folder with ⟨e, he⟩ | ⟨picture, files, -, -, -, -, hok⟩
  · rw [he]
    exact ⟨_, rfl⟩
  · rw [hok]
    exact ⟨_, rfl⟩

end RemoteShutter.Studio
