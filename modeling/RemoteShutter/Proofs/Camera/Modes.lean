/-
The two ways to expose.

A camera times an exposure itself, or has its shutter held open from outside. What belongs to a shot is written down twice
for that: the picture is delivered by the camera in one case and by its user in the other. Both come to the same.
- `delivered_congr`: a delivery looks at the connection and at the number of pictures, and changes the count of downloads.
- `fire_otherMode`: so a capture does the same in both modes, whether it fails before the exposure, in it or after it.
- `modes_agree`: so does a whole shot, which finds out the mode by itself. The mode only decides which capture is counted.
-/
import Mathlib.Tactic
import RemoteShutter.Proofs.Camera.Handling

namespace RemoteShutter

namespace Camera

/-- the camera in the other mode -/
def otherMode (c : Camera) : Camera :=
  { c with isBulb := !c.isBulb }

/-- the camera after `n` pictures of one kind and `downloads` downloads in all -/
def moved (c : Camera) (n : Nat) (downloads : UInt32) : ExposureMode → Camera
  | .bulb => { c with shots := c.shots + .ofNat n, remoteCaptures := c.remoteCaptures + .ofNat n, downloads := downloads }
  | .fixed _ => { c with shots := c.shots + .ofNat n, captures := c.captures + .ofNat n, downloads := downloads }

theorem moved_zero (c : Camera) (mode : ExposureMode) : c.moved 0 c.downloads mode = c := by
  cases mode <;> simp [moved]

theorem withDownloads_exposed (c : Camera) (mode : ExposureMode) (n : UInt32) :
    (c.exposed mode).withDownloads n = c.moved 1 n mode := by
  cases mode <;> rfl

theorem shots_moved (c : Camera) (n : Nat) (downloads : UInt32) (mode : ExposureMode) :
    (c.moved n downloads mode).shots = c.shots + .ofNat n := by
  cases mode <;> rfl

/-- what was exposed is the same in both modes -/
theorem expose_otherMode (c : Camera) : c.otherMode.expose.1 = c.expose.1 := by
  have hconnected : c.otherMode.isConnected = c.isConnected := rfl
  have hfails : c.otherMode.failsCaptures = c.failsCaptures := rfl
  unfold expose
  rw [hconnected, hfails]
  split_ifs <;> rfl

/-- **What a delivery depends on**: two cameras with the same connection and the same number of pictures deliver alike. -/
theorem delivered_congr {c c' : Camera} (hconnected : c'.isConnected = c.isConnected) (hshots : c'.shots = c.shots)
    (hdownloads : c'.downloads = c.downloads) (files : FileTree) (s : Shot) (folder : Option String) :
    ∃ r n files', c.delivered files s folder = (r, c.withDownloads n, files') ∧
      c'.delivered files s folder = (r, c'.withDownloads n, files') := by
  cases folder with
  | none =>
    refine ⟨.ok s, c.downloads, files, rfl, ?_⟩
    rw [← hdownloads]
    rfl
  | some folder =>
    have hhas : c'.has s = c.has s := by rw [has, has, hshots]
    have hkept : c'.withDownloads c.downloads = c' := by rw [← hdownloads]; rfl
    simp only [delivered, download]
    cases hpresent : c.isConnected with
    | false =>
      rw [hpresent] at hconnected
      rw [downloadTo_of_disconnected hpresent, downloadTo_of_disconnected hconnected]
      exact ⟨_, c.downloads, files, rfl, by rw [hkept]⟩
    | true =>
      rw [hpresent] at hconnected
      cases hknown : c.has s with
      | false =>
        rw [downloadTo_of_unknown hpresent hknown, downloadTo_of_unknown hconnected (hhas.trans hknown)]
        exact ⟨_, c.downloads, files, rfl, by rw [hkept]⟩
      | true =>
        rw [downloadTo_of_has hpresent hknown, downloadTo_of_has hconnected (hhas.trans hknown), hdownloads]
        cases files.write (Path.join folder s.name) (pictureText s) with
        | error e => exact ⟨_, c.downloads, files, rfl, by rw [hkept]⟩
        | ok files' => exact ⟨.ok s, c.downloads + 1, files', rfl, rfl⟩

/-- **A capture does the same in both modes**, and that on the camera as it is or with its mode changed. -/
theorem fire_otherMode (c : Camera) (files : FileTree) (mode mode' : ExposureMode) (folder : Option String) :
    ∃ r n files', c.fire files mode folder = (r, c.moved c.exposure?.toList.length n mode, files') ∧
      c.otherMode.fire files mode' folder = (r, c.otherMode.moved c.exposure?.toList.length n mode', files') := by
  rw [fire_eq, fire_eq, expose_otherMode, exposure?]
  cases c.expose.1 with
  | error e =>
    refine ⟨.error e, c.downloads, files, ?_, ?_⟩
    · exact congrArg (fun c' => (_, c', _)) (moved_zero c mode).symm
    · exact congrArg (fun c' => (_, c', _)) (moved_zero c.otherMode mode').symm
  | ok s =>
    have hconnected : (c.otherMode.exposed mode').isConnected = (c.exposed mode).isConnected := by
      cases mode <;> cases mode' <;> rfl
    have hshots : (c.otherMode.exposed mode').shots = (c.exposed mode).shots := by
      rw [shots_exposed, shots_exposed]
      rfl
    have hdownloads : (c.otherMode.exposed mode').downloads = (c.exposed mode).downloads := by
      cases mode <;> cases mode' <;> rfl
    obtain ⟨r, n, files', here, there⟩ := delivered_congr hconnected hshots hdownloads files s folder
    rw [withDownloads_exposed] at here there
    exact ⟨r, n, files', here, there⟩

/-- **So does a shot**, which looks the mode up. -/
theorem shoot_otherMode (c : Camera) (files : FileTree) (folder : Option String) :
    ∃ r n files', c.shoot files folder = (r, c.moved c.exposure?.toList.length n c.mode, files') ∧
      c.otherMode.shoot files folder =
        (r, c.otherMode.moved c.exposure?.toList.length n c.otherMode.mode, files') := by
  have hthere : c.otherMode.isConnected = c.isConnected := rfl
  unfold shoot exposureMode
  rw [hthere]
  cases hconnected : c.isConnected with
  | false =>
    rw [exposure?_of_disconnected hconnected]
    refine ⟨.error .notConnected, c.downloads, files, ?_, ?_⟩
    · exact congrArg (fun c' => (_, c', _)) (moved_zero c c.mode).symm
    · exact congrArg (fun c' => (_, c', _)) (moved_zero c.otherMode c.otherMode.mode).symm
  | true => exact c.fire_otherMode files c.mode c.otherMode.mode folder

end Camera

namespace Studio

/-- a shot with an exposure, in the camera's own mode; the clock moves on by the time of the exposure -/
def shoot (s : Studio) (exposure : UInt32) (folder : Option String) : Except CameraError Shot × Studio :=
  let (r, camera, files) := s.camera.shoot s.files folder
  let time := if camera.shots = s.camera.shots then 0 else s.camera.captureTime exposure
  (r, ⟨camera, files, s.clock + time⟩)

/-- the same studio with the camera in the other mode -/
def otherMode (s : Studio) : Studio :=
  { s with camera := s.camera.otherMode }

/-- **The two ways to expose agree.** Shoot with any camera, in whatever state and with whatever faults, over any files,
for any time and with a folder to download to or without; and do the same with the camera in the other mode. Both give
the same picture, or both the same error, and that also if it comes after the exposure, from the download. Both leave the
same files and take the same time. The cameras are what they have been but for the number of pictures, the count of
downloads and the count of captures of the camera's mode: here and there the pictures are one more if there was an
exposure, and the downloads are the same. -/
theorem modes_agree (s : Studio) (exposure : UInt32) (folder : Option String) :
    let here := s.shoot exposure folder
    let there := s.otherMode.shoot exposure folder
    there.1 = here.1 ∧ there.2.files = here.2.files ∧ there.2.clock = here.2.clock ∧
      ∃ downloads, here.2.camera = s.camera.moved s.camera.exposure?.toList.length downloads s.camera.mode ∧
        there.2.camera = s.camera.otherMode.moved s.camera.exposure?.toList.length downloads s.camera.otherMode.mode := by
  intro here there
  obtain ⟨r, n, files', hhere, hthere⟩ := s.camera.shoot_otherMode s.files folder
  have hshots : s.camera.otherMode.shots = s.camera.shots := rfl
  have htime : s.camera.otherMode.captureTime exposure = s.camera.captureTime exposure := rfl
  refine ⟨?_, ?_, ?_, n, ?_, ?_⟩
  · simp only [here, there, shoot, otherMode, hhere, hthere]
  · simp only [here, there, shoot, otherMode, hhere, hthere]
  · simp only [here, there, shoot, otherMode, hhere, hthere, Camera.shots_moved, hshots, htime]
  · simp only [here, shoot, hhere]
  · simp only [there, shoot, otherMode, hthere]

end Studio

end RemoteShutter
