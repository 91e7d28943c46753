/-
Everything that a camera has been used for.

A roll is a new camera and all that has been done with it since: faults, connections, settings, captures of either kind
and downloads, while others work on the files. It keeps two lists beside the camera: the pictures that were exposed, and
those that a capture has returned. These are fewer, since the download that belongs to a capture may fail after the
exposure.
- `keeps_step`, `keeps_steps`: the pictures are numbered and counted in their order, and those returned are some of them.
- `Keeps.mem_exposed`, `Keeps.exposed_eq`: up to the count of the camera every number has its picture, and while the
  numbers suffice there are no other pictures.
- `pictures_unique_and_kept`: so all names are different, and the camera knows each of them for good.
- `downloads_only_spellings`: only pictures can be downloaded, but under any spelling of their numbers.
  `downloads_other_spelling`: which is more than the names that were given.
-/
import Mathlib.Tactic
import RemoteShutter.Proofs.Camera.Handling
import RemoteShutter.Proofs.Camera.Names

namespace RemoteShutter

/-! ## Captures -/

namespace Camera

variable {c c' : Camera} {s : Shot}

/-- a delivery returns the picture or an error -/
theorem delivered_returns {files : FileTree} {s' : Shot} {folder : Option String}
    (h : (c.delivered files s folder).1 = .ok s') : s' = s := by
  cases folder with
  | none => exact (Except.ok.inj h).symm
  | some folder =>
    simp only [delivered] at h
    split at h
    · exact (Except.ok.inj h).symm
    · cases h

/-- **A capture returns no picture but the one that it exposes.** -/
theorem fire_returns {files : FileTree} {mode : ExposureMode} {folder : Option String}
    (h : (c.fire files mode folder).1 = .ok s) : c.exposure? = some s := by
  rw [fire_eq] at h
  rw [exposure?]
  cases hexpose : c.expose.1 with
  | error e =>
    rw [hexpose] at h
    cases h
  | ok s' =>
    rw [hexpose] at h
    exact congrArg some (delivered_returns h).symm

/-- the outcome `r` of a capture on a camera `c` that leaves it as `c'` -/
structure Captures (c c' : Camera) (r : Except CameraError Shot) : Prop where
  takes : Takes c c' c.exposure?
  returns : ∀ s, r = .ok s → c.exposure? = some s

theorem captures_fire (c : Camera) (files : FileTree) (mode : ExposureMode) (folder : Option String) :
    Captures c (c.fire files mode folder).2.1 (c.fire files mode folder).1 :=
  ⟨(c.takes_fire files mode folder).1, fun _ h => fire_returns h⟩

theorem captures_capture (c : Camera) (files : FileTree) (folder : Option String) :
    Captures c (c.capture files folder).2.1 (c.capture files folder).1 :=
  c.captures_fire files (.fixed c.shutter) folder

theorem captures_remoteCapture (c : Camera) : Captures c c.remoteCapture.2 c.remoteCapture.1 := by
  have hfire := c.captures_fire {} .bulb none
  rwa [fire_bulb] at hfire

theorem captures_shoot (c : Camera) (files : FileTree) (folder : Option String) :
    Captures c (c.shoot files folder).2.1 (c.shoot files folder).1 := by
  unfold shoot exposureMode
  cases hconnected : c.isConnected with
  | false =>
    refine ⟨?_, nofun⟩
    rw [exposure?_of_disconnected hconnected]
    exact .refl c
  | true => exact c.captures_fire files _ folder

/-! ## What can be done with a camera -/

/-- all that may change a camera or the files it works on; asking it for something changes neither -/
inductive Operation where
  | handle (h : Handling)
  | capture (folder : Option String)
  | remoteCapture
  | shoot (folder : Option String)
  | download (s : Shot) (destination : String)
  /-- others leave other files behind -/
  | beside (files : FileTree)
  deriving DecidableEq, Repr

end Camera

open Camera (Operation)

/-- a camera with the files that it works on, and the pictures that it has exposed and returned so far -/
structure Roll where
  camera : Camera
  files : FileTree
  exposed : List Shot := []
  returned : List Shot := []

namespace Roll

/-- a new camera -/
def start (latency : Nat) (shutter : UInt32) (files : FileTree) : Roll :=
  ⟨{ latency := latency, shutter := shutter }, files, [], []⟩

/-- takes note of a capture: what it exposes, and what it returns -/
def captured (r : Roll) (outcome : Except CameraError Shot × Camera × FileTree) : Roll where
  camera := outcome.2.1
  files := outcome.2.2
  exposed := r.exposed ++ r.camera.exposure?.toList
  returned := r.returned ++ outcome.1.toOption.toList

def step (r : Roll) : Operation → Roll
  | .handle h => { r with camera := r.camera.handle h }
  | .capture folder => r.captured (r.camera.capture r.files folder)
  | .remoteCapture => r.captured (r.camera.remoteCapture.1, r.camera.remoteCapture.2, r.files)
  | .shoot folder => r.captured (r.camera.shoot r.files folder)
  | .download s destination =>
    let (_, camera, files) := r.camera.downloadTo r.files s destination
    { r with camera := camera, files := files }
  | .beside files => { r with files := files }

def steps (r : Roll) (ops : List Operation) : Roll :=
  ops.foldl step r

theorem steps_append (r : Roll) (before after : List Operation) :
    r.steps (before ++ after) = (r.steps before).steps after :=
  List.foldl_append

/-! ## What a roll keeps -/

/-- the camera has exposed the pictures of a roll, and some of them have been returned -/
structure Keeps (r : Roll) : Prop where
  exposed : r.camera.HasExposed r.exposed
  returned : r.returned.Sublist r.exposed

variable {r : Roll} {s : Shot}

theorem Keeps.exists_number (h : Keeps r) (hs : s ∈ r.exposed) : ∃ n, s = Shot.ofNumber n := by
  obtain ⟨i, hi⟩ := List.getElem?_of_mem hs
  exact ⟨_, h.exposed.named i s hi⟩

/-- each number up to the count of the camera has its picture -/
theorem Keeps.mem_exposed (h : Keeps r) {n : Nat} (hpos : 1 ≤ n) (hle : n ≤ r.camera.shots.toNat) :
    Shot.ofNumber n ∈ r.exposed := by
  have hfits : n < 2 ^ 32 := Nat.lt_of_le_of_lt hle r.camera.shots.toNat_lt
  have hlt : n - 1 < r.exposed.length := by
    have hcount : r.camera.shots.toNat ≤ r.exposed.length := by
      rw [h.exposed.shots, UInt32.toNat_ofNat']
      exact Nat.mod_le _ _
    omega
  have hshot := h.exposed.eq_ofNumber (i := n - 1) (by omega) (List.getElem?_eq_getElem hlt)
  rw [Nat.sub_add_cancel hpos] at hshot
  exact hshot ▸ List.getElem_mem hlt

/-- while the numbers suffice they are just those up to the count of the camera -/
theorem Keeps.exposed_eq (h : Keeps r) (hfew : r.exposed.length < 2 ^ 32) :
    r.exposed = (List.range' 1 r.camera.shots.toNat).map Shot.ofNumber := by
  rw [h.exposed.toNat_shots hfew]
  apply List.ext_getElem
  · rw [List.length_map, List.length_range']
  · intro i hi hi'
    rw [List.getElem_map, List.getElem_range', h.exposed.eq_ofNumber (by omega) (List.getElem?_eq_getElem hi),
      Nat.one_mul, Nat.add_comm]

theorem Keeps.nodup (h : Keeps r) (hfew : r.exposed.length < 2 ^ 32) : r.exposed.Nodup := by
  rw [h.exposed_eq hfew]
  exact List.Nodup.map Shot.ofNumber_injective List.nodup_range'

theorem keeps_start (latency : Nat) (shutter : UInt32) (files : FileTree) : Keeps (start latency shutter files) :=
  ⟨⟨rfl, ⟨0, 0, rfl, rfl, rfl⟩, fun _ _ h => by cases h⟩, .refl _⟩

/-- what exposes nothing keeps the pictures as they are -/
theorem Keeps.of_takes (h : Keeps r) {camera : Camera} (htakes : r.camera.Takes camera none) (files : FileTree) :
    Keeps { r with camera := camera, files := files } :=
  ⟨h.exposed.of_takes htakes, h.returned⟩

/-- a capture adds the next picture to those that were exposed, and to those that were returned if it succeeds -/
theorem Keeps.captured (h : Keeps r) {outcome : Except CameraError Shot × Camera × FileTree}
    (hc : r.camera.Captures outcome.2.1 outcome.1) : Keeps (r.captured outcome) := by
  refine ⟨h.exposed.append hc.takes, h.returned.append ?_⟩
  cases hout : outcome.1 with
  | error e => exact List.nil_sublist _
  | ok s =>
    rw [hc.returns s hout]
    exact .refl _

theorem keeps_step (h : Keeps r) (op : Operation) : Keeps (r.step op) := by
  cases op with
  | handle handling => exact h.of_takes (r.camera.takes_handle handling) r.files
  | capture folder => exact h.captured (r.camera.captures_capture r.files folder)
  | remoteCapture => exact h.captured r.camera.captures_remoteCapture
  | shoot folder => exact h.captured (r.camera.captures_shoot r.files folder)
  | download s destination => exact h.of_takes (r.camera.takes_downloadTo r.files s destination) _
  | beside files => exact h.of_takes (.refl _) files

/-- **The pictures of a camera are numbered in their order**, whatever is done with it. -/
theorem keeps_steps (h : Keeps r) (ops : List Operation) : Keeps (r.steps ops) := by
  induction ops generalizing r with
  | nil => exact h
  | cons op ops ih => exact ih (keeps_step h op)

theorem exposed_prefix_step (r : Roll) (op : Operation) : r.exposed <+: (r.step op).exposed := by
  cases op with
  | capture | remoteCapture | shoot => exact List.prefix_append _ _
  | handle | download | beside => exact List.prefix_refl _

theorem exposed_prefix_steps (r : Roll) (ops : List Operation) : r.exposed <+: (r.steps ops).exposed := by
  induction ops generalizing r with
  | nil => exact List.prefix_refl _
  | cons op ops ih => exact (exposed_prefix_step r op).trans (ih (r.step op))

/-- a picture that was returned has been exposed, and is not forgotten -/
theorem mem_exposed_of_returned (h : Keeps r) (ops : List Operation) (hs : s ∈ r.returned) : s ∈ (r.steps ops).exposed :=
  (exposed_prefix_steps r ops).subset (h.returned.subset hs)

/-- while the numbers suffice, the camera has all pictures that it has exposed -/
theorem Keeps.has_of_exposed (h : Keeps r) (hfew : r.exposed.length < 2 ^ 32) (hs : s ∈ r.exposed) :
    ∃ n, s = Shot.ofNumber n ∧ 1 ≤ n ∧ n ≤ r.camera.shots.toNat ∧ r.camera.has s = true := by
  rw [h.exposed_eq hfew, List.mem_map] at hs
  obtain ⟨n, hn, rfl⟩ := hs
  rw [List.mem_range'_1] at hn
  have hle : n ≤ r.camera.shots.toNat := by omega
  exact ⟨n, rfl, hn.1, hle, Camera.has_ofNumber hn.1 hle⟩

/-- **Names of pictures are unique and stay valid.** Take a new camera, and let anything be done with it: faults,
connections, settings, captures of both kinds with and without a download, downloads, and work of others on the files.
As long as there are fewer than 2 ^ 32 exposures, no two captures that succeed return the same shot. Each shot returned
has a number that 32 bits can hold and that the camera has counted; and from then on, whatever else is done, the camera
has it. While the camera is connected, what comes of its download is what comes of writing the file. -/
theorem pictures_unique_and_kept (latency : Nat) (shutter : UInt32) (files : FileTree) (before after : List Operation)
    (hfew : ((start latency shutter files).steps (before ++ after)).exposed.length < 2 ^ 32) :
    let early := (start latency shutter files).steps before
    let late := (start latency shutter files).steps (before ++ after)
    late.returned.Nodup ∧
      ∀ s ∈ early.returned,
        (∃ w : UInt32, s.number32? = some w ∧ 1 ≤ w.toNat ∧ w.toNat ≤ late.camera.shots.toNat) ∧
        late.camera.has s = true ∧
        (late.camera.isConnected = true → ∀ files destination, late.camera.downloadTo files s destination =
          match files.write destination (Camera.pictureText s) with
          | .error e => (.error (.download s.text destination (.file e)), late.camera, files)
          | .ok files => (.ok (), late.camera.withDownloads (late.camera.downloads + 1), files)) := by
  intro early late
  have hearly : Keeps early := keeps_steps (keeps_start latency shutter files) before
  have hlate : Keeps late := keeps_steps (keeps_start latency shutter files) (before ++ after)
  refine ⟨(hlate.nodup hfew).sublist hlate.returned, ?_⟩
  intro s hs
  have hmem : s ∈ late.exposed := by
    have hkept := mem_exposed_of_returned hearly after hs
    rwa [← steps_append] at hkept
  obtain ⟨n, rfl, hpos, hle, hhas⟩ := hlate.has_of_exposed hfew hmem
  refine ⟨?_, hhas, ?_⟩
  · have hword : (UInt32.ofNat n).toNat = n :=
      UInt32.toNat_ofNat_of_lt' (Nat.lt_of_le_of_lt hle late.camera.shots.toNat_lt)
    refine ⟨UInt32.ofNat n, ?_, ?_, ?_⟩
    · rw [Shot.number32?_eq_some_iff, hword, Shot.number?_ofNumber]
    · rw [hword]
      exact hpos
    · rw [hword]
      exact hle
  · intro hconnected files destination
    exact Camera.downloadTo_of_has hconnected hhas files destination

/-- three exposures: one returned, one lost to a download that cannot be made, one more by the remote trigger -/
def threeExposures : List Operation :=
  [.handle .connect, .capture none, .capture (some "nowhere"), .handle (.set "shutterspeed" "bulb"), .shoot none]

theorem pictures_unique_and_kept_after_reconnect :
    let after : List Operation := [.handle (.fault .unplug), .handle .ensureReady, .handle (.set "shutterspeed" "1/60")]
    let early := (start 0 1000 {}).steps threeExposures
    let late := (start 0 1000 {}).steps (threeExposures ++ after)
    early.returned = [Shot.ofNumber 1, Shot.ofNumber 3] ∧ late.exposed.length < 2 ^ 32 ∧ late.returned.Nodup ∧
      late.camera.isConnected = true ∧
      (late.camera.downloadTo {} (Shot.ofNumber 3) "x").2.2.read "x" =
        .ok (Camera.pictureText (Shot.ofNumber 3)) := by
  intro after early late
  have hreturned : early.returned = [Shot.ofNumber 1, Shot.ofNumber 3] := by decide +kernel
  have hfew : late.exposed.length < 2 ^ 32 := by decide +kernel
  have hconnected : late.camera.isConnected = true := by decide +kernel
  obtain ⟨hnodup, hkept⟩ := pictures_unique_and_kept 0 1000 {} threeExposures after hfew
  obtain ⟨-, -, hdownload⟩ := hkept (Shot.ofNumber 3) (hreturned ▸ List.mem_cons_of_mem _ List.mem_cons_self)
  refine ⟨hreturned, hfew, hnodup, hconnected, ?_⟩
  rw [hdownload hconnected {} "x"]
  decide +kernel

/-! ## What can be downloaded -/

/-- **Only pictures can be downloaded, but under any spelling.** Take a new camera with which anything has been done. A
download that succeeds is of a picture that the camera has exposed, as far as its number goes: the name spells the number
of such a picture, and it is the name that the picture was given if there is no plus sign and there are just as many zeros
as make four digits. Any other shot is refused by a connected camera as no picture of it, and nothing is changed. -/
theorem downloads_only_spellings (latency : Nat) (shutter : UInt32) (files : FileTree) (ops : List Operation)
    (there : FileTree) (s : Shot) (destination : String) :
    let r := (start latency shutter files).steps ops
    let outcome := r.camera.downloadTo there s destination
    (outcome.1 = .ok () → ∃ hasPlus zeros n, s = Shot.spelled hasPlus zeros n ∧ Shot.ofNumber n ∈ r.exposed ∧
        (s ∈ r.exposed ↔ hasPlus = false ∧ zeros = 4 - (Numeral.digits n).length)) ∧
      (r.camera.isConnected = true →
        (∀ hasPlus zeros n, s = Shot.spelled hasPlus zeros n → Shot.ofNumber n ∉ r.exposed) →
        outcome = (.error (.download s.text destination .unknownPicture), r.camera, there)) := by
  intro r outcome
  have hr : Keeps r := keeps_steps (keeps_start latency shutter files) ops
  constructor
  · intro hok
    have hhas : r.camera.has s = true := by
      by_contra hunknown
      rw [Bool.not_eq_true] at hunknown
      cases hconnected : r.camera.isConnected with
      | false =>
        simp only [outcome, Camera.downloadTo_of_disconnected hconnected] at hok
        cases hok
      | true =>
        simp only [outcome, Camera.downloadTo_of_unknown hconnected hunknown] at hok
        cases hok
    obtain ⟨hasPlus, zeros, n, rfl, hpos, hle⟩ := Camera.has_iff.1 hhas
    refine ⟨hasPlus, zeros, n, rfl, hr.mem_exposed hpos hle, ?_⟩
    constructor
    · intro hmem
      obtain ⟨m, hm⟩ := hr.exists_number hmem
      exact (Shot.spelled_eq_ofNumber_iff.1 hm).2
    · intro hcanonical
      rw [Shot.spelled_eq_ofNumber_iff.2 ⟨rfl, hcanonical⟩]
      exact hr.mem_exposed hpos hle
  · intro hconnected hother
    have hunknown : r.camera.has s = false := by
      rw [← Bool.not_eq_true]
      intro hhas
      obtain ⟨hasPlus, zeros, n, hs, hpos, hle⟩ := Camera.has_iff.1 hhas
      exact hother hasPlus zeros n hs (hr.mem_exposed hpos hle)
    exact Camera.downloadTo_of_unknown hconnected hunknown there destination

/-- a plus sign in the name of the only picture: a shot that was never given out, and that is downloaded all the same -/
theorem downloads_other_spelling :
    let r := (start 0 1000 {}).steps [.handle .connect, .capture none]
    let s : Shot := ⟨"/store_00010001/DCIM/100CAMCT", "IMG_+001.JPG"⟩
    r.exposed = [Shot.ofNumber 1] ∧ s ∉ r.exposed ∧ (r.camera.downloadTo r.files s "x.jpg").1 = .ok () ∧
      (r.camera.downloadTo r.files s "x.jpg").2.2.read "x.jpg" = .ok (Camera.pictureText s) := by
  decide +kernel

end Roll

end RemoteShutter
