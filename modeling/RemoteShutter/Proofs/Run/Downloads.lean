/-
The downloads of a run.

Between a picture and its download the run holds on to nothing: it asks for the last shot of its function, and the camera
knows a picture by its name. What holds the two together is that the last shot is the picture taken last, and that the
numbers of pictures go up.
- `Undisturbed`: downloads are on, the camera is there and the files can be written, and others leave the pictures alone.
- `Delivers`: all pictures are downloaded but the one in hand, each under its own name.
- `delivers_step`, `delivers_steps`: an undisturbed run keeps that.
- `entry_step`, `entry_steps`: all other files stay as they are.
-/
import Mathlib.Tactic
import RemoteShutter.Proofs.Camera.Names
import RemoteShutter.Proofs.Run.Logbook

namespace RemoteShutter

variable {plan : Plan} {folder : String} {life life' : Lifecycle} {studio studio' : Studio} {p q : RunPoint}

/-! ## Moves -/

namespace RunPoint

/-- the pictures that the run has taken and not downloaded yet -/
def undelivered : RunPoint → Nat
  | note _ _ _ | deliver _ _ | fetch _ _ => 1
  | _ => 0

theorem undelivered_le_one (p : RunPoint) : p.undelivered ≤ 1 := by
  cases p <;> simp [undelivered]

/-- only a download touches the files -/
theorem Moves.files {a : Option Attempt} (hm : Moves plan folder life studio p q a life' studio') :
    studio'.files = studio.files ∨
      ∃ n start, p = .fetch n start ∧ studio' = (studio.fetch life.lastShot folder).2 := by
  cases hm with
  | quiet move =>
    cases move with
    | fetches => exact .inr ⟨_, _, rfl, rfl⟩
    | _ => exact .inl rfl
  | _ => exact .inl rfl

/-- with downloads on, a move that is no download itself leaves one to be made for each picture it takes -/
theorem moves_undelivered {a : Option Attempt} (hm : Moves plan folder life studio p q a life' studio')
    (hon : life.downloads = true) :
    life'.downloads = true ∧ ((∃ n start, p = .fetch n start) ∨ p.fetch? folder life studio = none ∧
      studio'.files = studio.files ∧ q.undelivered = p.undelivered + (pictures a.toList).length) := by
  cases hm with
  | quiet move =>
    cases move with
    | skips off =>
      rw [hon] at off
      cases off
    | fetches => exact ⟨hon, .inl ⟨_, _, rfl⟩⟩
    | _ => exact ⟨hon, .inr ⟨rfl, rfl, rfl⟩⟩
  | _ => exact ⟨hon, .inr ⟨rfl, rfl, rfl⟩⟩

end RunPoint

namespace Logbook

variable {l : Logbook} {camera : Camera} {es : List Event} {e : Event}

/-! ## Conditions -/

/-- something holds at each event of a run -/
def Along (P : Logbook → Event → Prop) : Logbook → List Event → Prop
  | _, [] => True
  | l, e :: es => P l e ∧ Along P (l.step e) es

instance (P : Logbook → Event → Prop) [∀ l e, Decidable (P l e)] :
    (l : Logbook) → (es : List Event) → Decidable (Along P l es)
  | _, [] => inferInstanceAs (Decidable True)
  | l, e :: es =>
    have := instDecidableAlong P (l.step e) es
    inferInstanceAs (Decidable (P l e ∧ Along P (l.step e) es))

theorem along_concat (P : Logbook → Event → Prop) (l : Logbook) (es : List Event) (e : Event) :
    Along P l (es ++ [e]) ↔ Along P l es ∧ P (l.steps es) e := by
  induction es generalizing l with
  | nil => exact ⟨fun h => ⟨trivial, h.1⟩, fun h => ⟨h.2, trivial⟩⟩
  | cons d es ih =>
    rw [List.cons_append, Along, ih, Along, and_assoc]
    rfl

/-- if the next step of the run makes a download, the camera is there and the file can be written -/
def canDownload (l : Logbook) : Bool :=
  match l.history.function.run with
  | some (.fetch _ _) =>
    l.history.studio.camera.isConnected &&
      l.history.function.life.lastShot.all fun s =>
        (l.history.studio.files.write (Path.join l.history.function.folder s.name) (Camera.pictureText s)).isOk
  | _ => true

/-- downloads stay on and can be made, and others do not touch the pictures of the run -/
def Undisturbed (l : Logbook) : Event → Prop
  | .step => l.canDownload = true
  | .setDownloads b => b = true
  | .beside files _ _ => ∀ s ∈ l.history.shots, files.read (Path.join l.history.function.folder s.name) =
      l.history.studio.files.read (Path.join l.history.function.folder s.name)
  | _ => True

instance (l : Logbook) : (e : Event) → Decidable (Undisturbed l e)
  | .step => inferInstanceAs (Decidable (l.canDownload = true))
  | .setDownloads b => inferInstanceAs (Decidable (b = true))
  | .beside files _ _ => inferInstanceAs (Decidable (∀ s ∈ l.history.shots,
      files.read (Path.join l.history.function.folder s.name) =
        l.history.studio.files.read (Path.join l.history.function.folder s.name)))
  | .abort | .handle _ => inferInstanceAs (Decidable True)

/-- others leave a place as it is -/
def Spares (q : Place) (l : Logbook) : Event → Prop
  | .beside files _ _ => files.entry? q = l.history.studio.files.entry? q
  | _ => True

/-! ## Pictures on file -/

/-- the pictures that are taken but not downloaded -/
def undelivered (l : Logbook) : Nat :=
  (l.history.function.run.map RunPoint.undelivered).getD 0

/-- the pictures `delivered` have been downloaded and are on file, and at most the one in hand is left -/
structure Delivers (folder : String) (l : Logbook) (delivered : List Shot) : Prop where
  on : l.history.function.life.downloads = true
  fetched : l.fetches = delivered.map fun s => (some s, .ok ())
  stored : ∀ s ∈ delivered, l.history.studio.files.read (Path.join folder s.name) = .ok (Camera.pictureText s)
  rest : ∃ pending, l.history.shots = delivered ++ pending ∧ pending.length = l.undelivered

theorem delivers_start (plan : Plan) (folder : String) (studio : Studio) :
    Delivers folder (start plan folder true studio) [] :=
  ⟨rfl, rfl, nofun, [], rfl, rfl⟩

/-- the camera has numbers for all pictures of the run -/
def Few (camera : Camera) (l : Logbook) : Prop :=
  camera.shots.toNat + l.history.shots.length < 2 ^ 32

theorem Few.before (h : Few camera (l.step e)) : Few camera l :=
  Nat.lt_of_le_of_lt (Nat.add_le_add_left (shots_step l e).length_le _) h

/-- a picture of a run has a number -/
theorem exists_number_of_mem (h : Keeps plan folder camera l p) {s : Shot} (hs : s ∈ l.history.shots) :
    ∃ n, s = Shot.ofNumber n := by
  rw [shots_eq h, h.shows.named, List.mem_map] at hs
  obtain ⟨n, -, rfl⟩ := hs
  exact ⟨_, rfl⟩

/-- the pictures of a run have the next numbers -/
theorem shots_eq_range' (h : Keeps plan folder camera l p) (hfew : Few camera l) :
    l.history.shots = (List.range' (camera.shots.toNat + 1) l.history.shots.length).map Shot.ofNumber := by
  have hlength : l.history.shots.length = (pictures l.attempts).length := by rw [shots_eq h, List.length_map]
  rw [Few, hlength] at hfew
  rw [hlength, shots_eq h, h.shows.named, List.range'_eq_map_range, List.map_map]
  refine List.map_congr_left fun n hn => ?_
  exact camera.shotAfter_eq (by have := List.mem_range.1 hn; omega)

theorem number_of_mem (h : Keeps plan folder camera l p) (hfew : Few camera l) {s : Shot} (hs : s ∈ l.history.shots) :
    ∃ n, s = Shot.ofNumber n ∧ camera.shots.toNat < n ∧ n ≤ l.history.studio.camera.shots.toNat := by
  have hcount : l.history.studio.camera.shots.toNat = camera.shots.toNat + l.history.shots.length := by
    rw [h.shows.shots, ← List.length_map Picture.shot, ← shots_eq h, UInt32.toNat_add,
      UInt32.toNat_ofNat_of_lt' (Nat.lt_of_le_of_lt (Nat.le_add_left _ _) hfew), Nat.mod_eq_of_lt hfew]
  rw [shots_eq_range' h hfew, List.mem_map] at hs
  obtain ⟨n, hn, rfl⟩ := hs
  rw [List.mem_range'_1] at hn
  exact ⟨n, rfl, by omega, by omega⟩

theorem shots_step_of_run (hr : l.history.function.run = some p) :
    (l.step .step).history.shots = l.history.shots ++
      (pictures (p.attempt? l.history.function.plan l.history.studio).toList).map Picture.shot := by
  rw [step_of_run hr, RunPoint.outcome?_eq]
  simp only [RunHistory.shots, List.filterMap_append]
  rcases p.attempt? l.history.function.plan l.history.studio with _ | (e | picture) <;> rfl

/-- what a download needs is there: the last shot is the last picture, the camera has it, and its file can be written -/
theorem fetch_of_canDownload {n : UInt32} {start : Nat} (hk : Keeps plan folder camera l (.fetch n start))
    (hfew : Few camera l) (hr : l.history.function.run = some (.fetch n start)) (hcan : l.canDownload = true)
    {before : List Shot} {s : Shot} (hs : l.history.shots = before ++ [s]) :
    ∃ files, l.history.function.life.lastShot = some s ∧
      l.history.studio.files.write (Path.join folder s.name) (Camera.pictureText s) = .ok files ∧
      l.history.studio.fetch (some s) folder = (.ok (), { l.history.studio with
        camera := l.history.studio.camera.withDownloads (l.history.studio.camera.downloads + 1), files := files }) := by
  have hlast : l.history.function.life.lastShot = some s := by
    have hcourse := hk.course.lastShot
    rw [← shots_eq hk, hs, List.getLast?_concat] at hcourse
    exact hcourse
  obtain ⟨m, rfl, hlt, hle⟩ := number_of_mem hk hfew (hs ▸ List.mem_concat_self)
  rw [canDownload, hr] at hcan
  simp only [hlast, hk.configured.2, Option.all_some, Bool.and_eq_true] at hcan
  obtain ⟨hconnected, hok⟩ := hcan
  cases hwrite : l.history.studio.files.write (Path.join folder (Shot.ofNumber m).name)
    (Camera.pictureText (Shot.ofNumber m)) with
  | error e =>
    rw [hwrite] at hok
    cases hok
  | ok files =>
    have hhas := Camera.has_ofNumber (Nat.zero_lt_of_lt hlt) hle
    exact ⟨files, hlast, rfl, Studio.fetch_ok hconnected hhas hwrite⟩

/-- the pictures of a run all have places of their own -/
theorem nodup_placeIn (hk : Keeps plan folder camera l p) (hfew : Few camera l) (up : String) :
    (l.history.shots.map (Shot.placeIn up)).Nodup := by
  have hinjective : Function.Injective (Shot.placeIn up ∘ Shot.ofNumber) := by
    intro m n h
    rw [Function.comp_apply, Function.comp_apply] at h
    exact Shot.number_of_placeIn h
  rw [shots_eq_range' hk hfew, List.map_map]
  exact List.Nodup.map hinjective List.nodup_range'

/-- a download puts the last picture on file -/
theorem delivers_fetch {n : UInt32} {start : Nat} {delivered : List Shot} (hd : Delivers folder l delivered)
    (hk : Keeps plan folder camera l (.fetch n start)) (hfew : Few camera l)
    (hr : l.history.function.run = some (.fetch n start)) (hcan : l.canDownload = true) :
    ∃ delivered, Delivers folder (l.step .step) delivered := by
  obtain ⟨pending, hrest, hpending⟩ := hd.rest
  obtain ⟨s, rfl⟩ : ∃ s, pending = [s] := by
    rw [undelivered, hr] at hpending
    exact List.length_eq_one_iff.1 hpending
  obtain ⟨files, hlast, hwrite, hfetch⟩ := fetch_of_canDownload hk hfew hr hcan hrest
  obtain ⟨m, hm⟩ := exists_number_of_mem hk (hrest ▸ List.mem_concat_self)
  have hnull : s.placeIn folder ≠ FileTree.nullDevice := hm ▸ Shot.placeIn_ne_null folder m
  have hshots : (l.step .step).history.shots = l.history.shots :=
    (shots_step_of_run hr).trans (List.append_nil _)
  have hfolder := hk.configured.2
  refine ⟨delivered ++ [s], ?_, ?_, ?_, [], ?_, ?_⟩
  · rw [step_of_run hr]
    exact hd.on
  · rw [step_of_run hr]
    simp only [RunPoint.fetch?, hlast, hfolder, hfetch, hd.fetched, List.map_append]
    rfl
  · intro s' hs'
    have hfiles : (l.step .step).history.studio.files = files := by
      rw [step_of_run hr]
      simp only [RunPoint.step, hlast, hfolder, hfetch]
    rw [hfiles]
    rcases List.mem_append.1 hs' with hold | hnew
    · -- the picture was on file before, in another place
      have hnodup := nodup_placeIn hk hfew folder
      rw [hrest, List.map_append, List.nodup_append] at hnodup
      have hother : s'.placeIn folder ≠ s.placeIn folder :=
        hnodup.2.2 _ (List.mem_map_of_mem hold) _ (List.mem_map_of_mem List.mem_cons_self)
      exact FileTree.read_of_write_other hwrite hnull hother (hd.stored s' hold)
    · rw [List.mem_singleton.1 hnew]
      exact FileTree.read_of_write hwrite hnull
  · rw [hshots, hrest, List.append_nil]
  · rw [undelivered, step_of_run hr]
    rfl

/-- **A step of the run keeps the pictures on file.** -/
theorem delivers_run {delivered : List Shot} (hd : Delivers folder l delivered) (hk : Keeps plan folder camera l p)
    (hfew : Few camera l) (hr : l.history.function.run = some p) (hcan : l.canDownload = true) :
    ∃ delivered, Delivers folder (l.step .step) delivered := by
  obtain ⟨pending, hrest, hpending⟩ := hd.rest
  have hshots := shots_step_of_run hr
  obtain ⟨hplan, hfolder⟩ := hk.configured
  rw [hrest, List.append_assoc, hplan] at hshots
  rw [undelivered, hr, Option.map_some, Option.getD_some] at hpending
  by_cases hleave : ∃ r, p = .leave r
  · obtain ⟨r, rfl⟩ := hleave
    refine ⟨delivered, ?_, ?_, ?_, _, hshots, ?_⟩
    · rw [step_of_run hr]
      exact hd.on
    · rw [step_of_run hr]
      exact (List.append_nil _).trans hd.fetched
    · rw [step_of_run hr]
      exact hd.stored
    · rw [undelivered, step_of_run hr, List.length_append, hpending]
      rfl
  · obtain ⟨q, hq, hm⟩ := p.moves_step plan folder l.history.function.life l.history.studio fun r hr => hleave ⟨r, hr⟩
    obtain ⟨hon, ⟨n, start, rfl⟩ | ⟨hfetch, hfiles, hq'⟩⟩ := RunPoint.moves_undelivered hm hd.on
    · exact delivers_fetch hd hk hfew hr hcan
    · refine ⟨delivered, ?_, ?_, ?_, _, hshots, ?_⟩
      · rw [step_of_run hr, hplan, hfolder]
        exact hon
      · rw [step_of_run hr, hfolder]
        simp only [hfetch, Option.toList_none, List.append_nil]
        exact hd.fetched
      · rw [step_of_run hr, hplan, hfolder]
        simp only [hfiles]
        exact hd.stored
      · rw [undelivered, step_of_run hr, List.length_append, List.length_map, hplan, hfolder]
        simp only [hq, Option.map_some, Option.getD_some, hq', hpending]

/-- an event keeps the pictures on file -/
theorem delivers_step {delivered : List Shot} (hd : Delivers folder l delivered) (hk : Keeps plan folder camera l p)
    (hfew : Few camera l) (h : Undisturbed l e) : ∃ delivered, Delivers folder (l.step e) delivered := by
  cases e with
  | step =>
    rcases hk.place with ⟨hr, -⟩ | ⟨r, -, hr, -⟩
    · exact delivers_run hd hk hfew hr h
    · refine ⟨delivered, ?_⟩
      simp only [step, hr, Event.plain, RunHistory.step]
      exact hd
  | setDownloads b => exact ⟨delivered, h, hd.fetched, hd.stored, hd.rest⟩
  | beside files clock downloads =>
    refine ⟨delivered, hd.on, hd.fetched, ?_, hd.rest⟩
    intro s hs
    obtain ⟨pending, hrest, -⟩ := hd.rest
    have hsame := h s (hrest ▸ List.mem_append_left pending hs)
    rw [hk.configured.2] at hsame
    exact hsame.trans (hd.stored s hs)
  | abort | handle => exact ⟨delivered, hd.on, hd.fetched, hd.stored, hd.rest⟩

theorem delivers_steps (plan : Plan) (folder : String) (studio : Studio) {es : List Event}
    (hfew : Few studio.camera ((start plan folder true studio).steps es))
    (h : Along Undisturbed (start plan folder true studio) es) :
    ∃ delivered, Delivers folder ((start plan folder true studio).steps es) delivered := by
  induction es using List.reverseRecOn with
  | nil => exact ⟨[], delivers_start plan folder studio⟩
  | append_singleton es e ih =>
    rw [along_concat] at h
    rw [steps_concat] at hfew ⊢
    obtain ⟨delivered, hd⟩ := ih hfew.before h.1
    obtain ⟨p, hk⟩ := keeps_steps plan folder true studio es
    exact delivers_step hd hk hfew.before h.2

/-! ## All other files -/

/-- a step of the run changes no file but that of the last picture -/
theorem entry_run (hk : Keeps plan folder camera l p) (hr : l.history.function.run = some p) {place : Place}
    (hother : ∀ s ∈ l.history.shots, s.placeIn folder ≠ place) :
    FileTree.entry? (l.step .step).history.studio.files place = l.history.studio.files.entry? place := by
  obtain ⟨hplan, hfolder⟩ := hk.configured
  have hstudio : (l.step .step).history.studio =
      (p.step plan folder l.history.function.life l.history.studio).studio := by
    rw [step_of_run hr, hplan, hfolder]
  rw [hstudio]
  by_cases hleave : ∃ r, p = .leave r
  · obtain ⟨r, rfl⟩ := hleave
    rfl
  · obtain ⟨q, -, hm⟩ := p.moves_step plan folder l.history.function.life l.history.studio fun r hr => hleave ⟨r, hr⟩
    rcases hm.files with hfiles | ⟨n, start, rfl, hfetch⟩
    · rw [hfiles]
    · rw [hfetch]
      rcases l.history.studio.fetch_cases l.history.function.life.lastShot folder with
        ⟨e, he⟩ | ⟨s, files, hlast, -, -, hwrite, hok⟩
      · rw [he]
      · have hmem : s ∈ l.history.shots := by
          have hcourse := hk.course.lastShot
          rw [← shots_eq hk] at hcourse
          exact List.mem_of_getLast? (hcourse.symm.trans hlast)
        obtain ⟨m, hm⟩ := exists_number_of_mem hk hmem
        have hnull : s.placeIn folder ≠ FileTree.nullDevice := hm ▸ Shot.placeIn_ne_null folder m
        rw [hok]
        exact FileTree.entry_of_write_other hwrite hnull (hother s hmem).symm

theorem entry_step (hk : Keeps plan folder camera l p) {place : Place} (hspares : Spares place l e)
    (hother : ∀ s ∈ l.history.shots, s.placeIn folder ≠ place) :
    FileTree.entry? (l.step e).history.studio.files place = l.history.studio.files.entry? place := by
  cases e with
  | step =>
    rcases hk.place with ⟨hr, -⟩ | ⟨r, -, hr, -⟩
    · exact entry_run hk hr hother
    · simp only [step, hr, Event.plain, RunHistory.step]
  | beside files clock downloads => exact hspares
  | abort | setDownloads | handle => rfl

/-- **A run changes no files but those of its pictures.** -/
theorem entry_steps (plan : Plan) (folder : String) (downloads : Bool) (studio : Studio) {es : List Event}
    {place : Place} (hspares : Along (Spares place) (start plan folder downloads studio) es)
    (hother : ∀ s ∈ ((start plan folder downloads studio).steps es).history.shots, s.placeIn folder ≠ place) :
    FileTree.entry? ((start plan folder downloads studio).steps es).history.studio.files place =
      studio.files.entry? place := by
  induction es using List.reverseRecOn with
  | nil => rfl
  | append_singleton es e ih =>
    rw [along_concat] at hspares
    rw [steps_concat] at hother ⊢
    obtain ⟨p, hk⟩ := keeps_steps plan folder downloads studio es
    have hbefore : ∀ s ∈ ((start plan folder downloads studio).steps es).history.shots, s.placeIn folder ≠ place :=
      fun s hs => hother s ((shots_step _ e).subset hs)
    exact (entry_step hk hspares.2 hbefore).trans (ih hspares.1 hbefore)

/-- **Every picture is downloaded once, under its own name.** Take a function of either kind that has just been started
with downloads on. Let downloads stay on, let the camera be there and the file be writable whenever the run makes a
download, and let nobody else touch the pictures of the run. As long as the camera has fewer than 2 ^ 32 pictures, this is
so. The downloads of the run all go through, and they are those of its pictures in their order: each is of the picture
just taken, and at most the picture in hand is still to be downloaded. When the run is over none is, and each picture is
on file in the folder: a line of text that says that it is a simulated picture, and its folder and name on the camera.
The run has changed no other file. Its pictures have places of their own, apart from those of all earlier pictures of the
camera, to whatever folder these went. -/
theorem every_picture_is_downloaded_once (plan : Plan) (folder : String) (studio : Studio) (es : List Event)
    (h : Along Undisturbed (start plan folder true studio) es)
    (hfew : studio.camera.shots.toNat + ((start plan folder true studio).steps es).history.shots.length < 2 ^ 32) :
    let l := (start plan folder true studio).steps es
    let shots := l.history.shots
    shots = (List.range' (studio.camera.shots.toNat + 1) shots.length).map Shot.ofNumber ∧
      (∃ pending, pending.length ≤ 1 ∧ l.fetches ++ pending = shots.map fun s => (some s, .ok ())) ∧
      (l.history.function.run = none → l.fetches = shots.map (fun s => (some s, .ok ())) ∧
        ∀ s ∈ shots, l.history.studio.files.read (Path.join folder s.name) =
          .ok ("simulated picture " ++ s.folder ++ "/" ++ s.name ++ "\n").toUTF8.data.toList) ∧
      (∀ place, Along (Spares place) (start plan folder true studio) es → place ∉ shots.map (Shot.placeIn folder) →
        l.history.studio.files.entry? place = studio.files.entry? place) ∧
      (shots.map (Shot.placeIn folder)).Nodup ∧
      ∀ n ≤ studio.camera.shots.toNat, ∀ up, (Shot.ofNumber n).placeIn up ∉ shots.map (Shot.placeIn folder) := by
  intro l shots
  obtain ⟨p, hk⟩ := keeps_steps plan folder true studio es
  obtain ⟨delivered, hd⟩ := delivers_steps plan folder studio hfew h
  obtain ⟨pending, hrest, hpending⟩ := hd.rest
  have hdownloads : l.fetches ++ pending.map (fun s => (some s, .ok ())) = shots.map fun s => (some s, .ok ()) := by
    rw [hd.fetched, ← List.map_append, ← hrest]
  refine ⟨shots_eq_range' hk hfew, ⟨_, ?_, hdownloads⟩, ?_, ?_, nodup_placeIn hk hfew folder, ?_⟩
  · rw [List.length_map, hpending, undelivered]
    rcases l.history.function.run with _ | q
    · exact Nat.zero_le 1
    · exact q.undelivered_le_one
  · intro hover
    have hnone : pending = [] := by
      rw [undelivered, hover] at hpending
      exact List.length_eq_zero_iff.1 hpending
    rw [hnone, List.append_nil] at hrest
    rw [hnone, List.map_nil, List.append_nil] at hdownloads
    refine ⟨hdownloads, fun s hs => ?_⟩
    obtain ⟨n, rfl⟩ := exists_number_of_mem hk hs
    rw [← Camera.pictureText_eq (Shot.number?_ofNumber n)]
    exact hd.stored _ (hrest ▸ hs)
  · intro place hspares hplace
    apply entry_steps plan folder true studio hspares
    intro s hs hsame
    exact hplace (List.mem_map.2 ⟨s, hs, hsame⟩)
  · intro n hn up hmem
    obtain ⟨s, hs, hsame⟩ := List.mem_map.1 hmem
    obtain ⟨m, rfl, hlt, -⟩ := number_of_mem hk hfew hs
    have hnumber := Shot.number_of_placeIn hsame
    omega

/-- a function with two pictures to take, the second of which gets a number of five digits -/
def fiveDigits : Logbook :=
  start (.sequencer ⟨.limited 2, 1000⟩) "" true ⟨{ isConnected := true, shots := 9998 }, {}, 0⟩

theorem every_picture_is_downloaded_once_with_five_digits :
    let l := fiveDigits.steps (List.replicate 16 .step)
    Along Undisturbed fiveDigits (List.replicate 16 .step) ∧ l.history.shots.length = 2 ∧
      l.fetches = l.history.shots.map (fun s => (some s, .ok ())) ∧
      l.history.shots.map (fun s => (s.name, l.history.studio.files.read (Path.join "" s.name))) =
        [("IMG_9999.JPG", .ok "simulated picture /store_00010001/DCIM/100CAMCT/IMG_9999.JPG\n".toUTF8.data.toList),
          ("IMG_10000.JPG", .ok "simulated picture /store_00010001/DCIM/100CAMCT/IMG_10000.JPG\n".toUTF8.data.toList)] := by
  intro l
  have hundisturbed : Along Undisturbed fiveDigits (List.replicate 16 .step) := by decide +kernel
  have hover : l.history.function.run = none := by decide +kernel
  have hshots : l.history.shots = [⟨Shot.cameraFolder, "IMG_9999.JPG"⟩, ⟨Shot.cameraFolder, "IMG_10000.JPG"⟩] := by
    decide +kernel
  have hfew : 9998 + l.history.shots.length < 2 ^ 32 := by
    rw [hshots]
    decide
  obtain ⟨-, -, hfinished, -⟩ := every_picture_is_downloaded_once _ _ _ _ hundisturbed hfew
  obtain ⟨hfetches, hfiles⟩ := hfinished hover
  refine ⟨hundisturbed, by rw [hshots]; rfl, hfetches, ?_⟩
  have hread : l.history.shots.map (fun s => (s.name, l.history.studio.files.read (Path.join "" s.name))) =
      l.history.shots.map fun s =>
        (s.name, .ok ("simulated picture " ++ s.folder ++ "/" ++ s.name ++ "\n").toUTF8.data.toList) :=
    List.map_congr_left fun s hs => congrArg _ (hfiles s hs)
  rw [hread, hshots]
  rfl

end Logbook

end RemoteShutter
