/-
Runs with a logbook.

A logbook stands beside the history of a run and says more of it: each attempt with the mode it was made in, each
download, what others have done to the camera and when, at which of its checks the run has seen the signal, and why it
has ended. Events are those of a history, but what others do is told apart: they handle the camera, or they work beside
it, on the files, the clock and the count of downloads.
- `Shows`: the camera is the one from before, after all that was done to it and all pictures that were taken.
- `Keeps`: the logbook agrees with where the run stands.
- `keeps_step`, `keeps_steps`: an event, and so every sequence of events, keeps that.
-/
import Mathlib.Tactic
import RemoteShutter.Proofs.Run.Course
import RemoteShutter.Proofs.Run.History

namespace RemoteShutter

variable {plan : Plan} {folder : String} {life life' : Lifecycle} {studio studio' : Studio} {p q : RunPoint}

/-! ## Moves -/

namespace RunPoint

/-- the download that the next step makes, if it does: the picture that is asked for, and how it goes -/
def fetch? (folder : String) (life : Lifecycle) (studio : Studio) :
    RunPoint → Option (Option Shot × Except FunctionError Unit)
  | fetch _ _ => some (life.lastShot, (studio.fetch life.lastShot folder).1)
  | _ => none

/-- a quiet move changes no more of the camera than its count of downloads -/
theorem Quiet.camera (h : Quiet plan folder life studio p q life' studio') :
    ∃ n, studio'.camera = studio.camera.withDownloads n := by
  cases h with
  | fetches => exact studio.fetch_camera life.lastShot folder
  | _ => exact ⟨studio.camera.downloads, rfl⟩

/-- a quiet move takes the camera in hand, or leaves it where it is -/
theorem Quiet.holdsCamera (h : Quiet plan folder life studio p q life' studio') :
    p.isDue.toNat + p.holdsCamera.toNat = q.holdsCamera.toNat := by
  cases h <;> rfl

/-- a quiet move ends a run that was aborted if it sees the signal -/
theorem Quiet.seesSignal (h : Quiet plan folder life studio p q life' studio') :
    p.seesSignal life = true ↔ q = .leave .aborted := by
  cases h <;> simp_all [RunPoint.seesSignal]

end RunPoint

/-! ## The camera of a run -/

namespace Camera

/-- the camera after all that others have done to it -/
def afterwards (c : Camera) (handled : List (Nat × Handling)) : Camera :=
  handled.foldl (fun c h => c.handle h.2) c

/-- how the capture is timed that has a number of others before it -/
def modeAfter (c : Camera) (handled : List (Nat × Handling)) (before : Nat) : ExposureMode :=
  (c.afterwards (handled.filter fun h => h.1 ≤ before)).mode

theorem afterwards_concat (c : Camera) (handled : List (Nat × Handling)) (h : Nat × Handling) :
    c.afterwards (handled ++ [h]) = (c.afterwards handled).handle h.2 := by
  rw [afterwards, List.foldl_append]
  rfl

theorem modeAfter_concat (c : Camera) (handled : List (Nat × Handling)) {h : Nat × Handling} {before : Nat}
    (hlt : before < h.1) : c.modeAfter (handled ++ [h]) before = c.modeAfter handled before := by
  have hlate : ¬ h.1 ≤ before := Nat.not_le_of_lt hlt
  rw [modeAfter, List.filter_append, List.filter_singleton, decide_eq_false hlate]
  exact congrArg (fun hs => (c.afterwards hs).mode) (List.append_nil _)

theorem shots_afterwards (c : Camera) (handled : List (Nat × Handling)) : (c.afterwards handled).shots = c.shots := by
  induction handled using List.reverseRecOn with
  | nil => rfl
  | append_singleton handled h ih => rw [afterwards_concat, shots_handle, ih]

/-- the picture that is exposed behind a number of others -/
def shotAfter (c : Camera) (before : Nat) : Shot :=
  Shot.ofNumber (c.shots + .ofNat (before + 1)).toNat

theorem shotAfter_eq (c : Camera) {before : Nat} (hfew : c.shots.toNat + before + 1 < 2 ^ 32) :
    c.shotAfter before = Shot.ofNumber (c.shots.toNat + 1 + before) := by
  rw [shotAfter, UInt32.toNat_add, UInt32.toNat_ofNat_of_lt' (by simp only [UInt32.size]; omega),
    Nat.mod_eq_of_lt (by omega), Nat.add_assoc, Nat.add_comm 1]

/-- the camera after some pictures, taken in modes -/
def took (c : Camera) (modes : List ExposureMode) : Camera :=
  modes.foldl exposed c

theorem took_concat (c : Camera) (modes : List ExposureMode) (mode : ExposureMode) :
    c.took (modes ++ [mode]) = (c.took modes).exposed mode := by
  rw [took, List.foldl_append]
  rfl

@[simp] theorem shots_took (c : Camera) (modes : List ExposureMode) :
    (c.took modes).shots = c.shots + .ofNat modes.length := by
  induction modes using List.reverseRecOn with
  | nil => exact (UInt32.add_zero c.shots).symm
  | append_singleton modes mode ih =>
    rw [took_concat, shots_exposed, ih, List.length_append, UInt32.ofNat_add, UInt32.add_assoc]
    rfl

@[simp] theorem mode_took (c : Camera) (modes : List ExposureMode) : (c.took modes).mode = c.mode := by
  induction modes using List.reverseRecOn with
  | nil => rfl
  | append_singleton modes mode ih => rw [took_concat, mode_exposed, ih]

theorem handle_took (c : Camera) (modes : List ExposureMode) (h : Handling) :
    (c.took modes).handle h = (c.handle h).took modes := by
  induction modes using List.reverseRecOn with
  | nil => rfl
  | append_singleton modes mode ih => rw [took_concat, took_concat, handle_exposed, ih]

end Camera

/-- the camera `now` shows what became of `camera` by the attempts that are over where the run stands, and by what others
have done -/
structure Shows (camera : Camera) (handled : List (Nat × Camera.Handling)) (as : List Attempt) (now : Camera)
    (p : RunPoint) : Prop where
  after : ∃ n, now = ((camera.afterwards handled).took ((pictures as).map Picture.mode)).withDownloads n
  named : (pictures as).map Picture.shot = (List.range (pictures as).length).map camera.shotAfter
  early : ∀ h ∈ handled, h.1 ≤ as.length + p.holdsCamera.toNat
  modes : ∀ k picture, as[k]? = some (.ok picture) → picture.mode = camera.modeAfter handled k
  /-- the mode that was looked up for the attempt under way -/
  inHand : ∀ n start mode, p = .fire n start mode → mode = camera.modeAfter handled as.length

namespace Shows

variable {camera now now' : Camera} {handled : List (Nat × Camera.Handling)} {as : List Attempt}

theorem start (camera : Camera) : Shows camera [] [] camera (.head 0) where
  after := ⟨camera.downloads, rfl⟩
  named := rfl
  early := nofun
  modes := nofun
  inHand := nofun

/-- the camera has the pictures from before and those of the attempts -/
theorem shots (h : Shows camera handled as now p) : now.shots = camera.shots + .ofNat (pictures as).length := by
  obtain ⟨n, hn⟩ := h.after
  calc now.shots
      = ((camera.afterwards handled).took ((pictures as).map Picture.mode)).shots := by rw [hn]; rfl
    _ = (camera.afterwards handled).shots + .ofNat ((pictures as).map Picture.mode).length := Camera.shots_took ..
    _ = camera.shots + .ofNat (pictures as).length := by rw [Camera.shots_afterwards, List.length_map]

/-- the next exposure is timed by what others have done -/
theorem mode (h : Shows camera handled as now p) : now.mode = (camera.afterwards handled).mode := by
  obtain ⟨n, hn⟩ := h.after
  calc now.mode
      = ((camera.afterwards handled).took ((pictures as).map Picture.mode)).mode := by rw [hn]; rfl
    _ = (camera.afterwards handled).mode := Camera.mode_took ..

/-- as long as no capture is under way all that was done has its part in the next -/
theorem modeAfter (h : Shows camera handled as now p) (hp : p.holdsCamera = false) :
    camera.modeAfter handled as.length = now.mode := by
  have hall : (handled.filter fun h => h.1 ≤ as.length) = handled :=
    List.filter_eq_self.2 fun e he => by
      have hearly := h.early e he
      rw [hp] at hearly
      exact decide_eq_true hearly
  rw [Camera.modeAfter, hall, h.mode]

theorem withDownloads (h : Shows camera handled as now p) (n : UInt32) :
    Shows camera handled as (now.withDownloads n) p := by
  obtain ⟨m, hm⟩ := h.after
  exact ⟨⟨n, by rw [hm]; rfl⟩, h.named, h.early, h.modes, h.inHand⟩

/-- others do something to the camera -/
theorem handle (h : Shows camera handled as now p) (e : Camera.Handling) :
    Shows camera (handled ++ [(as.length + p.holdsCamera.toNat, e)]) as (now.handle e) p := by
  obtain ⟨n, hn⟩ := h.after
  refine ⟨⟨n, ?_⟩, h.named, ?_, ?_, ?_⟩
  · rw [hn, Camera.handle_withDownloads, Camera.handle_took, Camera.afterwards_concat]
  · intro x hx
    rcases List.mem_append.1 hx with hx | hx
    · exact h.early x hx
    · rw [List.mem_singleton.1 hx]
  · intro k picture hk
    have hlt : k < as.length := (List.getElem?_eq_some_iff.1 hk).1
    rw [Camera.modeAfter_concat _ _ (Nat.lt_of_lt_of_le hlt (Nat.le_add_right _ _))]
    exact h.modes k picture hk
  · intro m start mode hp
    have hlt : as.length < as.length + p.holdsCamera.toNat := by
      rw [hp]
      exact Nat.lt_succ_self _
    rw [Camera.modeAfter_concat _ _ hlt]
    exact h.inHand m start mode hp

/-- a quiet move takes no picture -/
theorem quiet (h : Shows camera handled as studio.camera p)
    (hm : RunPoint.Quiet plan folder life studio p q life' studio') : Shows camera handled as studio'.camera q := by
  obtain ⟨n, hn⟩ := hm.camera
  have hbase := h.withDownloads n
  have hholds := hm.holdsCamera
  rw [hn]
  refine ⟨hbase.after, h.named, ?_, h.modes, ?_⟩
  · intro x hx
    have hearly := h.early x hx
    omega
  · intro m start mode hq
    subst hq
    cases hm with
    | aims ready => rw [h.modeAfter rfl, Camera.mode_of_exposureMode ready]

theorem succeeds {n : UInt32} {start : Nat} {mode : ExposureMode} (h : Shows camera handled as now (.fire n start mode)) :
    Shows camera handled (as ++ [.ok ⟨Shot.ofNumber (now.shots + 1).toNat, mode⟩]) (now.exposed mode)
      (.note n start (Shot.ofNumber (now.shots + 1).toNat)) := by
  obtain ⟨m, hm⟩ := h.after
  refine ⟨⟨m, ?_⟩, ?_, ?_, ?_, nofun⟩
  · rw [pictures_concat_ok, List.map_append, List.map_singleton, Camera.took_concat, ← Camera.exposed_withDownloads, ← hm]
  · rw [pictures_concat_ok, List.length_append, List.length_singleton, List.range_succ, List.map_append, List.map_append,
      h.named, h.shots, List.map_singleton, List.map_singleton, Camera.shotAfter, UInt32.ofNat_add, UInt32.add_assoc]
    rfl
  · intro x hx
    rw [List.length_append]
    exact h.early x hx
  · intro k picture hk
    rcases Nat.lt_or_ge k as.length with hlt | hge
    · rw [List.getElem?_append_left hlt] at hk
      exact h.modes k picture hk
    · rw [List.getElem?_append_right hge, List.getElem?_singleton] at hk
      split_ifs at hk with hzero
      obtain rfl : k = as.length := by omega
      cases hk
      exact h.inHand n start mode rfl

theorem fails (h : Shows camera handled as now p) (e : CameraError) :
    Shows camera handled (as ++ [.error e]) now (.leave (.failed e)) := by
  refine ⟨?_, ?_, ?_, ?_, nofun⟩
  · rw [pictures_concat_error]
    exact h.after
  · rw [pictures_concat_error]
    exact h.named
  · intro x hx
    have hearly := h.early x hx
    have hone : p.holdsCamera.toNat ≤ 1 := Bool.toNat_le _
    rw [List.length_append, List.length_singleton]
    exact hearly.trans (Nat.add_le_add_left hone _)
  · intro k picture hk
    rcases Nat.lt_or_ge k as.length with hlt | hge
    · rw [List.getElem?_append_left hlt] at hk
      exact h.modes k picture hk
    · rw [List.getElem?_append_right hge, List.getElem?_singleton] at hk
      split_ifs at hk
      cases hk

end Shows

/-! ## Logbooks -/

structure Logbook where
  history : RunHistory
  attempts : List Attempt := []
  /-- what others have done to the camera, and how many captures had begun then -/
  handled : List (Nat × Camera.Handling) := []
  /-- the downloads: which picture was asked for, and how it went -/
  fetches : List (Option Shot × Except FunctionError Unit) := []
  /-- how many attempts were over when the run saw the signal -/
  stopped : Option Nat := none
  ended : Option RunEnd := none

namespace Logbook

inductive Event where
  /-- the run makes a step -/
  | step
  /-- the signal to stop is raised -/
  | abort
  | setDownloads (b : Bool)
  /-- others do something to the camera -/
  | handle (h : Camera.Handling)
  /-- others work on the files, the clock goes on, and the camera counts downloads of others -/
  | beside (files : FileTree) (clock : Nat) (downloads : UInt32)

/-- a function that has just been started -/
def start (plan : Plan) (folder : String) (downloads : Bool) (studio : Studio) : Logbook where
  history := .start plan folder downloads studio

/-- an event as a history has it -/
def Event.plain (studio : Studio) : Event → RunHistory.Event
  | step => .step
  | abort => .abort
  | setDownloads b => .setDownloads b
  | handle h => .elsewhere { studio with camera := studio.camera.handle h }
  | beside files clock downloads => .elsewhere ⟨studio.camera.withDownloads downloads, files, clock⟩

def step (l : Logbook) (e : Event) : Logbook :=
  let studio := l.history.studio
  let after := { l with history := l.history.step (e.plain studio) }
  match e with
  | .step =>
    match l.history.function.run with
    | none => after
    | some p =>
      let f := l.history.function
      { after with
        attempts := l.attempts ++ (p.attempt? f.plan studio).toList
        fetches := l.fetches ++ (p.fetch? f.folder f.life studio).toList
        stopped := if p.seesSignal f.life then some l.attempts.length else l.stopped
        ended := p.end? }
  | .handle h => { after with handled := l.handled ++ [(l.history.begun, h)] }
  | _ => after

def steps (l : Logbook) (es : List Event) : Logbook :=
  es.foldl step l

variable {l : Logbook} {camera : Camera}

theorem steps_concat (l : Logbook) (es : List Event) (e : Event) : l.steps (es ++ [e]) = (l.steps es).step e := by
  rw [steps, List.foldl_append, List.foldl_cons, List.foldl_nil, steps]

/-- pictures are only added -/
theorem shots_step (l : Logbook) (e : Event) : l.history.shots <+: (l.step e).history.shots := by
  have hhistory : (l.step e).history = l.history.step (e.plain l.history.studio) := by
    cases e with
    | step => cases hr : l.history.function.run <;> simp only [step, hr]
    | _ => rfl
  rw [hhistory]
  exact RunHistory.shots_step l.history _

/-- the step of a run, written out -/
theorem step_of_run (hr : l.history.function.run = some p) :
    let f := l.history.function
    let t := p.step f.plan f.folder f.life l.history.studio
    l.step .step =
      { history :=
          { function := { f with run := t.point, life := t.life }
            studio := t.studio
            begun := l.history.begun + p.isDue.toNat
            outcomes := l.history.outcomes ++ (p.outcome? f.plan l.history.studio).toList }
        attempts := l.attempts ++ (p.attempt? f.plan l.history.studio).toList
        handled := l.handled
        fetches := l.fetches ++ (p.fetch? f.folder f.life l.history.studio).toList
        stopped := if p.seesSignal f.life then some l.attempts.length else l.stopped
        ended := p.end? } := by
  simp only [step, hr, Event.plain, RunHistory.step_of_run hr]

/-- the logbook agrees with a run that stands at `p`, or has left from there -/
structure Keeps (plan : Plan) (folder : String) (camera : Camera) (l : Logbook) (p : RunPoint) : Prop where
  configured : l.history.function.plan = plan ∧ l.history.function.folder = folder
  place : l.history.function.run = some p ∧ l.ended = none ∨
    ∃ r, p = .leave r ∧ l.history.function.run = none ∧ l.ended = some r
  begun : l.history.begun = l.attempts.length + p.holdsCamera.toNat
  outcomes : l.history.outcomes = l.attempts.map (Except.map Picture.shot)
  stopped : l.stopped = if p = .leave .aborted then some l.attempts.length else none
  course : Course plan l.history.function.life l.attempts p
  shows : Shows camera l.handled l.attempts l.history.studio.camera p

theorem Keeps.over (h : Keeps plan folder camera l p) (hr : l.history.function.run = none) :
    ∃ r, p = .leave r ∧ l.ended = some r := by
  rcases h.place with ⟨hrun, -⟩ | ⟨r, hp, -, hended⟩
  · rw [hr] at hrun
    cases hrun
  · exact ⟨r, hp, hended⟩

/-- the outcomes of a run are its pictures, and the failure it has ended with -/
theorem outcomes_eq (h : Keeps plan folder camera l p) :
    l.history.outcomes = (pictures l.attempts).map (fun picture => .ok picture.shot) ++ p.failures.map .error := by
  calc l.history.outcomes
      = l.attempts.map (Except.map Picture.shot) := h.outcomes
    _ = ((pictures l.attempts).map Except.ok ++ p.failures.map Except.error).map (Except.map Picture.shot) :=
        congrArg (List.map _) h.course.attempts
    _ = _ := by rw [List.map_append, List.map_map, List.map_map]; rfl

theorem shots_eq (h : Keeps plan folder camera l p) :
    l.history.shots = (pictures l.attempts).map Picture.shot := by
  calc l.history.shots
      = (((pictures l.attempts).map Picture.shot).map Except.ok ++ p.failures.map Except.error).filterMap
          Except.toOption := by
        rw [RunHistory.shots, outcomes_eq h, List.map_map]
        rfl
    _ = (pictures l.attempts).map Picture.shot := RunHistory.filterMap_outcomes _ _

theorem keeps_start (plan : Plan) (folder : String) (downloads : Bool) (studio : Studio) :
    Keeps plan folder studio.camera (start plan folder downloads studio) (.head 0) :=
  ⟨⟨rfl, rfl⟩, .inl ⟨rfl, rfl⟩, rfl, rfl, rfl, Course.start plan rfl rfl, Shows.start studio.camera⟩

/-- the last step of a run only says that it is over -/
theorem keeps_leave {r : RunEnd} (h : Keeps plan folder camera l (.leave r))
    (hr : l.history.function.run = some (.leave r)) : Keeps plan folder camera (l.step .step) (.leave r) := by
  rw [step_of_run hr]
  simp only [RunPoint.step, RunPoint.outcome?, RunPoint.attempt?, RunPoint.fetch?, RunPoint.seesSignal,
    Option.toList_none, List.append_nil, if_false, Bool.false_eq_true]
  exact ⟨h.configured, .inr ⟨r, rfl, rfl, rfl⟩, h.begun, h.outcomes, h.stopped, h.course.congr rfl rfl, h.shows⟩

/-- what a move does to course and camera, and that it sees the signal only to end the run -/
theorem keeps_moves {a : Option Attempt} {as : List Attempt} {handled : List (Nat × Camera.Handling)}
    (hm : RunPoint.Moves plan folder life studio p q a life' studio') (hcourse : Course plan life as p)
    (hshows : Shows camera handled as studio.camera p) :
    Course plan life' (as ++ a.toList) q ∧ Shows camera handled (as ++ a.toList) studio'.camera q ∧
      (p.seesSignal life = true ↔ q = .leave .aborted) ∧ (q = .leave .aborted → a = none) := by
  cases hm with
  | quiet move =>
    rw [Option.toList_none, List.append_nil]
    exact ⟨hcourse.quiet move, hshows.quiet move, move.seesSignal, fun _ => rfl⟩
  | succeeds => exact ⟨hcourse.succeeds _, hshows.succeeds, ⟨nofun, nofun⟩, nofun⟩
  | fails => exact ⟨hcourse.fails rfl rfl rfl rfl _, hshows.fails _, ⟨nofun, nofun⟩, nofun⟩
  | misses => exact ⟨hcourse.fails rfl rfl rfl rfl _, hshows.fails _, ⟨nofun, nofun⟩, nofun⟩

/-- a step of the run keeps the logbook -/
theorem keeps_run (h : Keeps plan folder camera l p) (hr : l.history.function.run = some p) :
    ∃ q, Keeps plan folder camera (l.step .step) q := by
  by_cases hleave : ∃ r, p = .leave r
  · obtain ⟨r, rfl⟩ := hleave
    exact ⟨_, keeps_leave h hr⟩
  · have hp : ∀ r, p ≠ .leave r := fun r hr => hleave ⟨r, hr⟩
    have hended : p.end? = none := by
      cases p with
      | leave r => exact absurd rfl (hp r)
      | _ => rfl
    have hstopped := h.stopped
    rw [if_neg (hp _)] at hstopped
    obtain ⟨hplan, hfolder⟩ := h.configured
    obtain ⟨q, hq, hmoves⟩ := p.moves_step plan folder l.history.function.life l.history.studio hp
    obtain ⟨hcourse, hshows, hsees, hnone⟩ := keeps_moves hmoves h.course h.shows
    have hcaptures := (RunPoint.captures_step hq).1
    have hbegun := h.begun
    rw [RunPoint.outcome?_eq, Option.toList_map, List.length_map] at hcaptures
    refine ⟨q, ?_⟩
    rw [step_of_run hr, hplan, hfolder, RunPoint.outcome?_eq, Option.toList_map]
    refine ⟨⟨rfl, rfl⟩, .inl ⟨hq, hended⟩, ?_, ?_, ?_, hcourse, hshows⟩
    · simp only [List.length_append]
      omega
    · simp only [List.map_append, h.outcomes]
    · by_cases hsignal : p.seesSignal l.history.function.life = true
      · have hleft := hsees.1 hsignal
        rw [if_pos hsignal, if_pos hleft, hnone hleft, Option.toList_none, List.append_nil]
      · rw [if_neg hsignal, if_neg fun hleft => hsignal (hsees.2 hleft), hstopped]

/-- **An event keeps the logbook.** -/
theorem keeps_step (h : Keeps plan folder camera l p) (e : Event) : ∃ q, Keeps plan folder camera (l.step e) q := by
  cases e with
  | step =>
    rcases h.place with ⟨hr, -⟩ | ⟨r, rfl, hr, hended⟩
    · exact keeps_run h hr
    · refine ⟨.leave r, ?_⟩
      simp only [step, hr, Event.plain, RunHistory.step]
      exact h
  | abort => exact ⟨p, h.configured, h.place, h.begun, h.outcomes, h.stopped, h.course.congr rfl rfl, h.shows⟩
  | setDownloads b => exact ⟨p, h.configured, h.place, h.begun, h.outcomes, h.stopped, h.course.congr rfl rfl, h.shows⟩
  | handle e =>
    refine ⟨p, h.configured, h.place, h.begun, h.outcomes, h.stopped, h.course, ?_⟩
    have hshows := h.shows.handle e
    rwa [← h.begun] at hshows
  | beside files clock downloads =>
    exact ⟨p, h.configured, h.place, h.begun, h.outcomes, h.stopped, h.course, h.shows.withDownloads downloads⟩

/-- every run keeps its logbook -/
theorem keeps_steps (plan : Plan) (folder : String) (downloads : Bool) (studio : Studio) (es : List Event) :
    ∃ p, Keeps plan folder studio.camera ((start plan folder downloads studio).steps es) p := by
  induction es using List.reverseRecOn with
  | nil => exact ⟨_, keeps_start plan folder downloads studio⟩
  | append_singleton es e ih =>
    obtain ⟨p, hp⟩ := ih
    rw [steps_concat]
    exact keeps_step hp e

end Logbook

end RemoteShutter
