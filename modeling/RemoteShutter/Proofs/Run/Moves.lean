/-
The moves of a run.

What a step of a run can do is listed here once, with the conditions under which it does it.
- `Attempt`: a capture that is over: a picture with the mode it was taken in, or what went wrong.
- `Quiet`: the moves that bring no attempt to an end. They only touch the camera where they download.
- `Moves`: those, and the three ways in which an attempt ends.
- `moves_step`: a step of a run that has not left is one of these moves.
-/
import Mathlib.Tactic
import RemoteShutter.Proofs.Camera.Handling
import RemoteShutter.Proofs.Run.Account

namespace RemoteShutter

/-- a picture of a run, with the mode it was taken in -/
structure Picture where
  shot : Shot
  mode : ExposureMode
  deriving DecidableEq

/-- a capture that is over -/
abbrev Attempt := Except CameraError Picture

namespace RunPoint

/-- the attempt that the next step brings to an end, if it does -/
def attempt? (plan : Plan) (studio : Studio) : RunPoint → Option Attempt
  | aim _ _ =>
    match studio.camera.exposureMode with
    | .ok _ => none
    | .error e => some (.error e)
  | fire _ _ mode => some ((studio.fire plan.exposure mode none).1.map fun shot => ⟨shot, mode⟩)
  | _ => none

/-- the next step looks at the signal and finds it up -/
def seesSignal (life : Lifecycle) : RunPoint → Bool
  | head _ | wait _ _ => life.isAborted
  | _ => false

/-- why the run ends with the next step, if it does -/
def end? : RunPoint → Option RunEnd
  | leave r => some r
  | _ => none

/-- the last picture, noted or not -/
def lastTaken (life : Lifecycle) : RunPoint → Option Shot
  | note _ _ shot => some shot
  | _ => life.lastShot

theorem outcome?_eq (plan : Plan) (studio : Studio) (p : RunPoint) :
    p.outcome? plan studio = (p.attempt? plan studio).map (Except.map Picture.shot) := by
  cases p with
  | aim taken start =>
    unfold outcome? attempt?
    cases studio.camera.exposureMode <;> rfl
  | fire taken start mode =>
    simp only [outcome?, attempt?, Option.map_some]
    rcases (studio.fire plan.exposure mode none).1 with e | shot <;> rfl
  | _ => rfl

variable {plan : Plan} {folder : String} {life life' : Lifecycle} {studio studio' : Studio} {p q : RunPoint}

/-- the moves that bring no attempt to an end -/
inductive Quiet (plan : Plan) (folder : String) (life : Lifecycle) (studio : Studio) :
    RunPoint → RunPoint → Lifecycle → Studio → Prop where
  | begins {n : UInt32} (up : life.isAborted = false) (due : plan.shots.allows n = true) :
      Quiet plan folder life studio (.head n) (.aim n studio.clock) life studio
  | stops {n : UInt32} (up : life.isAborted = true) :
      Quiet plan folder life studio (.head n) (.leave .aborted) life studio
  | completes {n : UInt32} (up : life.isAborted = false) (done : plan.shots.allows n = false) :
      Quiet plan folder life studio (.head n) (.leave .complete) life studio
  | aims {n : UInt32} {start : Nat} {mode : ExposureMode} (ready : studio.camera.exposureMode = .ok mode) :
      Quiet plan folder life studio (.aim n start) (.fire n start mode) life studio
  | notes {n : UInt32} {start : Nat} {shot : Shot} :
      Quiet plan folder life studio (.note n start shot) (.deliver (n + 1) start) (life.noteShot shot) studio
  | orders {n : UInt32} {start : Nat} (on : life.downloads = true) :
      Quiet plan folder life studio (.deliver n start) (.fetch n start) life studio
  | skips {n : UInt32} {start : Nat} (off : life.downloads = false) :
      Quiet plan folder life studio (.deliver n start) (.sample n start) life studio
  | fetches {n : UInt32} {start : Nat} :
      Quiet plan folder life studio (.fetch n start) (.sample n start) life (studio.fetch life.lastShot folder).2
  | loops {n : UInt32} {start : Nat} (kind : plan.kind = .sequencer) :
      Quiet plan folder life studio (.sample n start) (.head n) (life.record (plan.sample start studio.clock)) studio
  | rests {n : UInt32} {start : Nat} (kind : plan.kind = .intervalometer) (due : plan.shots.allows n = true) :
      Quiet plan folder life studio (.sample n start) (.wait n (start + plan.period))
        (life.record (plan.sample start studio.clock)) studio
  | finishes {n : UInt32} {start : Nat} (kind : plan.kind = .intervalometer) (done : plan.shots.allows n = false) :
      Quiet plan folder life studio (.sample n start) (.leave .complete)
        (life.record (plan.sample start studio.clock)) studio
  | wakes {n : UInt32} {deadline : Nat} (up : life.isAborted = false) (reached : deadline ≤ studio.clock) :
      Quiet plan folder life studio (.wait n deadline) (.head n) life studio
  | waits {n : UInt32} {deadline : Nat} (up : life.isAborted = false) (early : studio.clock < deadline) :
      Quiet plan folder life studio (.wait n deadline) (.wait n deadline) life studio
  | breaks {n : UInt32} {deadline : Nat} (up : life.isAborted = true) :
      Quiet plan folder life studio (.wait n deadline) (.leave .aborted) life studio

/-- the moves of a run that has not left yet, with the attempt that they bring to an end -/
inductive Moves (plan : Plan) (folder : String) (life : Lifecycle) (studio : Studio) :
    RunPoint → RunPoint → Option Attempt → Lifecycle → Studio → Prop where
  | quiet {p q : RunPoint} {life' : Lifecycle} {studio' : Studio}
      (move : Quiet plan folder life studio p q life' studio') :
      Moves plan folder life studio p q none life' studio'
  | succeeds {n : UInt32} {start : Nat} {mode : ExposureMode} :
      Moves plan folder life studio (.fire n start mode) (.note n start (Shot.ofNumber (studio.camera.shots + 1).toNat))
        (some (.ok ⟨Shot.ofNumber (studio.camera.shots + 1).toNat, mode⟩)) life
        { studio with
          camera := studio.camera.exposed mode
          clock := studio.clock + studio.camera.captureTime plan.exposure }
  | fails {n : UInt32} {start : Nat} {mode : ExposureMode} {e : CameraError} :
      Moves plan folder life studio (.fire n start mode) (.leave (.failed e)) (some (.error e)) life studio
  | misses {n : UInt32} {start : Nat} {e : CameraError} (fault : studio.camera.exposureMode = .error e) :
      Moves plan folder life studio (.aim n start) (.leave (.failed e)) (some (.error e)) life studio

/-- **A step of a run that has not left is one of its moves.** -/
theorem moves_step (plan : Plan) (folder : String) (life : Lifecycle) (studio : Studio) (hp : ∀ r, p ≠ .leave r) :
    ∃ q, (p.step plan folder life studio).point = some q ∧
      Moves plan folder life studio p q (p.attempt? plan studio) (p.step plan folder life studio).life
        (p.step plan folder life studio).studio := by
  cases p with
  | head n =>
    simp only [step]
    split_ifs with hup hdue
    · exact ⟨_, rfl, .quiet (.stops hup)⟩
    · exact ⟨_, rfl, .quiet (.begins (Bool.not_eq_true _ ▸ hup) hdue)⟩
    · exact ⟨_, rfl, .quiet (.completes (Bool.not_eq_true _ ▸ hup) (Bool.not_eq_true _ ▸ hdue))⟩
  | aim n start =>
    simp only [step, attempt?]
    cases hmode : studio.camera.exposureMode with
    | ok mode => exact ⟨_, rfl, .quiet (.aims hmode)⟩
    | error e => exact ⟨_, rfl, .misses hmode⟩
  | fire n start mode =>
    simp only [step, attempt?]
    rcases studio.fire_cases plan.exposure mode with ⟨e, he⟩ | hok
    · rw [he]
      exact ⟨_, rfl, .fails⟩
    · rw [hok]
      exact ⟨_, rfl, .succeeds⟩
  | note n start shot => exact ⟨_, rfl, .quiet .notes⟩
  | deliver n start =>
    simp only [step]
    split_ifs with hon
    · exact ⟨_, rfl, .quiet (.orders hon)⟩
    · exact ⟨_, rfl, .quiet (.skips (Bool.not_eq_true _ ▸ hon))⟩
  | fetch n start => exact ⟨_, rfl, .quiet .fetches⟩
  | sample n start =>
    cases plan with
    | sequencer c => exact ⟨_, rfl, .quiet (.loops rfl)⟩
    | intervalometer c =>
      simp only [step]
      split_ifs with hdue
      · exact ⟨_, rfl, .quiet (.rests rfl hdue)⟩
      · exact ⟨_, rfl, .quiet (.finishes rfl (Bool.not_eq_true _ ▸ hdue))⟩
  | wait n deadline =>
    simp only [step]
    split_ifs with hup hover
    · exact ⟨_, rfl, .quiet (.breaks hup)⟩
    · exact ⟨_, rfl, .quiet (.wakes (Bool.not_eq_true _ ▸ hup) hover)⟩
    · exact ⟨_, rfl, .quiet (.waits (Bool.not_eq_true _ ▸ hup) (Nat.lt_of_not_le hover))⟩
  | leave r => exact absurd rfl (hp r)

end RunPoint

end RemoteShutter
