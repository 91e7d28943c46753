/-
Runs with the record of their captures.

A history is a function whose run goes on, what it works on, and, as a record beside them, how many captures have begun
and how those that are over went. An event is a step of the run, or something from outside: the signal to stop, a change
of the download flag, or whatever others do to the camera, the files and the clock, faults among it.
- `Holds`: the record agrees with where the run stands.
- `holds_step`, `holds_steps`: an event, and so every sequence of events, keeps that.
- `begun_steps`: once the signal is up at most the capture begins that was due.
- `run_outcome`: what the record of a run looks like.
-/
import Mathlib.Tactic
import RemoteShutter.Proofs.Lifecycle.Agreement
import RemoteShutter.Proofs.Run.Account

namespace RemoteShutter

structure RunHistory where
  function : CaptureFunction
  studio : Studio
  /-- how many captures have begun -/
  begun : Nat := 0
  /-- how those went that are over, in order -/
  outcomes : List (Except CameraError Shot) := []

namespace RunHistory

inductive Event where
  /-- the run makes a step -/
  | step
  /-- the signal to stop is raised -/
  | abort
  | setDownloads (b : Bool)
  /-- others have worked on the camera, the files and the clock -/
  | elsewhere (studio : Studio)

/-- a function that has just been started -/
def start (plan : Plan) (folder : String) (downloads : Bool) (studio : Studio) : RunHistory where
  function := CaptureFunction.launch
    { plan := plan, folder := folder, life := { phase := .started, downloads := downloads } }
  studio := studio

def step (h : RunHistory) : Event → RunHistory
  | .step =>
    match h.function.run with
    | none => h
    | some p =>
      let (f, studio) := h.function.stepRun h.studio
      { function := f
        studio := studio
        begun := h.begun + p.isDue.toNat
        outcomes := h.outcomes ++ (p.outcome? h.function.plan h.studio).toList }
  | .abort => { h with function := { h.function with life := h.function.life.raiseAbort } }
  | .setDownloads b => { h with function := { h.function with life := h.function.life.setDownloads b } }
  | .elsewhere studio => { h with studio := studio }

def steps (h : RunHistory) (es : List Event) : RunHistory :=
  es.foldl step h

/-- the pictures that were taken, in order -/
def shots (h : RunHistory) : List Shot :=
  h.outcomes.filterMap Except.toOption

/-- the number of captures that are due -/
def due (h : RunHistory) : Nat :=
  (h.function.run.any RunPoint.isDue).toNat

variable {h : RunHistory} {p : RunPoint}

theorem steps_concat (h : RunHistory) (es : List Event) (e : Event) : h.steps (es ++ [e]) = (h.steps es).step e := by
  rw [steps, List.foldl_append, List.foldl_cons, List.foldl_nil, steps]

theorem steps_append (h : RunHistory) (es es' : List Event) : h.steps (es ++ es') = (h.steps es).steps es' :=
  List.foldl_append

theorem plan_step (h : RunHistory) (e : Event) : (h.step e).function.plan = h.function.plan := by
  cases e with
  | step =>
    simp only [step]
    cases hr : h.function.run <;> simp [CaptureFunction.stepRun, hr]
  | _ => rfl

theorem plan_steps (h : RunHistory) (es : List Event) : (h.steps es).function.plan = h.function.plan := by
  induction es using List.reverseRecOn with
  | nil => rfl
  | append_singleton es e ih => rw [steps_concat, plan_step, ih]

/-! ## The record -/

/-- the record agrees with a run that stands at `p`, or has left from there -/
structure Holds (h : RunHistory) (p : RunPoint) : Prop where
  place : h.function.run = some p ∨ h.function.run = none ∧ h.function.life.phase = .finished ∧ ∃ r, p = .leave r
  outcomes : h.outcomes = h.shots.map .ok ++ p.failures.map .error
  begun : h.begun = h.outcomes.length + p.holdsCamera.toNat
  standing : RunPoint.Standing h.function.plan h.function.life h.shots p

theorem holds_start (plan : Plan) (folder : String) (downloads : Bool) (studio : Studio) :
    Holds (start plan folder downloads studio) (.head 0) :=
  ⟨.inl rfl, rfl, rfl, ⟨rfl, fun _ _ => Nat.zero_le _⟩, rfl, Nat.le_refl _, rfl⟩

/-- the step of a run, written out -/
theorem step_of_run (hr : h.function.run = some p) :
    let t := p.step h.function.plan h.function.folder h.function.life h.studio
    h.step .step = { function := { h.function with run := t.point, life := t.life }
                     studio := t.studio
                     begun := h.begun + p.isDue.toNat
                     outcomes := h.outcomes ++ (p.outcome? h.function.plan h.studio).toList } := by
  simp only [step, CaptureFunction.stepRun, hr]

theorem filterMap_outcomes (new : List Shot) (failures : List CameraError) :
    (new.map Except.ok ++ failures.map Except.error).filterMap Except.toOption = new := by
  simp [Function.comp_def, Except.toOption]

/-- the record after a step that takes the pictures `new` and leaves the run at `q` -/
theorem holds_of_point (hh : Holds h p) (hr : h.function.run = some p) (hp : p.failures = []) {q : RunPoint}
    (new : List Shot) (hq : (p.step h.function.plan h.function.folder h.function.life h.studio).point = some q)
    (ho : (p.outcome? h.function.plan h.studio).toList = new.map .ok ++ q.failures.map .error)
    (hstanding : RunPoint.Standing h.function.plan
      (p.step h.function.plan h.function.folder h.function.life h.studio).life (h.shots ++ new) q) :
    Holds (h.step .step) q := by
  have hold : h.outcomes = h.shots.map .ok := by
    have := hh.outcomes
    rwa [hp, List.map_nil, List.append_nil] at this
  have hcaptures := (RunPoint.captures_step hq).1
  have hbegun := hh.begun
  rw [step_of_run hr]
  set t := p.step h.function.plan h.function.folder h.function.life h.studio
  have houtcomes : h.outcomes ++ (p.outcome? h.function.plan h.studio).toList =
      (h.shots ++ new).map .ok ++ q.failures.map .error := by
    rw [ho, List.map_append, List.append_assoc, ← hold]
  have hshots : (h.outcomes ++ (p.outcome? h.function.plan h.studio).toList).filterMap Except.toOption =
      h.shots ++ new := by
    rw [houtcomes, filterMap_outcomes]
  refine ⟨.inl hq, ?_, ?_, ?_⟩
  · simp only [shots, hshots]
    exact houtcomes
  · simp only [List.length_append]
    omega
  · simp only [shots, hshots]
    exact hstanding

/-- the last step of a run takes no picture -/
theorem holds_of_leave {r : RunEnd} (hh : Holds h (.leave r)) (hr : h.function.run = some (.leave r)) :
    Holds (h.step .step) (.leave r) := by
  rw [step_of_run hr]
  simp only [RunPoint.step, RunPoint.outcome?, Option.toList_none, List.append_nil]
  exact ⟨.inr ⟨rfl, rfl, r, rfl⟩, hh.outcomes, hh.begun, hh.standing.keeps rfl rfl id⟩

theorem holds_run (hh : Holds h p) (hr : h.function.run = some p) (hs : h.function.plan.Small h.shots) :
    ∃ q, Holds (h.step .step) q := by
  by_cases hleave : ∃ r, p = .leave r
  · obtain ⟨r, rfl⟩ := hleave
    exact ⟨_, holds_of_leave hh hr⟩
  · have hp : ∀ r, p ≠ .leave r := fun r hr => hleave ⟨r, hr⟩
    have hnone : p.failures = [] := by
      cases p with
      | leave r => exact absurd rfl (hp r)
      | _ => rfl
    have hgoes : RunPoint.GoesOn h.function.plan h.shots
        (p.step h.function.plan h.function.folder h.function.life h.studio) (p.outcome? h.function.plan h.studio) :=
      RunPoint.goesOn_step hh.standing hs hp
    generalize ho : p.outcome? h.function.plan h.studio = o at hgoes
    cases hgoes with
    | quiet hq hf hstanding =>
      exact ⟨_, holds_of_point hh hr hnone [] hq (by rw [ho, hf]; rfl) (by rwa [List.append_nil])⟩
    | success hq hf hstanding => exact ⟨_, holds_of_point hh hr hnone [_] hq (by rw [ho, hf]; rfl) hstanding⟩
    | failure hq hstanding =>
      exact ⟨_, holds_of_point hh hr hnone [] hq (by rw [ho]; rfl) (by rwa [List.append_nil])⟩

theorem holds_step (hh : Holds h p) (hs : h.function.plan.Small h.shots) (e : Event) : ∃ q, Holds (h.step e) q := by
  cases e with
  | step =>
    rcases hh.place with hr | ⟨hr, -⟩
    · exact holds_run hh hr hs
    · refine ⟨p, ?_⟩
      simp only [step, hr]
      exact hh
  | abort => exact ⟨p, hh.place, hh.outcomes, hh.begun, hh.standing.keeps rfl rfl fun _ => rfl⟩
  | setDownloads b => exact ⟨p, hh.place, hh.outcomes, hh.begun, hh.standing.keeps rfl rfl id⟩
  | elsewhere studio => exact ⟨p, hh.place, hh.outcomes, hh.begun, hh.standing⟩

/-- pictures are only added -/
theorem shots_step (h : RunHistory) (e : Event) : h.shots <+: (h.step e).shots := by
  cases e with
  | step =>
    cases hr : h.function.run with
    | none => simp only [step, hr]; exact List.prefix_rfl
    | some p =>
      rw [step_of_run hr]
      exact ⟨_, List.filterMap_append.symm⟩
  | _ => exact List.prefix_rfl

theorem small_of_step {e : Event} (hs : (h.step e).function.plan.Small (h.step e).shots) :
    h.function.plan.Small h.shots := by
  intro hp
  rw [plan_step] at hs
  exact Nat.lt_of_le_of_lt (shots_step h e).length_le (hs hp)

/-- **Every run keeps its record.** -/
theorem holds_steps (hh : Holds h p) (es : List Event)
    (hs : (h.steps es).function.plan.Small (h.steps es).shots) : ∃ q, Holds (h.steps es) q := by
  -- from the right, because the bound is on the pictures at the end, and bounds those of every beginning
  induction es using List.reverseRecOn with
  | nil => exact ⟨p, hh⟩
  | append_singleton es e ih =>
    rw [steps_concat] at hs ⊢
    obtain ⟨q, hq⟩ := ih (small_of_step hs)
    exact holds_step hq (small_of_step hs) e

/-! ## The signal -/

theorem isAborted_step {e : Event} (he : e ≠ .abort) :
    (h.step e).function.life.isAborted = h.function.life.isAborted := by
  cases e with
  | step =>
    cases hr : h.function.run with
    | none => simp only [step, hr]
    | some p =>
      rw [step_of_run hr]
      rcases p.step_life h.function.plan h.function.folder h.function.life h.studio with ⟨-, hl⟩ | ⟨q, -, hk⟩
      · simp only [hl, Lifecycle.finish]
      · exact hk.isAborted
  | abort => exact absurd rfl he
  | setDownloads | elsewhere => rfl

/-- the signal stays up -/
theorem isAborted_step_of_up (hup : h.function.life.isAborted = true) (e : Event) :
    (h.step e).function.life.isAborted = true := by
  cases e with
  | abort => rfl
  | _ => rw [isAborted_step Event.noConfusion, hup]

/-- it is up only if it was raised -/
theorem isAborted_steps {es : List Event} (hes : .abort ∉ es) :
    (h.steps es).function.life.isAborted = h.function.life.isAborted := by
  induction es generalizing h with
  | nil => rfl
  | cons e es ih =>
    rw [List.mem_cons, not_or] at hes
    exact (ih hes.2).trans (isAborted_step fun he => hes.1 he.symm)

/-- with the signal up a capture that begins was due before -/
theorem begun_step (hup : h.function.life.isAborted = true) (e : Event) :
    (h.step e).begun + (h.step e).due ≤ h.begun + h.due := by
  cases e with
  | step =>
    cases hr : h.function.run with
    | none => simp only [step, hr]; exact Nat.le_refl _
    | some p =>
      have hdue : h.due = p.isDue.toNat := by rw [due, hr, Option.any_some]
      rw [step_of_run hr, hdue, due]
      cases hq : (p.step h.function.plan h.function.folder h.function.life h.studio).point with
      | none => exact Nat.le_refl _
      | some q => simp only [Option.any_some, (RunPoint.captures_step hq).2 hup]; exact Nat.le_refl _
  | _ => exact Nat.le_refl _

theorem begun_steps (hup : h.function.life.isAborted = true) (es : List Event) :
    (h.steps es).begun + (h.steps es).due ≤ h.begun + h.due := by
  induction es generalizing h with
  | nil => exact Nat.le_refl _
  | cons e es ih => exact (ih (isAborted_step_of_up hup e)).trans (begun_step hup e)

/-! ## Counters -/

theorem late_le_step (hh : Holds h p) (hs : h.function.plan.Small h.shots) (e : Event) :
    h.function.life.stats.late.toNat ≤ (h.step e).function.life.stats.late.toNat := by
  cases e with
  | step =>
    rcases hh.place with hr | ⟨hr, -⟩
    · rw [step_of_run hr]
      exact RunPoint.late_step hh.standing hs
    · simp only [step, hr]
      exact Nat.le_refl _
  | _ => exact Nat.le_refl _

theorem late_le_steps (hh : Holds h p) (es es' : List Event)
    (hs : (h.steps (es ++ es')).function.plan.Small (h.steps (es ++ es')).shots) :
    (h.steps es).function.life.stats.late.toNat ≤ (h.steps (es ++ es')).function.life.stats.late.toNat := by
  induction es' using List.reverseRecOn with
  | nil => rw [List.append_nil]
  | append_singleton es' e ih =>
    rw [← List.append_assoc, steps_concat] at hs ⊢
    have hbefore := small_of_step hs
    obtain ⟨q, hq⟩ := holds_steps hh _ hbefore
    exact (ih hbefore).trans (late_le_step hq hbefore e)

/-! ## Outcomes -/

/-- **What becomes of a run.** Take a function that has just been started, of either kind, and any sequence of its
steps, of raised signals, of changes of the download flag and of faults and other work on the camera, the files and the
clock. Let `shots` be its successful captures so far, less than 2³² if it has no limit. Captures come one after the
other, a limit is kept, the counters of the run and of the statistics are exact but for the shot in hand, and none of
them goes back. After the signal at most one capture begins, and only if the run had passed its loop head before. When
the run is over, the statistics count all of `shots`, the last shot is the last of them, and at most one capture has
failed, the last one. If none has and no signal was raised, the run had a limit and has reached it. -/
theorem run_outcome (plan : Plan) (folder : String) (downloads : Bool) (studio : Studio) (es : List Event)
    (hs : plan.shots = .unbounded →
      ((start plan folder downloads studio).steps es).shots.length < 2 ^ 32) :
    let h₀ := start plan folder downloads studio
    let h := h₀.steps es
    let stats := h.function.life.stats
    h.begun = h.outcomes.length + (h.function.run.any RunPoint.holdsCamera).toNat ∧
      (∀ n, plan.shots = .limited n → h.shots.length ≤ n.toNat) ∧
      (∀ p, h.function.run = some p → h.shots.length = stats.exposures.toNat + p.unrecorded ∧
        ∀ taken, p.taken? = some taken → h.shots.length = taken.toNat + p.uncounted) ∧
      (∀ es₁ es₂, es = es₁ ++ es₂ → (h₀.steps es₁).function.life.stats.late.toNat ≤ stats.late.toNat) ∧
      (∀ es₁ es₂, es = es₁ ++ .abort :: es₂ → h.begun ≤ (h₀.steps es₁).begun + (h₀.steps es₁).due) ∧
      (h.function.run = none →
        h.function.life.phase = .finished ∧ stats.exposures.toNat = h.shots.length ∧
          h.function.life.lastShot = h.shots.getLast? ∧
          (∃ failures : List CameraError, failures.length ≤ 1 ∧
            h.outcomes = h.shots.map .ok ++ failures.map .error) ∧
          (.abort ∉ es → (∀ e, .error e ∉ h.outcomes) → ∃ n, plan.shots = .limited n ∧ h.shots.length = n.toNat)) := by
  intro h₀ h stats
  have hplan : h.function.plan = plan := plan_steps h₀ es
  have hsmall : h.function.plan.Small h.shots := by rw [hplan]; exact hs
  obtain ⟨p, hh⟩ := holds_steps (holds_start plan folder downloads studio) es hsmall
  have hstanding := hh.standing
  rw [hplan] at hstanding
  refine ⟨?_, hstanding.within, ?_, ?_, ?_, ?_⟩
  · rcases hh.place with hr | ⟨hr, -, r, rfl⟩
    · rw [hr, Option.any_some]
      exact hh.begun
    · rw [hr]
      exact hh.begun
  · intro q hq
    rcases hh.place with hr | ⟨hr, -⟩
    · obtain rfl : p = q := Option.some.inj (hr.symm.trans hq)
      exact ⟨hstanding.length_eq_exposures, fun _ ht => hstanding.length_eq_taken ht⟩
    · rw [hr] at hq
      cases hq
  · rintro es₁ es₂ rfl
    exact late_le_steps (holds_start plan folder downloads studio) es₁ es₂ hsmall
  · rintro es₁ es₂ rfl
    have hafter := begun_steps (h := (h₀.steps es₁).step .abort) rfl es₂
    have hsteps : h = ((h₀.steps es₁).step .abort).steps es₂ := steps_append h₀ es₁ (.abort :: es₂)
    rw [hsteps]
    exact (Nat.le_add_right _ _).trans hafter
  · intro hnone
    rcases hh.place with hr | ⟨-, hphase, r, rfl⟩
    · rw [hr] at hnone
      cases hnone
    · obtain ⟨hwithin, hrecords, hcomplete, haborted⟩ := hstanding
      refine ⟨hphase, hrecords.exposures, hrecords.lastShot, ⟨_, ?_, hh.outcomes⟩, fun hes hok => ?_⟩
      · cases r <;> simp [RunPoint.failures]
      · have hdown : h.function.life.isAborted = false := isAborted_steps hes
        cases r with
        | complete => exact hcomplete rfl
        | aborted =>
          rw [haborted rfl] at hdown
          cases hdown
        | failed e => exact absurd (by rw [hh.outcomes]; simp [RunPoint.failures]) (hok e)

/-- an intervalometer without a limit is stopped in its first wait -/
theorem run_outcome_stopped_in_wait :
    let h₀ := start (.intervalometer ⟨.unbounded, 1000, 500⟩) "pictures" false { camera := { isConnected := true } }
    let waiting := List.replicate 6 Event.step
    let h := h₀.steps (waiting ++ .abort :: [.step, .step])
    (h₀.steps waiting).function.run = some (.wait 1 500000000) ∧ h.begun ≤ (h₀.steps waiting).begun ∧
      h.function.run = none ∧ h.shots.length = 1 ∧ h.function.life.stats.exposures.toNat = h.shots.length := by
  intro h₀ waiting h
  have hrun : h.function.run = none := by decide +kernel
  have hshots : h.shots.length = 1 := by decide +kernel
  have hwaiting : (h₀.steps waiting).function.run = some (.wait 1 500000000) := by decide +kernel
  obtain ⟨-, -, -, -, habort, hover⟩ := run_outcome (.intervalometer ⟨.unbounded, 1000, 500⟩) "pictures" false
    { camera := { isConnected := true } } (waiting ++ .abort :: [.step, .step])
    fun _ => (by rw [show _ = 1 from hshots]; decide)
  have hdue : (h₀.steps waiting).due = 0 := by
    rw [due, hwaiting]
    rfl
  have hbegun := habort waiting [.step, .step] rfl
  rw [hdue, Nat.add_zero] at hbegun
  obtain ⟨-, hcount, -⟩ := hover (by with_reducible exact hrun)
  with_reducible exact ⟨hwaiting, hbegun, hrun, hshots, hcount⟩

end RunHistory

end RemoteShutter
