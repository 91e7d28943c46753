/-
Who makes the exposures.

Only the threads of the functions expose pictures, each in the step in which its capture goes through (`exposure?`).
`owed` is what the statistics of the functions count, with the pictures whose samples are still to come.
- `quiet_call`, `quiet_stepCall`: commands expose nothing, and nothing more is owed after them.
- `accounts_step`: an event moves the counters of the camera by the exposure it makes, and what is owed by that of a run
  but not by a test shot.
-/
import RemoteShutter.Proofs.Camera.Counters
import RemoteShutter.Proofs.Run.Account
import RemoteShutter.Proofs.Station.Exclusive

namespace RemoteShutter

/-- a picture, and whether it was that of a test shot -/
structure Exposure where
  isTest : Bool
  shot : Shot
  deriving DecidableEq, Repr

/-! ## Threads -/

namespace RunPoint

/-- the picture that the next step exposes, if any -/
def exposure? (studio : Studio) : RunPoint → Option Shot
  | fire _ _ _ => studio.camera.exposure?
  | _ => none

/-- a run that waits for the camera is not about to expose -/
theorem exposure?_of_needsCamera {p : RunPoint} (h : p.needsCamera = true) (studio : Studio) :
    p.exposure? studio = none := by
  cases p with
  | fire => cases h
  | _ => rfl

variable {plan : Plan} {folder : String} {life : Lifecycle} {studio : Studio}

theorem takes_step (p : RunPoint) :
    studio.camera.Takes (p.step plan folder life studio).studio.camera (p.exposure? studio) := by
  cases p with
  | fire taken start mode =>
    have hfire := (studio.takes_fire plan.exposure mode none).1
    simp only [step, exposure?]
    split
    · next h => rw [h] at hfire; exact hfire
    · next h => rw [h] at hfire; exact hfire
  | fetch taken start => exact studio.takes_fetch life.lastShot folder
  | head => simp only [step]; split_ifs <;> exact .refl _
  | aim => simp only [step]; split <;> exact .refl _
  | wait => simp only [step]; split_ifs <;> exact .refl _
  | sample => cases plan <;> simp only [step] <;> (repeat' split) <;> exact .refl _
  | note | deliver | leave => exact .refl _

/-- what the run has exposed is recorded, or its sample is still to come -/
theorem owed_step (p : RunPoint) (hfew : life.stats.exposures.toNat + p.unrecorded < 2 ^ 32) :
    (p.step plan folder life studio).life.stats.exposures.toNat +
        ((p.step plan folder life studio).point.map unrecorded).getD 0 =
      life.stats.exposures.toNat + p.unrecorded + (p.exposure? studio).toList.length := by
  cases p with
  | fire taken start mode =>
    have hfire := (studio.takes_fire plan.exposure mode none).2 rfl
    simp only [step, exposure?, ← hfire]
    split
    · next h => rw [h]; rfl
    · next h => rw [h]; rfl
  | sample taken start =>
    have hrecord : ∀ sample, (life.record sample).stats.exposures.toNat = life.stats.exposures.toNat + 1 :=
      fun _ => toNat_add_one rfl hfew
    cases plan with
    | sequencer c => exact hrecord (Plan.sample (.sequencer c) start studio.clock)
    | intervalometer c =>
      simp only [step]
      split_ifs <;> exact hrecord (Plan.sample (.intervalometer c) start studio.clock)
  | head => simp only [step]; split_ifs <;> rfl
  | aim => simp only [step]; split <;> rfl
  | wait => simp only [step]; split_ifs <;> rfl
  | deliver => simp only [step]; split_ifs <;> rfl
  | note | fetch | leave => rfl

end RunPoint

namespace TestPoint

/-- the picture that the next step exposes, if any -/
def exposure? (studio : Studio) : TestPoint → Option Shot
  | fire _ _ => studio.camera.exposure?
  | _ => none

/-- a test shot that waits for the camera is not about to expose -/
theorem exposure?_of_needsCamera {p : TestPoint} (h : p.needsCamera = true) (studio : Studio) :
    p.exposure? studio = none := by
  cases p with
  | fire => cases h
  | _ => rfl

theorem takes_step (p : TestPoint) (plan : Plan) (folder : String) (life : Lifecycle) (studio : Studio) :
    studio.camera.Takes (p.step plan folder life studio).studio.camera (p.exposure? studio) := by
  cases p with
  | fire destination mode => exact (studio.takes_fire plan.exposure mode destination).1
  | aim => simp only [step]; split <;> exact .refl _
  | begin | leave => exact .refl _

end TestPoint

namespace CaptureFunction

/-- the pictures that the statistics count, and the one whose sample is still to come -/
def owed (f : CaptureFunction) : Nat :=
  f.life.stats.exposures.toNat + (f.run.map RunPoint.unrecorded).getD 0

theorem owed_stepRun (f : CaptureFunction) (studio : Studio) (hfew : f.owed < 2 ^ 32) :
    (f.stepRun studio).1.owed = f.owed + (f.run.bind (·.exposure? studio)).toList.length := by
  unfold stepRun owed at *
  cases hr : f.run with
  | none => simp [hr]
  | some p =>
    rw [hr] at hfew
    exact p.owed_step hfew

theorem owed_stepTest (f : CaptureFunction) (studio : Studio) : (f.stepTest studio).1.owed = f.owed := by
  unfold stepTest
  cases ht : f.test with
  | none => rfl
  | some p =>
    rcases p.step_life f.plan f.folder f.life studio with ⟨-, hl⟩ | ⟨_, -, hl⟩
    · simp only [owed, hl, Lifecycle.endTest]
    · simp only [owed, hl]

theorem takes_stepRun (f : CaptureFunction) (studio : Studio) :
    studio.camera.Takes (f.stepRun studio).2.camera (f.run.bind (·.exposure? studio)) := by
  unfold stepRun
  cases hr : f.run with
  | none => exact .refl _
  | some p => exact p.takes_step

theorem takes_stepTest (f : CaptureFunction) (studio : Studio) :
    studio.camera.Takes (f.stepTest studio).2.camera (f.test.bind (·.exposure? studio)) := by
  unfold stepTest
  cases ht : f.test with
  | none => exact .refl _
  | some p => exact p.takes_step f.plan f.folder f.life studio

end CaptureFunction

namespace Station

/-- the exposure that an event makes, if it makes one -/
def exposure? (s : Station) : Event → Option Exposure
  | .run i => (s.functions[i]?.bind fun f => f.run.bind (·.exposure? s.studio)).map (⟨false, ·⟩)
  | .test i => (s.functions[i]?.bind fun f => f.test.bind (·.exposure? s.studio)).map (⟨true, ·⟩)
  | _ => none

/-- the pictures that the statistics of all functions count, and those whose samples are still to come -/
def owed (s : Station) : Nat :=
  (s.functions.map CaptureFunction.owed).sum

variable {s t : Station} {old : List CaptureFunction} {f g : CaptureFunction}

/-! ## Commands -/

/-- nothing is exposed, and nothing is owed that was not owed before -/
structure Quiet (s t : Station) : Prop where
  takes : s.studio.camera.Takes t.studio.camera none
  owed : t.owed = s.owed

theorem Quiet.refl (s : Station) : Quiet s s :=
  ⟨.refl _, rfl⟩

theorem Quiet.trans {u : Station} (h : Quiet s t) (h' : Quiet t u) : Quiet s u :=
  ⟨h.takes.trans h'.takes, h'.owed.trans h.owed⟩

theorem owed_concat (h : s.functions = old ++ [f]) : s.owed = (old.map CaptureFunction.owed).sum + f.owed := by
  simp [owed, h]

/-- the functions are the same, and nothing was exposed -/
theorem quiet_same (hf : t.functions = s.functions) (hc : s.studio.camera.Takes t.studio.camera none) : Quiet s t :=
  ⟨hc, by rw [owed, owed, hf]⟩

theorem quiet_say (s : Station) (es : List LogEvent) : Quiet s (s.say es) :=
  ⟨.refl _, rfl⟩

theorem quiet_withActive {act : CaptureFunction → Station} (h : ∀ f, s.active? = some f → Quiet s (act f)) :
    Quiet s (s.withActive act) := by
  unfold withActive
  split
  · next f hf => exact h f hf
  · exact quiet_same rfl (.refl _)

theorem quiet_updateActive {change : CaptureFunction → CaptureFunction}
    (h : ∀ f, s.active? = some f → (change f).owed = f.owed) : Quiet s (s.updateActive change) := by
  refine ⟨.refl _, ?_⟩
  rcases List.eq_nil_or_concat' s.functions with hnil | ⟨old, f, hs⟩
  · rw [owed, owed, functions_updateActive_nil hnil, hnil]
  · rw [owed_concat hs, owed_concat (functions_updateActive hs change), h f (active?_eq hs)]

theorem quiet_updateLife {change : Lifecycle → Lifecycle}
    (h : ∀ f, s.active? = some f → (change f.life).stats = f.life.stats) : Quiet s (s.updateLife change) := by
  apply quiet_updateActive
  intro f hf
  rw [CaptureFunction.owed, CaptureFunction.owed, h f hf]

theorem quiet_abort (s : Station) : Quiet s s.abort := by
  unfold abort
  split
  · split_ifs
    · exact (quiet_say s _).trans (quiet_updateLife fun _ _ => rfl)
    · exact .refl s
  · exact .refl s

theorem quiet_abortActive (s : Station) : Quiet s s.abortActive := by
  unfold abortActive
  split_ifs
  · exact quiet_abort s
  · exact .refl s

/-- a new function owes nothing yet -/
theorem quiet_install (s : Station) (plan : Plan) (download : Bool) : Quiet s (s.install plan download) := by
  have habort := (quiet_say s (configured plan download)).trans (quiet_abort _)
  refine ⟨habort.takes, ?_⟩
  rw [← habort.owed]
  simp [owed, install, CaptureFunction.owed]

theorem quiet_beginCall (s : Station) (c : Telecommand) : Quiet s (s.beginCall c) := by
  have hsay := quiet_say s [⟨.info, "executing telecommand", [("command", .text c.name)]⟩]
  refine hsay.trans ?_
  unfold beginCall
  dsimp only
  generalize s.say _ = s
  cases c with
  | sequencerSetup | intervalometerSetup =>
    dsimp only
    split_ifs
    · exact quiet_same rfl (.refl _)
    · exact quiet_same rfl (.refl _)
  | start =>
    apply quiet_withActive
    intro f _
    split <;> exact quiet_same rfl (.refl _)
  | stop =>
    apply quiet_withActive
    intro f _
    split_ifs <;> exact quiet_same rfl (.refl _)
  | testCapture =>
    apply quiet_withActive
    intro f hf
    split
    · exact quiet_same rfl (.refl _)
    · next l hl =>
      obtain ⟨-, rfl⟩ := (f.life.beginTest_eq_ok_iff l).1 hl
      have hquiet : Quiet s (s.updateLife fun _ => { f.life with isTesting := true }) := by
        apply quiet_updateLife
        intro g hg
        rw [Option.some.inj (hf.symm.trans hg)]
      exact ⟨hquiet.takes, hquiet.owed⟩
  | downloadAfterExposure b =>
    apply quiet_withActive
    intro f _
    have hquiet : Quiet s (s.updateLife (·.setDownloads b)) := quiet_updateLife fun _ _ => rfl
    exact ⟨hquiet.takes, hquiet.owed⟩
  | reconnect | testConnection => exact quiet_same rfl (.refl _)
  | shutdown | reboot =>
    dsimp only [requestPower]
    split <;> exact quiet_same rfl (.refl _)

theorem quiet_startCommit (s : Station) : Quiet s (s.stepCall .startCommit) := by
  apply quiet_withActive
  intro f hf
  split
  · exact quiet_same rfl (.refl _)
  · exact quiet_same rfl (.refl _)
  · next l hl =>
    obtain ⟨-, rfl⟩ := (f.life.commitStart_eq_ok_true_iff l).1 hl
    have hquiet : Quiet s (s.updateLife fun _ => { f.life with phase := .started }) := by
      apply quiet_updateLife
      intro g hg
      rw [Option.some.inj (hf.symm.trans hg)]
    exact ⟨hquiet.takes, hquiet.owed⟩

/-- a launch puts the run at its beginning; there was none before that could still have a sample to record -/
theorem quiet_startLaunch (h : Inv s) (hc : s.call = some .startLaunch) : Quiet s (s.stepCall .startLaunch) := by
  apply quiet_withActive
  intro f hf
  cases s.threadFault with
  | some reason =>
    have hquiet : Quiet s (s.updateLife Lifecycle.cancelStart) := quiet_updateLife fun _ _ => rfl
    exact ⟨hquiet.takes, hquiet.owed⟩
  | none =>
    have hquiet : Quiet s (s.updateActive CaptureFunction.launch) := by
      apply quiet_updateActive
      intro g hg
      have hserved := h.active g hg
      rw [point_of_call hc] at hserved
      have hone : (g.run.toList.length + 1) + g.test.toList.length ≤ 1 := hserved.agrees.add_le_one
      have hnone : g.run = none := by
        cases hr : g.run with
        | none => rfl
        | some p =>
          rw [hr, Option.toList_some, List.length_singleton] at hone
          omega
      rw [CaptureFunction.owed, CaptureFunction.owed, hnone]
      rfl
    exact ⟨hquiet.takes, hquiet.owed⟩

/-- **No step of a command exposes anything.** -/
theorem quiet_stepCall (h : Inv s) {p : CallPoint} (hc : s.call = some p) : Quiet s (s.stepCall p) := by
  cases p with
  | begin c => exact quiet_beginCall s c
  | build c =>
    simp only [stepCall]
    split
    · exact quiet_same rfl (.refl _)
    · exact quiet_same rfl (.refl _)
    · next plan download _ =>
      have hquiet := quiet_install s plan download
      exact ⟨hquiet.takes, hquiet.owed⟩
  | startReady | testReady =>
    have hready := s.studio.camera.takes_ensureReady
    simp only [stepCall]
    split
    · next he => rw [he] at hready; exact quiet_same rfl hready
    · next he => rw [he] at hready; exact quiet_same rfl hready
  | startCommit => exact quiet_startCommit s
  | startLaunch => exact quiet_startLaunch h hc
  | raise =>
    have hquiet : Quiet s (s.updateLife Lifecycle.raiseAbort) := quiet_updateLife fun _ _ => rfl
    exact ⟨hquiet.takes, hquiet.owed⟩
  | testLaunch =>
    simp only [stepCall]
    cases s.threadFault with
    | none =>
      have hquiet : Quiet s (s.updateActive CaptureFunction.launchTest) := quiet_updateActive fun _ _ => rfl
      exact ⟨hquiet.takes, hquiet.owed⟩
    | some reason =>
      have hquiet : Quiet s (s.updateLife Lifecycle.endTest) := quiet_updateLife fun _ _ => rfl
      exact ⟨hquiet.takes, hquiet.owed⟩
  | testWithdraw e =>
    have hquiet : Quiet s (s.updateLife Lifecycle.endTest) := quiet_updateLife fun _ _ => rfl
    exact ⟨hquiet.takes, hquiet.owed⟩
  | reconnect =>
    have hreconnect := s.studio.camera.takes_reconnect
    simp only [stepCall]
    split
    · next he => rw [he] at hreconnect; exact quiet_same rfl hreconnect
    · next he => rw [he] at hreconnect; exact quiet_same rfl hreconnect
  | probe | identify | done => exact quiet_same rfl (.refl _)

theorem quiet_call (s : Station) (c : Telecommand) : Quiet s (s.step (.call c)) := by
  simp only [step]
  split_ifs
  · exact quiet_same rfl (.refl _)
  · exact .refl s

theorem quiet_proceed (h : Inv s) : Quiet s (s.step .proceed) := by
  simp only [step]
  split
  · exact .refl s
  · next p hc =>
    split_ifs
    · exact quiet_stepCall h hc
    · exact .refl s

/-! ## Events -/

/-- the counters of the camera move with the exposure, and what is owed with that of a run -/
structure Accounts (s t : Station) (new : Option Exposure) : Prop where
  takes : s.studio.camera.Takes t.studio.camera (new.map Exposure.shot)
  owed : s.owed < 2 ^ 32 → t.owed = s.owed + new.toList.countP (!·.isTest)

theorem Quiet.accounts (h : Quiet s t) : Accounts s t none :=
  ⟨h.takes, fun _ => h.owed⟩

theorem accounts_same (hf : t.functions = s.functions) (hc : s.studio.camera.Takes t.studio.camera none) :
    Accounts s t none :=
  Quiet.accounts (quiet_same hf hc)

/-- a step of a thread of one function -/
theorem accounts_stepFunction (s : Station) (i : Nat) (isTest : Bool) {new : CaptureFunction → Option Shot}
    {act : CaptureFunction → Studio → CaptureFunction × Studio}
    (htakes : ∀ f, s.studio.camera.Takes (act f s.studio).2.camera (new f))
    (howed : ∀ f : CaptureFunction, f.owed < 2 ^ 32 →
      (act f s.studio).1.owed = f.owed + ((new f).map (⟨isTest, ·⟩ : Shot → Exposure)).toList.countP (!·.isTest)) :
    Accounts s (s.stepFunction i act) ((s.functions[i]?.bind new).map (⟨isTest, ·⟩)) := by
  unfold stepFunction
  cases hf : s.functions[i]? with
  | none => exact (Quiet.refl s).accounts
  | some f =>
    obtain ⟨n, hn, hset⟩ := exists_sum_set CaptureFunction.owed hf
    rw [← owed] at hn
    constructor
    · rw [Option.bind_some, Option.map_map]
      have hshot : Exposure.shot ∘ (⟨isTest, ·⟩ : Shot → Exposure) = id := rfl
      rw [hshot, Option.map_id]
      exact htakes f
    · intro hfew
      have hact := howed f (by omega)
      rw [Option.bind_some, hn, Nat.add_assoc, ← hact]
      exact hset _

theorem exposure?_run_of_needsCamera {i : Nat}
    (h : (s.functions[i]?.any fun f => f.run.any RunPoint.needsCamera) = true) : s.exposure? (.run i) = none := by
  simp only [exposure?, Option.map_eq_none_iff, Option.bind_eq_none_iff]
  intro f hf p hp
  rw [hf, Option.any_some, hp, Option.any_some] at h
  exact RunPoint.exposure?_of_needsCamera h s.studio

theorem exposure?_test_of_needsCamera {i : Nat}
    (h : (s.functions[i]?.any fun f => f.test.any TestPoint.needsCamera) = true) : s.exposure? (.test i) = none := by
  simp only [exposure?, Option.map_eq_none_iff, Option.bind_eq_none_iff]
  intro f hf p hp
  rw [hf, Option.any_some, hp, Option.any_some] at h
  exact TestPoint.exposure?_of_needsCamera h s.studio

theorem needsCamera_of_not_mayStep {needsCamera : Bool} (h : ¬ s.mayStep needsCamera = true) : needsCamera = true := by
  cases needsCamera with
  | true => rfl
  | false => exact absurd rfl h

/-- **An event moves the counters of the camera and what is owed by the exposure it makes.** -/
theorem accounts_step (h : Inv s) (e : Event) : Accounts s (s.step e) (s.exposure? e) := by
  cases e with
  | call c => exact (quiet_call s c).accounts
  | proceed => exact (quiet_proceed h).accounts
  | run i =>
    simp only [step]
    split_ifs with hmay
    · apply accounts_stepFunction s i false (fun f => f.takes_stepRun s.studio)
      intro f hfew
      rw [f.owed_stepRun s.studio hfew]
      cases f.run.bind (·.exposure? s.studio) <;> rfl
    · rw [exposure?_run_of_needsCamera (needsCamera_of_not_mayStep hmay)]
      exact (Quiet.refl s).accounts
  | test i =>
    simp only [step]
    split_ifs with hmay
    · apply accounts_stepFunction s i true (fun f => f.takes_stepTest s.studio)
      intro f _
      rw [f.owed_stepTest s.studio]
      cases f.test.bind (·.exposure? s.studio) <;> rfl
    · rw [exposure?_test_of_needsCamera (needsCamera_of_not_mayStep hmay)]
      exact (Quiet.refl s).accounts
  | pass | threads => exact accounts_same rfl (.refl _)
  | fault f => exact accounts_same rfl (s.studio.camera.takes_suffer f)
  | set name value =>
    simp only [step]
    split_ifs
    · exact (Quiet.refl s).accounts
    · exact accounts_same rfl (s.studio.camera.takes_set name value)
  | download shot folder =>
    simp only [step]
    split_ifs
    · exact (Quiet.refl s).accounts
    · exact accounts_same rfl (s.studio.takes_fetch (some shot) folder)

end Station

end RemoteShutter
