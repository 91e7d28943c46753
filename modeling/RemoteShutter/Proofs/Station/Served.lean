/-
The active function, its threads and the command in progress.

- `CaptureFunction.AtRest`: nothing of a function is under way, so its threads make no step.
- `CaptureFunction.Served`: the shared state of a function agrees with its threads and with a command that stands at
  some point. A start that has been committed counts as a run, an announced test shot as a test shot.
- `served_stepRun`, `served_stepTest`, `served_called`, `served_launch`: threads and commands keep this, and so do
  commands that are refused a thread (`served_cancelStart`, `served_endTest`).
- `Served.atRest`: a function that a setup is about to replace is at rest.
-/
import Mathlib.Tactic
import RemoteShutter.Proofs.Station.Calls

namespace RemoteShutter

/-! ## What a command in progress stands for -/

namespace CallPoint

/-- the runs that the command is about to launch -/
def launching : CallPoint → Nat
  | startLaunch => 1
  | _ => 0

/-- the test shots that it has announced -/
def announced : CallPoint → Nat
  | testReady | testLaunch | testWithdraw _ => 1
  | _ => 0

/-- nothing that the command does next depends on what it has seen of the active function -/
def isQuiet : CallPoint → Bool
  | build _ | startLaunch | raise | testReady | testLaunch | testWithdraw _ => false
  | _ => true

theorem launching_point (p : Caller) : p.point.launching = 0 := by
  cases p <;> rfl

theorem announced_point (p : Caller) : p.point.announced = p.hasAnnounced.toNat := by
  cases p <;> rfl

theorem point_eq_raise_iff (p : Caller) : p.point = raise ↔ p = .raise := by
  cases p <;> simp [Caller.point]

theorem point_ne_startLaunch (p : Caller) : p.point ≠ startLaunch := by
  cases p <;> simp [Caller.point]

theorem point_ne_build (p : Caller) (c : Telecommand) : p.point ≠ build c := by
  cases p <;> simp [Caller.point]

end CallPoint

namespace CaptureFunction

/-- nothing of the function is under way -/
structure AtRest (f : CaptureFunction) : Prop where
  isOperating : f.isOperating = false
  run : f.run = none
  test : f.test = none

theorem AtRest.stepRun {f : CaptureFunction} (h : f.AtRest) (studio : Studio) : f.stepRun studio = (f, studio) := by
  rw [CaptureFunction.stepRun, h.run]

theorem AtRest.stepTest {f : CaptureFunction} (h : f.AtRest) (studio : Studio) : f.stepTest studio = (f, studio) := by
  rw [CaptureFunction.stepTest, h.test]

/-- the shared state agrees with the threads and with a command that stands at `p` -/
structure Served (f : CaptureFunction) (p : CallPoint) : Prop where
  agrees : f.life.Agrees (f.run.toList.length + p.launching) (f.test.toList.length + p.announced)
  raising : p = .raise → f.life.phase ≠ .idle
  building : ∀ c, p = .build c → f.isOperating = false
  launching : p = .startLaunch → f.life.isAborted = false

variable {f : CaptureFunction} {p q : CallPoint}

/-- where the command is quiet its place does not matter -/
theorem served_of_agrees (h : f.life.Agrees f.run.toList.length f.test.toList.length) (hp : p.isQuiet = true) :
    f.Served p := by
  cases p <;> simp only [CallPoint.isQuiet, Bool.false_eq_true] at hp <;>
    exact ⟨h, fun hn => (by cases hn), fun _ hn => (by cases hn), fun hn => (by cases hn)⟩

theorem Served.agrees_of_quiet (h : f.Served p) (hp : p.isQuiet = true) :
    f.life.Agrees f.run.toList.length f.test.toList.length := by
  have hagrees := h.agrees
  cases p <;> simp only [CallPoint.isQuiet, Bool.false_eq_true] at hp <;> exact hagrees

theorem Served.of_quiet (h : f.Served p) (hp : p.isQuiet = true) (hq : q.isQuiet = true) : f.Served q :=
  served_of_agrees (h.agrees_of_quiet hp) hq

theorem served_new (plan : Plan) (folder : String) (downloads : Bool) (hp : p.isQuiet = true) :
    Served { plan := plan, folder := folder, life := { downloads := downloads } } p :=
  served_of_agrees (Lifecycle.agrees_new downloads) hp

theorem Served.of_build {c : Telecommand} (h : f.Served (.build c)) (hq : q.isQuiet = true) : f.Served q :=
  served_of_agrees h.agrees hq

/-- a function that is found not operating has no threads -/
theorem Served.atRest {c : Telecommand} (h : f.Served (.build c)) : f.AtRest := by
  have hoff := h.building c rfl
  have hagrees : f.life.Agrees f.run.toList.length f.test.toList.length := h.agrees
  have hnone : ¬ 0 < f.run.toList.length + f.test.toList.length := by
    rw [← hagrees.isOperating_iff]
    exact Bool.eq_false_iff.1 hoff
  refine ⟨hoff, ?_, ?_⟩
  · cases hr : f.run with
    | none => rfl
    | some p => simp [hr] at hnone
  · cases ht : f.test with
    | none => rfl
    | some p => simp [ht] at hnone

/-- a function with a thread is operating -/
theorem Served.isOperating_of_thread (h : f.Served p) (ht : 0 < f.run.toList.length + f.test.toList.length) :
    f.isOperating = true := by
  rw [CaptureFunction.isOperating, h.agrees.isOperating_iff]
  omega

/-- so no setup is about to replace it -/
theorem Served.ne_build (h : f.Served p) (ht : 0 < f.run.toList.length + f.test.toList.length) (c : Telecommand) :
    p ≠ .build c := by
  intro hc
  have hon := h.isOperating_of_thread ht
  rw [h.building c hc] at hon
  exact Bool.false_ne_true hon

theorem served_stepRun (h : f.Served p) (studio : Studio) : (f.stepRun studio).1.Served p := by
  unfold stepRun
  cases hr : f.run with
  | none => exact h
  | some r =>
    have hbuild := h.ne_build (by simp [hr])
    have hagrees := h.agrees
    rw [hr, Option.toList_some, List.length_singleton, Nat.add_comm 1] at hagrees
    have hs : f.life.phase = .started := hagrees.started_iff.2 (Nat.succ_pos _)
    have hlaunch : p ≠ .startLaunch := by
      rintro rfl
      have hle := hagrees.add_le_one
      simp only [CallPoint.launching] at hle
      omega
    rcases r.step_life f.plan f.folder f.life studio with ⟨hq, hl⟩ | ⟨q, hq, hk⟩
    · refine ⟨?_, fun _ => ?_, fun c hc => absurd hc (hbuild c), fun hp => absurd hp hlaunch⟩
      · simp only [hq, hl, Option.toList_none, List.length_nil, Nat.zero_add]
        exact Lifecycle.agrees_finish hagrees
      · simp only [hl]
        exact Phase.noConfusion
    · refine ⟨?_, fun _ => ?_, fun c hc => absurd hc (hbuild c), fun hp => absurd hp hlaunch⟩
      · simp only [hq, Option.toList_some, List.length_singleton, Nat.add_comm 1]
        exact hagrees.keeps hk
      · simp only [hk.phase, hs]
        exact Phase.noConfusion

theorem served_stepTest (h : f.Served p) (studio : Studio) : (f.stepTest studio).1.Served p := by
  unfold stepTest
  cases ht : f.test with
  | none => exact h
  | some t =>
    have hbuild := h.ne_build (by simp [ht])
    have hagrees := h.agrees
    rw [ht, Option.toList_some, List.length_singleton, Nat.add_comm 1] at hagrees
    rcases t.step_life f.plan f.folder f.life studio with ⟨hq, hl⟩ | ⟨q, hq, hl⟩
    · refine ⟨?_, fun hp => ?_, fun c hc => absurd hc (hbuild c), fun hp => ?_⟩
      · simp only [hq, hl, Option.toList_none, List.length_nil, Nat.zero_add]
        exact Lifecycle.agrees_endTest hagrees
      · simp only [hl]
        exact h.raising hp
      · simp only [hl]
        exact h.launching hp
    · refine ⟨?_, fun hp => ?_, fun c hc => absurd hc (hbuild c), fun hp => ?_⟩
      · simp only [hq, hl, Option.toList_some, List.length_singleton, Nat.add_comm 1]
        exact hagrees
      · simp only [hl]
        exact h.raising hp
      · simp only [hl]
        exact h.launching hp

/-- **Each piece of a call on the active function keeps the agreement.** -/
theorem served_called {c : Caller} (h : f.Served c.point) (camera : Camera) :
    (Station.called f (c.step f.life camera)).Served (Station.nextPoint (c.step f.life camera)) := by
  have hagrees := h.agrees
  rw [CallPoint.launching_point, CallPoint.announced_point] at hagrees
  obtain ⟨hlife, hraising⟩ :=
    c.agrees_step camera hagrees fun hraise => h.raising ((CallPoint.point_eq_raise_iff c).2 hraise)
  set r := c.step f.life camera
  have hle := hlife.add_le_one
  unfold Station.called Station.nextPoint
  unfold Called.runs Called.tests at hlife hle
  have hbuild : ∀ c, r.caller.point ≠ .build c := CallPoint.point_ne_build r.caller
  have hlaunch : r.caller.point ≠ .startLaunch := CallPoint.point_ne_startLaunch r.caller
  cases hl : r.launched with
  | none =>
    simp only [hl, reduceCtorEq, if_false] at hlife ⊢
    refine ⟨?_, fun hp => hraising ((CallPoint.point_eq_raise_iff _).1 hp), fun c hc => absurd hc (hbuild c),
      fun hp => absurd hp hlaunch⟩
    rw [CallPoint.launching_point, CallPoint.announced_point]
    exact hlife
  | some t =>
    cases t with
    | run =>
      -- the run is launched in the command's next step, and no test shot is announced beside it
      simp only [hl, if_true, List.length_singleton] at hle
      have hnone : r.caller.hasAnnounced.toNat = 0 := by omega
      simp only [hl, if_true, List.length_singleton, hnone] at hlife ⊢
      refine ⟨hlife, fun hn => (by cases hn), fun _ hn => (by cases hn), fun _ => ?_⟩
      rcases c.step_phase f.life camera with ⟨-, hidle, -, hsame⟩ | ⟨hruns, -⟩
      · have habort := mt hagrees.aborted (not_not.2 hidle)
        exact hsame.trans (Bool.eq_false_iff.2 habort)
      · rw [Called.runs, if_pos hl] at hruns
        cases hruns
    | test =>
      simp only [hl, if_true, List.length_singleton] at hle
      have hnone : f.test.toList.length = 0 := by omega
      simp only [hl, if_true, Option.some.injEq, reduceCtorEq, if_false, List.length_singleton, hnone] at hlife ⊢
      refine ⟨?_, fun hp => hraising ((CallPoint.point_eq_raise_iff _).1 hp), fun c hc => absurd hc (hbuild c),
        fun hp => absurd hp hlaunch⟩
      rw [CallPoint.launching_point, CallPoint.announced_point]
      exact hlife

/-- a run that is about to be launched is the only thread -/
theorem served_launch (h : f.Served .startLaunch) (hq : q.isQuiet = true) : f.launch.Served q := by
  have hagrees : f.life.Agrees (f.run.toList.length + 1) f.test.toList.length := h.agrees
  have hle := hagrees.add_le_one
  have hnone : f.run.toList.length = 0 := by omega
  rw [hnone] at hagrees
  exact served_of_agrees hagrees hq

/-- a run that is not launched leaves no thread, and its function idle again -/
theorem served_cancelStart (h : f.Served .startLaunch) (hq : q.isQuiet = true) :
    { f with life := f.life.cancelStart }.Served q := by
  have hagrees : f.life.Agrees (f.run.toList.length + 1) f.test.toList.length := h.agrees
  exact served_of_agrees (Lifecycle.agrees_cancelStart hagrees (h.launching rfl)) hq

/-- a test shot that is not launched is withdrawn -/
theorem served_endTest (h : f.Served .testLaunch) (hq : q.isQuiet = true) :
    { f with life := f.life.endTest }.Served q := by
  have hagrees : f.life.Agrees f.run.toList.length (f.test.toList.length + 1) := h.agrees
  exact served_of_agrees (Lifecycle.agrees_endTest hagrees) hq

theorem Served.setDownloads (h : f.Served p) (hp : p.isQuiet = true) (b : Bool) (hq : q.isQuiet = true) :
    Served { f with life := f.life.setDownloads b } q :=
  served_of_agrees (Lifecycle.agrees_setDownloads (h.agrees_of_quiet hp) b) hq

/-- a function with a run is told to stop -/
theorem Served.raiseAbort (h : f.Served p) (hp : p.isQuiet = true) (hcan : f.life.canAbort = true) :
    { f with life := f.life.raiseAbort }.Served p := by
  have hstarted : f.life.phase = .started := of_decide_eq_true hcan
  refine served_of_agrees (Lifecycle.agrees_raiseAbort (h.agrees_of_quiet hp) ?_) hp
  rw [hstarted]
  exact Phase.noConfusion

end CaptureFunction

end RemoteShutter
