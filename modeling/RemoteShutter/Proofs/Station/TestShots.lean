/-
Test shots beside the sequence.

A test shot has a command, which ends with its answer, and a thread, which the command launches if the camera is ready.
Meanwhile other commands come in, threads and faults go on.
- `Announces`: what the command makes of the active function, point by point; `asks_step`: it makes no more of it,
  whatever comes in between.
- `testingAt`: the active function while the thread is under way; `shoots_step`: commands that come in meanwhile change
  nothing but the download flag.
- `exists_first`: a stage that each step of one kind brings nearer to its end does end.
- `test_leaves_functions`: the functions after a test shot are those before it, and one picture has been exposed at most.
-/
import Mathlib.Tactic
import RemoteShutter.Proofs.Station.Exposures
import RemoteShutter.Proofs.Station.Readiness

namespace RemoteShutter

/-! ## The function that is borrowed -/

namespace CaptureFunction

/-- f with a test shot announced -/
def announced (f : CaptureFunction) : CaptureFunction :=
  { f with life := { f.life with isTesting := true } }

/-- f with a test shot whose thread stands at p, or without one, and with downloads as b says; the rest is its own -/
def testingAt (f : CaptureFunction) (p : Option TestPoint) (b : Bool) : CaptureFunction :=
  { f with life := { f.life with isTesting := p.isSome, downloads := b }, test := p }

variable {f : CaptureFunction}

theorem AtRest.isTesting (h : f.AtRest) : f.life.isTesting = false :=
  (Bool.or_eq_false_iff.1 h.isOperating).2

theorem AtRest.phase (h : f.AtRest) : f.life.phase ≠ .started := by
  have hphase := (Bool.or_eq_false_iff.1 h.isOperating).1
  simpa using hphase

theorem AtRest.testingAt_none (h : f.AtRest) : f.testingAt none f.life.downloads = f := by
  have htesting := h.isTesting
  have htest := h.test
  rcases f with ⟨plan, folder, life, run, test⟩
  simp only at htesting htest
  subst htest
  simp only [testingAt, Option.isSome_none, ← htesting]

theorem AtRest.endTest_announced (h : f.AtRest) : { f.announced with life := f.announced.life.endTest } = f := by
  have htesting := h.isTesting
  simp only [announced, Lifecycle.endTest, ← htesting]

/-- a function that is not operating is at rest where no command has announced or committed anything -/
theorem Served.atRest_of_quiet {p : CallPoint} (h : f.Served p) (hp : p.isQuiet = true) (hoff : f.isOperating = false) :
    f.AtRest := by
  have hbuild : f.Served (.build .stop) :=
    ⟨h.agrees_of_quiet hp, fun hn => (by cases hn), fun _ _ => hoff, fun hn => (by cases hn)⟩
  exact hbuild.atRest

end CaptureFunction

namespace Camera

variable {c c' c'' : Camera} {new : Option Shot}

theorem Takes.of_none (h : Takes c c' none) (h' : Takes c' c'' new) : Takes c c'' new := by
  obtain ⟨hshots, hcaptures, hremote⟩ := takes_none_iff.1 h
  have hcounted := h'.counted
  rw [hcaptures, hremote] at hcounted
  exact ⟨hshots ▸ h'.shots, hcounted, hshots ▸ h'.named⟩

theorem Takes.with_none (h : Takes c c' new) (h' : Takes c' c'' none) : Takes c c'' new := by
  obtain ⟨hshots, hcaptures, hremote⟩ := takes_none_iff.1 h'
  obtain ⟨m, n, hsum, hm, hn⟩ := h.counted
  exact ⟨hshots.trans h.shots, ⟨m, n, hsum, hcaptures.trans hm, hremote.trans hn⟩, h.named⟩

end Camera

namespace Station

variable {s t u : Station} {old : List CaptureFunction} {f g : CaptureFunction} {p : CallPoint}

/-! ## The command -/

/-- where the command of a test shot stands, and what it has made of the active function f -/
inductive Announces (f : CaptureFunction) : CallPoint → CaptureFunction → Prop where
  | begin : Announces f (.begin .testCapture) f
  | ready : Announces f .testReady f.announced
  | launch : Announces f .testLaunch f.announced
  | withdraw (e : CameraError) : Announces f (.testWithdraw e) f.announced
  | granted : Announces f (.done (.ok ())) (f.testingAt (some .begin) f.life.downloads)
  | refused (e : DispatchError) : Announces f (.done (.error e)) f

/-- the steps that are left until the command of a test shot is answered -/
def stepsFrom : CallPoint → Nat
  | .begin _ => 3
  | .testReady => 2
  | .testLaunch | .testWithdraw _ => 1
  | _ => 0

def stepsLeft (s : Station) : Nat :=
  stepsFrom s.point

theorem Announces.no_threads (h : Announces f p g) (hrest : f.AtRest) (hp : ∀ o, p ≠ .done o) :
    g.run = none ∧ g.test = none := by
  cases h with
  | granted | refused => exact absurd rfl (hp _)
  | begin | ready | launch | withdraw => exact ⟨hrest.run, hrest.test⟩

/-- a step of the command brings it nearer to its answer -/
theorem announces_stepCall (h : Announces f p g) (hrest : f.AtRest) (hs : s.functions = old ++ [g])
    (hp : ∀ o, p ≠ .done o) : ∃ p' g', (s.stepCall p).call = some p' ∧ (s.stepCall p).functions = old ++ [g'] ∧
      Announces f p' g' ∧ stepsFrom p' < stepsFrom p := by
  cases h with
  | granted | refused => exact absurd rfl (hp _)
  | begin =>
    obtain ⟨hf, -, hc⟩ := stepCall_point hs .test (by simp)
    have hbegin : f.life.beginTest = .ok { f.life with isTesting := true } := by
      rw [Lifecycle.beginTest_eq_ok_iff]
      exact ⟨hrest.isOperating, rfl⟩
    simp only [Caller.step, hbegin] at hf hc
    exact ⟨_, _, hc, hf, .ready, Nat.lt_succ_self 2⟩
  | ready =>
    obtain ⟨hf, -, hc⟩ := stepCall_point hs .testReady (by simp)
    simp only [Caller.step] at hf hc
    rcases hready : s.studio.camera.ensureReady with ⟨e | _, camera, log⟩
    · simp only [hready] at hf hc
      exact ⟨_, _, hc, hf, .withdraw e, Nat.lt_succ_self 1⟩
    · simp only [hready] at hf hc
      exact ⟨_, _, hc, hf, .launch, Nat.lt_succ_self 1⟩
  | launch =>
    cases hfault : s.threadFault with
    | none =>
      obtain ⟨hf, -, hc⟩ := stepCall_point hs .testLaunch fun _ => hfault
      exact ⟨_, _, hc, hf, .granted, Nat.zero_lt_one⟩
    | some reason =>
      obtain ⟨hf, -, hc⟩ := stepCall_testLaunch_of_fault hs hfault
      rw [hrest.endTest_announced] at hf
      exact ⟨_, _, hc, hf, .refused _, Nat.zero_lt_one⟩
  | withdraw e =>
    obtain ⟨hf, -, hc⟩ := stepCall_point hs (.testWithdraw e) (by simp)
    have hback : called f.announced ((Caller.testWithdraw e).step f.announced.life s.studio.camera) = f :=
      hrest.endTest_announced
    rw [hback] at hf
    exact ⟨_, _, hc, hf, .refused _, Nat.zero_lt_one⟩

/-- from s on the command of a test shot has been in progress, up to its answer -/
structure Asks (s : Station) (old : List CaptureFunction) (f : CaptureFunction) (u : Station) : Prop where
  inv : Inv u
  announces : ∃ p g, u.call = some p ∧ u.functions = old ++ [g] ∧ Announces f p g
  takes : s.studio.camera.Takes u.studio.camera none

theorem asks_call (h : Inv s) (hfree : s.isFree = true) (hs : s.functions = old ++ [f]) :
    Asks s old f (s.step (.call .testCapture)) := by
  refine ⟨(follows_step h _).inv, ⟨.begin .testCapture, f, ?_, ?_, .begin⟩, (quiet_call s _).takes⟩
  · simp only [step, hfree, if_true]
    rfl
  · simp only [step, hfree, if_true]
    exact hs

theorem ne_done_of_not_free (hfree : s.isFree = false) (hc : s.call = some p) (o : Outcome) : p ≠ .done o := by
  rintro rfl
  simp [isFree, hc] at hfree

theorem exposure?_of_unmanned (h : s.Unmanned) (e : Event) : s.exposure? e = none := by
  cases e with
  | run i | test i =>
    simp only [exposure?, Option.map_eq_none_iff, Option.bind_eq_none_iff]
    intro f hf p hp
    obtain ⟨hrun, htest⟩ := h f (List.mem_of_getElem? hf)
    simp_all
  | _ => rfl

/-- **Whatever happens, the command of a test shot goes on alone.** -/
theorem asks_step (hrest : f.AtRest) (h : Asks s old f u) (hbusy : u.isFree = false) (e : Event) :
    Asks s old f (u.step e) ∧ (u.step e).stepsLeft + (if e = .proceed then 1 else 0) ≤ u.stepsLeft := by
  obtain ⟨p, g, hcall, hfunctions, hannounces⟩ := h.announces
  have hp := ne_done_of_not_free hbusy hcall
  have hunmanned := h.inv.unmanned hfunctions (hannounces.no_threads hrest hp)
  have htakes : s.studio.camera.Takes (u.step e).studio.camera none := by
    have hstep := (accounts_step h.inv e).takes
    rw [exposure?_of_unmanned hunmanned] at hstep
    exact h.takes.trans hstep
  have hinv := (follows_step h.inv e).inv
  cases hcmd : e.isCommand with
  | false =>
    have hsame := call_besides (s := u) hcmd
    refine ⟨⟨hinv, ⟨p, g, hsame.trans hcall, (hunmanned.functions_step hcmd).trans hfunctions, hannounces⟩, htakes⟩, ?_⟩
    have hne : e ≠ .proceed := by
      rintro rfl
      cases hcmd
    simp [stepsLeft, point, hsame, hne]
  | true =>
    cases e with
    | call c =>
      have hsame : u.step (.call c) = u := by simp [step, hbusy]
      rw [hsame]
      exact ⟨h, by simp⟩
    | proceed =>
      have hnow : u.step .proceed = u.stepCall p := by
        simp only [step, hcall, mayStep, hunmanned.isCameraHeld, Bool.and_false, Bool.not_false, if_true]
      rw [hnow] at hinv htakes ⊢
      obtain ⟨p', g', hcall', hfunctions', hnext, hless⟩ := announces_stepCall hannounces hrest hfunctions hp
      refine ⟨⟨hinv, ⟨p', g', hcall', hfunctions', hnext⟩, htakes⟩, ?_⟩
      rw [if_pos rfl, stepsLeft, stepsLeft, point_of_call hcall', point_of_call hcall]
      exact hless
    | _ => cases hcmd

/-! ## The thread -/

/-- a command that stands there neither replaces a function that is operating, nor starts, stops or tests it -/
def isAside : CallPoint → Bool
  | .begin _ | .reconnect | .probe | .identify _ _ | .done _ => true
  | _ => false

/-- the order to download each picture, or not -/
def Event.setsDownloads : Event → Bool
  | .call (.downloadAfterExposure _) => true
  | _ => false

/-- the command has gone on from p without touching the test shot -/
structure GoesAside (old : List CaptureFunction) (f : CaptureFunction) (q : TestPoint) (b : Bool) (p : CallPoint)
    (t : Station) : Prop where
  aside : isAside t.point = true
  plain : ∀ c, t.point ≠ .begin c
  function : ∃ b', t.functions = old ++ [f.testingAt (some q) b'] ∧
    ((∀ d, p ≠ .begin (.downloadAfterExposure d)) → b' = b)

variable {q : TestPoint} {b : Bool}

theorem goesAside_same {p' : CallPoint} (hc : t.call = some p') (haside : isAside p' = true) (hplain : ∀ c, p' ≠ .begin c)
    (hf : t.functions = old ++ [f.testingAt (some q) b]) : GoesAside old f q b p t := by
  have hpoint := point_of_call hc
  refine ⟨?_, ?_, b, hf, fun _ => rfl⟩
  · rw [hpoint]
    exact haside
  · intro c
    rw [hpoint]
    exact hplain c

/-- it is answered -/
theorem goesAside_done {o : Outcome} (hc : t.call = some (.done o)) (hf : t.functions = old ++ [f.testingAt (some q) b]) :
    GoesAside old f q b p t := by
  apply goesAside_same hc rfl
  · intro c hbegin
    cases hbegin
  · exact hf

/-- a call on the active function is refused, or does nothing -/
theorem goesAside_point (c : Caller) {o : Except FunctionError Unit} (hs : s.functions = old ++ [f.testingAt (some q) b])
    (hlaunch : c ≠ .testLaunch) (hc : c.step (f.testingAt (some q) b).life s.studio.camera =
      ⟨.done o, (f.testingAt (some q) b).life, s.studio.camera, none⟩) :
    GoesAside old f q b p (s.stepCall c.point) := by
  obtain ⟨hf, -, hcall⟩ := stepCall_point hs c fun h => absurd h hlaunch
  rw [hc] at hf hcall
  exact goesAside_done hcall hf

theorem goesAside_setup {c : Telecommand} (hsetup : c.isSetup = true)
    (hs : s.functions = old ++ [f.testingAt (some q) b]) : GoesAside old f q b p (s.stepCall (.begin c)) := by
  obtain ⟨hf, -, hc⟩ := stepCall_setup (s := s) hsetup
  have hon : s.active?.any CaptureFunction.isOperating = true := by
    rw [active?_eq hs, Option.any_some, CaptureFunction.isOperating, Lifecycle.isOperating_iff]
    exact .inr rfl
  rw [if_pos hon] at hc
  exact goesAside_done hc (hf.trans hs)

theorem goesAside_begin (c : Telecommand) (hrest : f.AtRest) (hs : s.functions = old ++ [f.testingAt (some q) b]) :
    GoesAside old f q b (.begin c) (s.stepCall (.begin c)) := by
  cases c with
  | sequencerSetup | intervalometerSetup => exact goesAside_setup rfl hs
  | start => exact goesAside_point .start hs (by simp) rfl
  | testCapture =>
    apply goesAside_point .test hs (by simp)
    simp only [Caller.step, Lifecycle.beginTest, Lifecycle.isOperating, CaptureFunction.testingAt, Option.isSome_some,
      Bool.or_true, if_true]
    rfl
  | stop =>
    apply goesAside_point .abort hs (by simp)
    have hcan : (f.testingAt (some q) b).life.canAbort = false := decide_eq_false hrest.phase
    simp only [Caller.step, hcan, Bool.false_eq_true, if_false]
    rfl
  | downloadAfterExposure d =>
    simp only [stepCall, beginCall]
    rw [withActive_eq (s := s.say _) hs]
    refine ⟨rfl, fun c => CallPoint.noConfusion, d, functions_updateActive (s := s.say _) hs _, ?_⟩
    intro hother
    exact absurd rfl (hother d)
  | reconnect | testConnection => exact goesAside_same rfl rfl (fun c => CallPoint.noConfusion) hs
  | shutdown | reboot =>
    simp only [stepCall, beginCall, requestPower]
    split <;> exact goesAside_done rfl hs

/-- **A command that comes in while a test shot is under way is refused, or does without the function**, except for the
order to download. -/
theorem goesAside_stepCall (hp : isAside p = true) (hrest : f.AtRest)
    (hs : s.functions = old ++ [f.testingAt (some q) b]) : GoesAside old f q b p (s.stepCall p) := by
  cases p with
  | begin c => exact goesAside_begin c hrest hs
  | reconnect =>
    simp only [stepCall]
    split <;> exact goesAside_done rfl hs
  | probe => exact goesAside_same rfl rfl (fun c => CallPoint.noConfusion) hs
  | identify | done => exact goesAside_done rfl hs
  | _ => cases hp

/-- the capture of the test shot is still to come -/
def mayExpose : TestPoint → Bool
  | .leave => false
  | _ => true

/-- the steps that the thread of a test shot has left -/
def threadSteps : Option TestPoint → Nat
  | some .begin => 4
  | some (.aim _) => 3
  | some (.fire _ _) => 2
  | some .leave => 1
  | none => 0

/-- a step of the thread brings it nearer to its end, and one of its steps may expose -/
theorem stepTest_testingAt (f : CaptureFunction) (q : TestPoint) (b : Bool) (studio : Studio) :
    ∃ q' new, ((f.testingAt (some q) b).stepTest studio).1 = f.testingAt q' b ∧
      threadSteps q' < threadSteps (some q) ∧
      studio.camera.Takes ((f.testingAt (some q) b).stepTest studio).2.camera new ∧
      (q'.any mayExpose = true → new = none) ∧ (mayExpose q = false → q' = none ∧ new = none) := by
  have htakes := (f.testingAt (some q) b).takes_stepTest studio
  cases q with
  | begin =>
    exact ⟨some (.aim (if b then some f.folder else none)), _, rfl, Nat.lt_succ_self 3, htakes, fun _ => rfl,
      fun hmay => (by cases hmay)⟩
  | aim destination =>
    cases hmode : studio.camera.exposureMode with
    | ok mode =>
      refine ⟨some (.fire destination mode), _, ?_, Nat.lt_succ_self 2, htakes, fun _ => rfl, fun hmay => (by cases hmay)⟩
      simp only [CaptureFunction.stepTest, CaptureFunction.testingAt, TestPoint.step, hmode, Option.isSome_some]
    | error e =>
      refine ⟨some .leave, _, ?_, (by simp [threadSteps]), htakes, fun _ => rfl, fun hmay => (by cases hmay)⟩
      simp only [CaptureFunction.stepTest, CaptureFunction.testingAt, TestPoint.step, hmode, Option.isSome_some]
  | fire destination mode =>
    exact ⟨some .leave, _, rfl, Nat.lt_succ_self 1, htakes, fun hmay => (by cases hmay), fun hmay => (by cases hmay)⟩
  | leave => exact ⟨none, _, rfl, Nat.zero_lt_one, htakes, fun _ => rfl, fun _ => ⟨rfl, rfl⟩⟩

/-- the command in progress is not about to say whether to download -/
def KeepsFlag (s : Station) : Prop :=
  ∀ d, s.point ≠ .begin (.downloadAfterExposure d)

/-- from s on the thread of a test shot of f has been under way, at most to its end, with these events -/
structure Shoots (s : Station) (old : List CaptureFunction) (f : CaptureFunction) (es : List Event) (u : Station) :
    Prop where
  inv : Inv u
  aside : isAside u.point = true
  thread : ∃ q b, u.functions = old ++ [f.testingAt q b] ∧
    ((∀ e ∈ es, e.setsDownloads = false) → b = f.life.downloads ∧ u.KeepsFlag) ∧
    ∃ new, s.studio.camera.Takes u.studio.camera new ∧ (q.any mayExpose = true → new = none)

/-- the steps of the thread that are left -/
def threadLeft (s : Station) : Nat :=
  threadSteps (s.active?.bind CaptureFunction.test)

/-- a test shot is under way -/
def hasTest (s : Station) : Bool :=
  (s.active?.bind CaptureFunction.test).isSome

theorem threadLeft_eq {q : Option TestPoint} (h : s.functions = old ++ [f.testingAt q b]) : s.threadLeft = threadSteps q := by
  rw [threadLeft, active?_eq h]
  rfl

theorem hasTest_eq {q : Option TestPoint} (h : s.functions = old ++ [f.testingAt q b]) : s.hasTest = q.isSome := by
  rw [hasTest, active?_eq h]
  rfl

/-- where no function has a run, none makes a step -/
theorem step_run_eq_self (h : ∀ g ∈ s.functions, g.run = none) (i : Nat) : s.step (.run i) = s := by
  cases hf : s.functions[i]? with
  | none => simp only [step, stepFunction, hf, ite_self]
  | some g =>
    have hrun : g.stepRun s.studio = (g, s.studio) := by
      rw [CaptureFunction.stepRun, h g (List.mem_of_getElem? hf)]
    simp only [step, stepFunction_eq_self hf hrun, ite_self]

/-- the threads of functions that were replaced make no step, nor do those of functions that do not exist -/
theorem step_test_eq_self (h : Inv s) {i : Nat} (hi : i + 1 ≠ s.functions.length) : s.step (.test i) = s := by
  cases hf : s.functions[i]? with
  | none => simp only [step, stepFunction, hf, ite_self]
  | some g =>
    have hlt := (List.getElem?_eq_some_iff.1 hf).1
    exact (h.step_eq_self hf (by omega)).2

/-- nobody else has the camera when the test shot needs it -/
theorem step_test_eq (h : Inv s) (hrest : f.AtRest) (hs : s.functions = old ++ [f.testingAt (some q) b]) :
    s.step (.test old.length) = s.stepFunction old.length CaptureFunction.stepTest := by
  have hthis : s.functions[old.length]? = some (f.testingAt (some q) b) := by rw [hs, List.getElem?_concat_length]
  have hmay : s.mayStep q.needsCamera = true := by
    cases q with
    | aim destination =>
      have hheld : s.isCameraHeld = false := by
        apply List.any_eq_false.2
        intro g hg
        rw [hs, List.mem_append, List.mem_singleton] at hg
        rcases hg with hg | rfl
        · have hold := ((inv_concat hs).1 h).1 g hg
          rw [CaptureFunction.holdsCamera, hold.run, hold.test]
          exact Bool.false_ne_true
        · simp [CaptureFunction.holdsCamera, CaptureFunction.testingAt, hrest.run, TestPoint.holdsCamera]
      simp [mayStep, hheld]
    | _ => rfl
  simp only [step, hthis, Option.any_some, CaptureFunction.testingAt, hmay, if_true]

/-- an event leaves a test shot where it is and exposes nothing -/
structure Stays (old : List CaptureFunction) (f : CaptureFunction) (q : TestPoint) (b : Bool) (u : Station) (e : Event)
    (t : Station) : Prop where
  aside : isAside t.point = true
  function : ∃ b', t.functions = old ++ [f.testingAt (some q) b'] ∧
    (e.setsDownloads = false → u.KeepsFlag → b' = b ∧ t.KeepsFlag)
  takes : u.studio.camera.Takes t.studio.camera none

theorem stays_same {e : Event} (haside : isAside u.point = true) (hu : u.functions = old ++ [f.testingAt (some q) b]) :
    Stays old f q b u e u :=
  ⟨haside, ⟨b, hu, fun _ hkeeps => ⟨rfl, hkeeps⟩⟩, .refl _⟩

/-- what comes from outside does not get at the functions -/
theorem stays_outside {e : Event} (haside : isAside u.point = true) (hu : u.functions = old ++ [f.testingAt (some q) b])
    (hcall : t.call = u.call) (hf : t.functions = u.functions) (htakes : u.studio.camera.Takes t.studio.camera none) :
    Stays old f q b u e t := by
  have hpoint : t.point = u.point := by rw [point, point, hcall]
  refine ⟨hpoint ▸ haside, ⟨b, hf.trans hu, ?_⟩, htakes⟩
  intro _ hkeeps
  refine ⟨rfl, ?_⟩
  intro d
  rw [hpoint]
  exact hkeeps d

theorem stays_call (haside : isAside u.point = true) (hu : u.functions = old ++ [f.testingAt (some q) b])
    (c : Telecommand) : Stays old f q b u (.call c) (u.step (.call c)) := by
  simp only [step]
  split_ifs
  · refine ⟨rfl, ⟨b, hu, ?_⟩, .refl _⟩
    intro hother _
    refine ⟨rfl, ?_⟩
    intro d hd
    obtain rfl : c = .downloadAfterExposure d := CallPoint.begin.inj hd
    cases hother
  · exact stays_same haside hu

theorem stays_proceed (hinv : Inv u) (hrest : f.AtRest) (haside : isAside u.point = true)
    (hu : u.functions = old ++ [f.testingAt (some q) b]) : Stays old f q b u .proceed (u.step .proceed) := by
  have hquiet := (quiet_proceed hinv).takes
  cases hc : u.call with
  | none =>
    have hsame : u.step .proceed = u := by simp only [step, hc]
    rw [hsame]
    exact stays_same haside hu
  | some p =>
    rcases step_proceed_cases hc with hwait | hnow
    · rw [hwait]
      exact stays_same haside hu
    · rw [point_of_call hc] at haside
      rw [hnow] at hquiet ⊢
      obtain ⟨haside', hplain, b', hfunctions, hb⟩ := goesAside_stepCall haside hrest hu
      refine ⟨haside', ⟨b', hfunctions, ?_⟩, hquiet⟩
      intro _ hkeeps
      rw [KeepsFlag, point_of_call hc] at hkeeps
      exact ⟨hb hkeeps, fun d => hplain _⟩

/-- **Only its own thread brings a test shot on.** -/
theorem stays_step (hinv : Inv u) (hrest : f.AtRest) (haside : isAside u.point = true)
    (hu : u.functions = old ++ [f.testingAt (some q) b]) {e : Event} (he : e ≠ .test old.length) :
    Stays old f q b u e (u.step e) := by
  cases e with
  | call c => exact stays_call haside hu c
  | proceed => exact stays_proceed hinv hrest haside hu
  | run i =>
    rw [step_run_eq_self]
    · exact stays_same haside hu
    · intro g hg
      rw [hu, List.mem_append, List.mem_singleton] at hg
      rcases hg with hg | rfl
      · exact (((inv_concat hu).1 hinv).1 g hg).run
      · exact hrest.run
  | test i =>
    rw [step_test_eq_self hinv]
    · exact stays_same haside hu
    · intro hlast
      rw [hu, List.length_append, List.length_singleton, Nat.add_right_cancel_iff] at hlast
      exact he (by rw [hlast])
  | pass | threads => exact stays_outside haside hu rfl rfl (.refl _)
  | fault d => exact stays_outside haside hu rfl rfl (u.studio.camera.takes_suffer d)
  | set name value =>
    simp only [step]
    split_ifs
    · exact stays_same haside hu
    · exact stays_outside haside hu rfl rfl (u.studio.camera.takes_set name value)
  | download shot folder =>
    simp only [step]
    split_ifs
    · exact stays_same haside hu
    · exact stays_outside haside hu rfl rfl (u.studio.takes_fetch (some shot) folder)

/-- a step of the thread -/
theorem shoots_test {es : List Event} (hrest : f.AtRest) (h : Shoots s old f es u)
    (hu : u.functions = old ++ [f.testingAt (some q) b]) :
    Shoots s old f (es ++ [.test old.length]) (u.step (.test old.length)) ∧
      (u.step (.test old.length)).threadLeft < u.threadLeft := by
  obtain ⟨q₀, b₀, hu₀, hflag, new, htakes, hnew⟩ := h.thread
  have hsame : f.testingAt q₀ b₀ = f.testingAt (some q) b := by simpa using hu₀.symm.trans hu
  obtain rfl : q₀ = some q := congrArg CaptureFunction.test hsame
  obtain rfl : b₀ = b := congrArg (·.life.downloads) hsame
  have hinv := (follows_step h.inv (.test old.length)).inv
  have hpoint : (u.step (.test old.length)).point = u.point := by rw [point, point, call_besides rfl]
  have hthis : u.functions[old.length]? = some (f.testingAt (some q) b₀) := by rw [hu, List.getElem?_concat_length]
  rw [step_test_eq h.inv hrest hu] at hinv hpoint ⊢
  obtain ⟨q', new', hstep, hless, htakes', hnew', hspent⟩ := stepTest_testingAt f q b₀ u.studio
  have hfunctions : (u.stepFunction old.length CaptureFunction.stepTest).functions = old ++ [f.testingAt q' b₀] := by
    simp [stepFunction, hu, hstep]
  have hstudio : (u.stepFunction old.length CaptureFunction.stepTest).studio =
      ((f.testingAt (some q) b₀).stepTest u.studio).2 := by
    simp [stepFunction, hthis]
  constructor
  · refine ⟨hinv, hpoint ▸ h.aside, q', b₀, hfunctions, ?_, ?_⟩
    · intro hes
      obtain ⟨hb, hkeeps⟩ := hflag fun e he => hes e (List.mem_append_left _ he)
      exact ⟨hb, fun d => hpoint ▸ hkeeps d⟩
    · rw [hstudio]
      cases hmay : mayExpose q with
      | true =>
        -- nothing has been exposed yet, and perhaps now
        rw [hnew hmay] at htakes
        exact ⟨new', htakes.of_none htakes', hnew'⟩
      | false =>
        -- the thread only takes its leave
        obtain ⟨rfl, rfl⟩ := hspent hmay
        exact ⟨new, htakes.with_none htakes', fun hmay => (by cases hmay)⟩
  · rw [threadLeft_eq hfunctions, threadLeft_eq hu]
    exact hless

/-- **Whatever happens, the thread of a test shot goes on alone.** -/
theorem shoots_step {es : List Event} (hrest : f.AtRest) (h : Shoots s old f es u) (hon : u.hasTest = true)
    (e : Event) : Shoots s old f (es ++ [e]) (u.step e) ∧
      (u.step e).threadLeft + (if e = .test old.length then 1 else 0) ≤ u.threadLeft := by
  obtain ⟨q, b, hu, hflag, new, htakes, hnew⟩ := h.thread
  rw [hasTest_eq hu] at hon
  obtain ⟨q, rfl⟩ := Option.isSome_iff_exists.1 hon
  split_ifs with he
  · subst he
    exact shoots_test hrest h hu
  · have hinv := (follows_step h.inv e).inv
    obtain ⟨haside, ⟨b', hfunctions, hkept⟩, hquiet⟩ := stays_step h.inv hrest h.aside hu he
    constructor
    · refine ⟨hinv, haside, some q, b', hfunctions, ?_, new, htakes.with_none hquiet, hnew⟩
      intro hes
      obtain ⟨hb, hkeeps⟩ := hflag fun e' he' => hes e' (List.mem_append_left _ he')
      obtain ⟨hb', hkeeps'⟩ := hkept (hes e (by simp)) hkeeps
      exact ⟨hb'.trans hb, hkeeps'⟩
    · rw [threadLeft_eq hfunctions, threadLeft_eq hu]
      exact le_rfl

/-! ## Stages -/

/-- along es, except perhaps at its end, something is not over -/
def GoesOn (ended : Station → Bool) (s : Station) (es : List Event) : Prop :=
  ∀ n < es.length, ended (s.steps (es.take n)) = false

instance (ended : Station → Bool) (s : Station) (es : List Event) : Decidable (GoesOn ended s es) :=
  inferInstanceAs (Decidable (∀ n < es.length, ended (s.steps (es.take n)) = false))

variable {ended : Station → Bool} {es : List Event}

theorem goesOn_cons {e : Event} (h : ended s = false) (hes : GoesOn ended (s.step e) es) : GoesOn ended s (e :: es) := by
  intro n hn
  cases n with
  | zero => exact h
  | succ n => exact hes n (Nat.lt_of_succ_lt_succ hn)

/-- what each step keeps while something goes on holds along the way -/
theorem stage_of_goesOn {Stage : List Event → Station → Prop}
    (hstep : ∀ es u, Stage es u → ended u = false → ∀ e, Stage (es ++ [e]) (u.step e)) (h : Stage [] s)
    (hes : GoesOn ended s es) : Stage es (s.steps es) := by
  induction es using List.reverseRecOn with
  | nil => exact h
  | append_singleton es e ih =>
    have hlast : ended (s.steps es) = false := by
      have hn := hes es.length (by simp)
      rwa [List.take_left] at hn
    have hearlier : GoesOn ended s es := by
      intro n hn
      have hn' := hes n (by rw [List.length_append]; omega)
      rwa [List.take_append_of_le_length hn.le] at hn'
    rw [steps_concat]
    exact hstep es _ (ih hearlier) hlast e

/-- it is over at some time, if each event of one kind brings that nearer, and there are enough of them -/
theorem exists_first {Stage : Station → Prop} {left : Station → Nat} {e₀ : Event}
    (hstep : ∀ u, Stage u → ended u = false → ∀ e, Stage (u.step e) ∧ left (u.step e) + (if e = e₀ then 1 else 0) ≤ left u)
    (h : Stage s) (hcount : left s ≤ es.count e₀) :
    ∃ es₁ es₂, es = es₁ ++ es₂ ∧ GoesOn ended s es₁ ∧ ended (s.steps es₁) = true := by
  induction es generalizing s with
  | nil =>
    cases hend : ended s with
    | true => exact ⟨[], [], rfl, fun n hn => absurd hn (Nat.not_lt_zero n), hend⟩
    | false =>
      have hless := (hstep s h hend e₀).2
      rw [if_pos rfl] at hless
      rw [List.count_nil] at hcount
      omega
  | cons e es ih =>
    cases hend : ended s with
    | true => exact ⟨[], e :: es, rfl, fun n hn => absurd hn (Nat.not_lt_zero n), hend⟩
    | false =>
      obtain ⟨hnext, hless⟩ := hstep s h hend e
      have hcount' : left (s.step e) ≤ es.count e₀ := by
        rw [List.count_cons] at hcount
        simp only [beq_iff_eq] at hcount
        omega
      obtain ⟨es₁, es₂, rfl, hgoes, hlast⟩ := ih hnext hcount'
      exact ⟨e :: es₁, es₂, rfl, goesOn_cons hend hgoes, hlast⟩

/-! ## From the call to the end of the thread -/

/-- the command of a test shot goes on along the first events, to its answer, and its thread along the others -/
structure OneTest (s : Station) (es₁ es₂ : List Event) : Prop where
  asked : GoesOn isFree (s.step (.call .testCapture)) es₁
  answered : ((s.step (.call .testCapture)).steps es₁).isFree = true
  shot : GoesOn (!·.hasTest) ((s.step (.call .testCapture)).steps es₁) es₂

/-- once the command is answered its thread is there, or it has left nothing behind -/
theorem shoots_of_asks (hrest : f.AtRest) (h : Asks s old f u) (hfree : u.isFree = true) : Shoots s old f [] u := by
  obtain ⟨p, g, hcall, hfunctions, hannounces⟩ := h.announces
  have hkeeps : ∀ {o}, u.call = some (.done o) → u.KeepsFlag := by
    intro o hdone d
    rw [point_of_call hdone]
    exact CallPoint.noConfusion
  cases hannounces with
  | granted =>
    refine ⟨h.inv, ?_, some .begin, f.life.downloads, hfunctions, fun _ => ⟨rfl, hkeeps hcall⟩, none, h.takes,
      fun _ => rfl⟩
    rw [point_of_call hcall]
    rfl
  | refused e =>
    refine ⟨h.inv, ?_, none, f.life.downloads, ?_, fun _ => ⟨rfl, hkeeps hcall⟩, none, h.takes, fun _ => rfl⟩
    · rw [point_of_call hcall]
      rfl
    · rw [hrest.testingAt_none]
      exact hfunctions
  | begin | ready | launch | withdraw => simp [isFree, hcall] at hfree

theorem asks_steps (hrest : f.AtRest) (h : Asks s old f u) (hes : GoesOn isFree u es) : Asks s old f (u.steps es) := by
  have hstep : ∀ (es : List Event) v, Asks s old f v → v.isFree = false → ∀ e, Asks s old f (v.step e) := by
    intro _ v hv hbusy e
    exact (asks_step hrest hv hbusy e).1
  exact stage_of_goesOn hstep h hes

theorem shoots_steps (hrest : f.AtRest) (h : Shoots s old f [] u) (hes : GoesOn (!·.hasTest) u es) :
    Shoots s old f es (u.steps es) := by
  have hstep : ∀ (es : List Event) v, Shoots s old f es v → (!v.hasTest) = false →
      ∀ e, Shoots s old f (es ++ [e]) (v.step e) := by
    intro es v hv hon e
    exact (shoots_step hrest hv (by simpa using hon) e).1
  exact stage_of_goesOn hstep h hes

/-- enough steps of the command answer it -/
theorem exists_answer (hrest : f.AtRest) (h : Asks s old f u) (hes : u.stepsLeft ≤ es.count .proceed) :
    ∃ es₁ es₂, es = es₁ ++ es₂ ∧ GoesOn isFree u es₁ ∧ (u.steps es₁).isFree = true := by
  have hstep : ∀ v, Asks s old f v → v.isFree = false → ∀ e, Asks s old f (v.step e) ∧
      (v.step e).stepsLeft + (if e = .proceed then 1 else 0) ≤ v.stepsLeft := by
    intro v hv hbusy e
    exact asks_step hrest hv hbusy e
  exact exists_first hstep h hes

/-- enough steps of the thread end it -/
theorem exists_end (hrest : f.AtRest) (h : Shoots s old f [] u) (hes : u.threadLeft ≤ es.count (.test old.length)) :
    ∃ es₁ es₂, es = es₁ ++ es₂ ∧ GoesOn (!·.hasTest) u es₁ ∧ (u.steps es₁).hasTest = false := by
  have hstep : ∀ v, (∃ es, Shoots s old f es v) → (!v.hasTest) = false → ∀ e, (∃ es, Shoots s old f es (v.step e)) ∧
      (v.step e).threadLeft + (if e = .test old.length then 1 else 0) ≤ v.threadLeft := by
    rintro v ⟨es, hv⟩ hon e
    obtain ⟨hnext, hless⟩ := shoots_step hrest hv (by simpa using hon) e
    exact ⟨⟨_, hnext⟩, hless⟩
  obtain ⟨es₁, es₂, hsplit, hgoes, hend⟩ := exists_first hstep ⟨[], h⟩ hes
  exact ⟨es₁, es₂, hsplit, hgoes, by simpa using hend⟩

theorem OneTest.shoots {es₁ es₂ : List Event} (h : OneTest s es₁ es₂) (hrest : f.AtRest)
    (hasks : Asks s old f (s.step (.call .testCapture))) :
    Shoots s old f es₂ (((s.step (.call .testCapture)).steps es₁).steps es₂) := by
  have hanswered := asks_steps hrest hasks h.asked
  exact shoots_steps hrest (shoots_of_asks hrest hanswered h.answered) h.shot

/-- with enough steps the command is answered, and then with enough steps the thread ends -/
theorem exists_oneTest {as bs : List Event} (hrest : f.AtRest) (hasks : Asks s old f (s.step (.call .testCapture)))
    (has : 3 ≤ as.count .proceed) (hbs : 4 ≤ bs.count (.test old.length)) :
    ∃ es₁ es₂ es₃, as ++ bs = es₁ ++ es₂ ++ es₃ ∧ OneTest s es₁ es₂ ∧
      (((s.step (.call .testCapture)).steps es₁).steps es₂).hasTest = false := by
  have hsteps : (s.step (.call .testCapture)).stepsLeft ≤ as.count .proceed := by
    apply le_trans _ has
    rw [stepsLeft]
    unfold stepsFrom
    split <;> omega
  obtain ⟨es₁, rest, rfl, hasked, hanswered⟩ := exists_answer hrest hasks hsteps
  have hshoots := shoots_of_asks hrest (asks_steps hrest hasks hasked) hanswered
  have hthread : ((s.step (.call .testCapture)).steps es₁).threadLeft ≤ (rest ++ bs).count (.test old.length) := by
    apply le_trans _ (le_trans hbs (by simp))
    rw [threadLeft]
    unfold threadSteps
    split <;> omega
  obtain ⟨es₂, es₃, hsplit, hshot, hended⟩ := exists_end hrest hshoots hthread
  refine ⟨es₁, es₂, es₃, ?_, ⟨hasked, hanswered, hshot⟩, hended⟩
  rw [List.append_assoc, hsplit, List.append_assoc]

theorem downloadLast_eq {g : CaptureFunction} (h : s.functions = old ++ [g]) (folder : String) :
    s.downloadLast folder = (some (s.studio.fetch g.life.lastShot folder).1,
      { s with studio := (s.studio.fetch g.life.lastShot folder).2 }) := by
  simp only [downloadLast, active?_eq h]

/-- **A test shot leaves the sequence alone.** Take a station that any commands, threads and faults have led to, at
which a command may begin and the active function is not operating, be it idle or finished, and let a test shot be
called for. Whatever comes in between, other commands included, the first three steps of the command answer it, and the
next four of the thread end that. While the thread is under way, and when it has ended, the other functions are what
they were, and so is the active one in all but its test shot and the order to download; that is as it was unless a
command has changed it meanwhile, and then all functions are in the end what they were. At most one picture has been
exposed. Downloading the last picture refers to the last shot of the run, and there is none to refer to if it had none. -/
theorem test_leaves_functions (h : Reachable s) (hfree : s.isFree = true) (hf : s.active? = some f)
    (hoff : f.isOperating = false) :
    (∀ es₁ es₂, OneTest s es₁ es₂ →
      let u := ((s.step (.call .testCapture)).steps es₁).steps es₂
      ∃ q b, u.functions = s.functions.dropLast ++ [f.testingAt q b] ∧
        ((∀ e ∈ es₂, e.setsDownloads = false) →
          b = f.life.downloads ∧ (u.hasTest = false → u.functions = s.functions)) ∧
        (u.hasTest = false → q = none) ∧
        (∃ new, s.studio.camera.Takes u.studio.camera new) ∧
        ∀ folder, u.downloadLast folder = (some (u.studio.fetch f.life.lastShot folder).1,
            { u with studio := (u.studio.fetch f.life.lastShot folder).2 }) ∧
          (f.life.lastShot = none → u.downloadLast folder = (some (.error .noShotYet), u))) ∧
      ∀ as bs : List Event, 3 ≤ as.count .proceed → 4 ≤ bs.count (.test (s.functions.length - 1)) →
        ∃ es₁ es₂ es₃, as ++ bs = es₁ ++ es₂ ++ es₃ ∧ OneTest s es₁ es₂ ∧
          (((s.step (.call .testCapture)).steps es₁).steps es₂).hasTest = false := by
  have hinv := h.inv
  obtain ⟨old, hs⟩ : ∃ old, s.functions = old ++ [f] := by
    rw [active?, List.getLast?_eq_some_iff] at hf
    exact hf
  have hrest : f.AtRest := ((inv_concat hs).1 hinv).2.atRest_of_quiet (isQuiet_point hfree) hoff
  have hasks := asks_call hinv hfree hs
  constructor
  · intro es₁ es₂ htest u
    obtain ⟨-, -, q, b, hu, hflag, new, htakes, -⟩ := htest.shoots hrest hasks
    refine ⟨q, b, ?_, ?_, ?_, ⟨new, htakes⟩, ?_⟩
    · rw [hs, List.dropLast_concat]
      exact hu
    · intro hes
      obtain ⟨rfl, -⟩ := hflag hes
      refine ⟨rfl, ?_⟩
      intro hended
      rw [hasTest_eq hu, Option.isSome_eq_false_iff, Option.isNone_iff_eq_none] at hended
      subst hended
      rw [hrest.testingAt_none, ← hs] at hu
      exact hu
    · intro hended
      rwa [hasTest_eq hu, Option.isSome_eq_false_iff, Option.isNone_iff_eq_none] at hended
    · intro folder
      have hlast : u.downloadLast folder = (some (u.studio.fetch f.life.lastShot folder).1,
          { u with studio := (u.studio.fetch f.life.lastShot folder).2 }) := downloadLast_eq hu folder
      refine ⟨hlast, ?_⟩
      intro hnone
      rw [hlast, hnone]
      rfl
  · intro as bs has hbs
    have hlength : s.functions.length - 1 = old.length := by simp [hs]
    rw [hlength] at hbs
    exact exists_oneTest hrest hasks has hbs

/-- a finished function is tested, in vain stopped and started meanwhile, and the picture cannot be downloaded -/
theorem test_leaves_functions_finished :
    let setup := Telecommand.sequencerSetup ⟨1, 0, true⟩
    let s := (fresh {} "\x00" .listening).steps ([.call setup, .proceed, .proceed, .call .start] ++
      List.replicate 4 .proceed ++ List.replicate 9 (.run 0))
    let es₁ : List Event := [.proceed, .fault .unplug, .proceed, .proceed]
    let es₂ : List Event := [.test 0, .call .stop, .proceed, .call .start, .test 0, .proceed, .test 0, .test 0]
    let u := ((s.step (.call .testCapture)).steps es₁).steps es₂
    Reachable s ∧ s.active?.any (·.life.isFinished) = true ∧ OneTest s es₁ es₂ ∧ u.hasTest = false ∧
      u.functions = s.functions ∧ s.studio.camera.shots = 1 ∧ u.studio.camera.shots = 2 ∧
      u.studio.camera.downloads = 0 := by
  intro setup s es₁ es₂ u
  have hreachable : Reachable s := ⟨{}, "\x00", .listening, leads_steps .refl _⟩
  have hoff : s.active?.all (fun f => !f.isOperating) = true := by decide +kernel
  obtain ⟨f, hf⟩ : ∃ f, s.active? = some f := Option.isSome_iff_exists.1 (by decide +kernel)
  rw [hf, Option.all_some, Bool.not_eq_true'] at hoff
  have htest : OneTest s es₁ es₂ := ⟨by decide +kernel, by decide +kernel, by decide +kernel⟩
  have hended : u.hasTest = false := by decide +kernel
  obtain ⟨q, b, -, hkept, -⟩ := (test_leaves_functions hreachable (by decide +kernel) hf hoff).1 es₁ es₂ htest
  have hsame := (hkept (by decide)).2 hended
  exact ⟨hreachable, by decide +kernel, htest, hended, hsame, by decide +kernel, by decide +kernel, by decide +kernel⟩

end Station

end RemoteShutter
