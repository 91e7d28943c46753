/-
What a command leaves behind that fails.

Until a command has found the camera ready it changes nothing, except that it announces a test shot before it looks at
the camera; if the camera is not ready the announcement is taken back. Behind that look only the host can make it fail,
which may refuse a thread; then the function is put back to what it was, and the camera stays as the look has left it.
Only a reconnect has disconnected the camera already.
- `Camera.GetsReady`: the cameras that a look lets through, and what they are then.
- `Course s es t`: `t` is in the middle of a command, and `es` are the events beside it since it began in `s`. Either
  nothing has been changed, or there is something to be put back, or the command is sure to succeed.
- `course_besides`, `Course.proceed`: this holds on after an event beside the command, and after a step of it.
- `refused_leaves`: what follows for a command that fails.
- `refused_changes_nothing`: so it is in all reachable stations; `refused_thread_leaves_camera_connected`: if the host
  refuses the thread, the camera may have been connected.
-/
import Mathlib.Tactic
import RemoteShutter.Proofs.Station.Besides

namespace RemoteShutter

/-- an announcement that is taken back was never made -/
theorem Lifecycle.endTest_of_beginTest {l l' : Lifecycle} (h : l.beginTest = .ok l') : l'.endTest = l := by
  obtain ⟨hoff, rfl⟩ := (beginTest_eq_ok_iff l l').1 h
  have htesting : l.isTesting = false := (Bool.or_eq_false_iff.1 hoff).2
  rcases l with ⟨⟩
  simp only [endTest] at htesting ⊢
  rw [htesting]

/-- a start that is taken back was never made -/
theorem Lifecycle.cancelStart_of_commitStart {l l' : Lifecycle} (h : l.commitStart = .ok (true, l')) :
    l'.cancelStart = l := by
  obtain ⟨⟨hidle, -⟩, rfl⟩ := (commitStart_eq_ok_true_iff l l').1 h
  rcases l with ⟨⟩
  simp only [cancelStart] at hidle ⊢
  rw [hidle]

/-! ## The look at the camera -/

namespace Camera

variable {c c' : Camera} {log : List LogEvent}

/-- a camera that does not get ready is as it was -/
theorem ensureReady_of_error {e : CameraError} (h : c.ensureReady = (.error e, c', log)) : c' = c := by
  unfold ensureReady connect at h
  split_ifs at h <;> simp_all

/-- a camera that is found ready, and what it is then -/
inductive GetsReady (c : Camera) : Camera → Prop where
  | answers (connected : c.isConnected = true) (answering : c.isUnresponsive = false) : GetsReady c c
  | connects (apart : c.isConnected = false) (admitted : c.refusesConnect = false) :
      GetsReady c { c with isConnected := true, connects := c.connects + 1 }

theorem getsReady_of_ok (h : c.ensureReady = (.ok (), c', log)) : c.GetsReady c' := by
  unfold ensureReady connect at h
  split_ifs at h with hapart hrefuses hsilent
  · cases h
  · cases h
    exact .connects (by simpa using hapart) (by simpa using hrefuses)
  · cases h
  · cases h
    have hconnected : c.isConnected = true := by simpa using hapart
    exact .answers hconnected (by simpa [isResponsive, hconnected] using hsilent)

theorem GetsReady.isConnected (h : c.GetsReady c') : c'.isConnected = true := by
  cases h with
  | answers connected => exact connected
  | connects => rfl

/-- whether it answers was asked only if it had been connected -/
theorem GetsReady.isResponsive_iff (h : c.GetsReady c') :
    c'.isResponsive = true ↔ c.isConnected = true ∨ c.isUnresponsive = false := by
  cases h with
  | answers connected answering => simp [isResponsive, connected, answering]
  | connects apart => simp [isResponsive, apart]

end Camera

/-- the host has refused a thread -/
def DispatchError.isSpawn : DispatchError → Bool
  | .function (.spawn _ _) => true
  | _ => false

namespace Lifecycle

variable {l : Lifecycle} {e : FunctionError}

/-- a function that may not be started has asked for no thread -/
theorem isSpawn_of_canStart (h : l.canStart = .error e) : (DispatchError.function e).isSpawn = false := by
  unfold canStart at h
  split at h
  · cases h; rfl
  · split at h <;> cases h
    rfl

theorem isSpawn_of_beginTest (h : l.beginTest = .error e) : (DispatchError.function e).isSpawn = false := by
  unfold beginTest at h
  split at h <;> cases h
  rfl

end Lifecycle

namespace CallPoint

/-- if the command fails from here it has changed nothing -/
def isTentative : CallPoint → Bool
  | begin c => c ≠ .reconnect
  | done (.error e) => !e.isSpawn
  | build _ | startReady | probe | identify _ _ | done (.ok _) => true
  | _ => false

end CallPoint

namespace CaptureFunction

/-- the function without the start that has been committed -/
def takeBack (f : CaptureFunction) : CaptureFunction :=
  { f with life := f.life.cancelStart }

/-- the function without the test shot that has been announced -/
def withdraw (f : CaptureFunction) : CaptureFunction :=
  { f with life := f.life.endTest }

end CaptureFunction

namespace Station

variable {s t u v : Station} {old : List CaptureFunction} {f : CaptureFunction} {es : List Event}

theorem steps_concat (s : Station) (es : List Event) (e : Event) : s.steps (es ++ [e]) = (s.steps es).step e :=
  steps_append s es [e]

/-! ## In the middle of a command -/

/-- the station with a camera that has been made ready, if that was possible -/
def check (s : Station) : Station :=
  s.setCamera s.studio.camera.ensureReady.2.1

/-- `v` has seen the events `es` since `s`, and in the middle of them a look that has found the camera ready -/
def IsChecked (s : Station) (es : List Event) (v : Station) : Prop :=
  ∃ es₁ es₂, es = es₁ ++ es₂ ∧ (s.steps es₁).studio.camera.GetsReady (s.steps es₁).check.studio.camera ∧
    v = (s.steps es₁).check.steps es₂

theorem IsChecked.concat (h : IsChecked s es v) (e : Event) : IsChecked s (es ++ [e]) (v.step e) := by
  obtain ⟨es₁, es₂, rfl, hready, rfl⟩ := h
  exact ⟨es₁, es₂ ++ [e], List.append_assoc _ _ _, hready, (steps_concat _ _ e).symm⟩

/-- `t` has the functions of `u` but for what is to be undone at the active one, and the studio of `v` -/
structure UpTo (undo : CaptureFunction → CaptureFunction) (t u v : Station) : Prop where
  functions : ∃ old f, t.functions = old ++ [f] ∧ u.functions = old ++ [undo f]
  same : v.functions = u.functions
  studio : t.studio = v.studio

/-- a start of the active function would go through -/
def CanStart (s : Station) : Prop :=
  ∃ old f, s.functions = old ++ [f] ∧ f.life.canStart = .ok true

/-- `t` is in the middle of a command that has begun in `s`, and `es` has happened beside it -/
inductive Course (s : Station) (es : List Event) (t : Station) : Prop where
  | unchanged {p : CallPoint} (hc : t.call = some p) (hp : p.isTentative = true) (h : Alike t (s.steps es))
      (hstart : p = .startReady → t.CanStart)
  /-- a test shot has been announced -/
  | announced {p : CallPoint} (hc : t.call = some p) (hp : p = .testReady ∨ ∃ e, p = .testWithdraw e)
      (h : UpTo .withdraw t (s.steps es) (s.steps es))
  /-- the camera has been found ready for a start -/
  | startCommit {v : Station} (hv : IsChecked s es v) (hc : t.call = some .startCommit) (hcan : t.CanStart)
      (h : UpTo id t (s.steps es) v)
  | startLaunch {v : Station} (hv : IsChecked s es v) (hc : t.call = some .startLaunch)
      (h : UpTo .takeBack t (s.steps es) v)
  /-- the camera has been found ready for the test shot that was announced -/
  | testLaunch {v : Station} (hv : IsChecked s es v) (hc : t.call = some .testLaunch)
      (h : UpTo .withdraw t (s.steps es) v)
  | refused {v : Station} {e : DispatchError} (hv : IsChecked s es v) (hc : t.call = some (.done (.error e)))
      (he : e.isSpawn = true) (hm : t.Unmanned) (h : UpTo id t (s.steps es) v)
  /-- the command is sure to succeed -/
  | bound (hc : t.call = some .raise ∨ t.call = some (.done (.ok ())))

/-! ### Events beside it -/

theorem CanStart.unmanned (h : s.CanStart) (hi : Inv s) : s.Unmanned := by
  obtain ⟨old, f, hs, hcan⟩ := h
  exact hi.unmanned hs (((inv_concat hs).1 hi).2.no_threads_of_canStart hcan)

theorem CanStart.besides (h : s.CanStart) (hi : Inv s) {e : Event} (he : e.isCommand = false) :
    (s.step e).CanStart := by
  have hsame := (h.unmanned hi).functions_step he
  obtain ⟨old, f, hs, hcan⟩ := h
  exact ⟨old, f, hsame.trans hs, hcan⟩

theorem unmanned_of_pending (hi : Inv t) {p : CallPoint} (hc : t.call = some p) (hp : p.launching + p.announced = 1)
    (hne : ∃ old f, t.functions = old ++ [f]) : t.Unmanned := by
  obtain ⟨old, f, ht⟩ := hne
  have hserved := ((inv_concat ht).1 hi).2
  rw [point_of_call hc] at hserved
  exact hi.unmanned ht (hserved.no_threads_of_pending hp)

variable {undo : CaptureFunction → CaptureFunction}

theorem UpTo.exists_active (h : UpTo undo t u v) : ∃ old f, t.functions = old ++ [f] := by
  obtain ⟨old, f, ht, -⟩ := h.functions
  exact ⟨old, f, ht⟩

/-- without threads nothing happens to the functions, and the same to the studios -/
theorem UpTo.besides (h : UpTo undo t u v) (hm : t.Unmanned)
    (hundo : ∀ f, (undo f).run = f.run ∧ (undo f).test = f.test) {e : Event} (he : e.isCommand = false) :
    UpTo undo (t.step e) (u.step e) (v.step e) := by
  obtain ⟨old, f, ht, hu⟩ := h.functions
  have hmu : u.Unmanned := by
    intro g hg
    rw [hu] at hg
    rcases List.mem_append.1 hg with hg | hg
    · exact hm g (ht ▸ List.mem_append_left _ hg)
    · obtain rfl := List.mem_singleton.1 hg
      obtain ⟨hrun, htest⟩ := hm f (ht ▸ List.mem_append_right _ (List.mem_singleton_self f))
      exact ⟨(hundo f).1.trans hrun, (hundo f).2.trans htest⟩
  have hmv : v.Unmanned := fun g hg => hmu g (h.same ▸ hg)
  refine ⟨⟨old, f, (hm.functions_step he).trans ht, (hmu.functions_step he).trans hu⟩, ?_, hm.studio_step hmv h.studio he⟩
  rw [hmv.functions_step he, hmu.functions_step he, h.same]

theorem course_besides (h : Course s es t) (hi : Inv t) {e : Event} (he : e.isCommand = false) :
    Course s (es ++ [e]) (t.step e) := by
  have hcall := call_besides (s := t) he
  have hsteps := steps_concat s es e
  cases h with
  | unchanged hc hp h hstart =>
    exact .unchanged (hcall.trans hc) hp (hsteps ▸ h.step he) fun hp => (hstart hp).besides hi he
  | announced hc hp h =>
    have hm : t.Unmanned := by
      refine unmanned_of_pending hi hc ?_ h.exists_active
      rcases hp with rfl | ⟨e, rfl⟩ <;> rfl
    exact .announced (hcall.trans hc) hp (hsteps ▸ h.besides hm (fun _ => ⟨rfl, rfl⟩) he)
  | startCommit hv hc hcan h =>
    have hm := hcan.unmanned hi
    exact .startCommit (hv.concat e) (hcall.trans hc) (hcan.besides hi he)
      (hsteps ▸ h.besides hm (fun _ => ⟨rfl, rfl⟩) he)
  | startLaunch hv hc h =>
    have hm := unmanned_of_pending hi hc rfl h.exists_active
    exact .startLaunch (hv.concat e) (hcall.trans hc) (hsteps ▸ h.besides hm (fun _ => ⟨rfl, rfl⟩) he)
  | testLaunch hv hc h =>
    have hm := unmanned_of_pending hi hc rfl h.exists_active
    exact .testLaunch (hv.concat e) (hcall.trans hc) (hsteps ▸ h.besides hm (fun _ => ⟨rfl, rfl⟩) he)
  | refused hv hc hspawn hm h =>
    have hm' : (t.step e).Unmanned := fun g hg => hm g (hm.functions_step he ▸ hg)
    exact .refused (hv.concat e) (hcall.trans hc) hspawn hm' (hsteps ▸ h.besides hm (fun _ => ⟨rfl, rfl⟩) he)
  | bound hc => exact .bound (hcall.symm ▸ hc)

/-! ### Steps of the command -/

/-- the command goes on, and again nothing has been changed -/
theorem Alike.course (h : Alike t (s.steps es)) {t' : Station} {p : CallPoint} (hc : t'.call = some p)
    (hf : t'.functions = t.functions) (hs : t'.studio = t.studio) (hp : p.isTentative = true) (hne : p ≠ .startReady) :
    Course s es t' :=
  .unchanged hc hp ⟨hf.trans h.functions, hs.trans h.studio⟩ fun he => absurd he hne

theorem course_begin_setup (h : Alike t (s.steps es)) {c : Telecommand} (hsetup : c.isSetup = true) :
    Course s es (t.stepCall (.begin c)) := by
  obtain ⟨hf, hs, hc⟩ := stepCall_setup (s := t) hsetup
  split_ifs at hc
  · exact h.course hc hf hs rfl (by simp)
  · exact h.course hc hf hs rfl (by simp)

theorem Alike.say (h : Alike t u) (es : List LogEvent) : Alike (t.say es) u :=
  ⟨h.functions, h.studio⟩

/-- without a function the command fails -/
theorem course_withActive (h : Alike t (s.steps es)) {act : CaptureFunction → Station}
    (hact : ∀ old f, t.functions = old ++ [f] → Course s es (act f)) : Course s es (t.withActive act) := by
  rcases List.eq_nil_or_concat' t.functions with hnil | ⟨old, f, ht⟩
  · simp only [withActive, active?, hnil, List.getLast?_nil]
    exact h.course rfl rfl rfl rfl (by simp)
  · rw [withActive_eq ht]
    exact hact old f ht

theorem course_begin (h : Alike t (s.steps es)) {c : Telecommand} (hne : c ≠ .reconnect) :
    Course s es (t.stepCall (.begin c)) := by
  have hdone : ∀ {t' : Station} {o}, t'.call = some (.done o) → t'.functions = t.functions →
      t'.studio = t.studio → (CallPoint.done o).isTentative = true → Course s es t' :=
    fun hc hf hs hp => h.course hc hf hs hp (by simp)
  cases c with
  | sequencerSetup | intervalometerSetup => exact course_begin_setup h rfl
  | start =>
    refine course_withActive (h.say _) fun old f ht => ?_
    split
    · next hcan => exact hdone rfl rfl rfl (by simp [CallPoint.isTentative, Lifecycle.isSpawn_of_canStart hcan])
    · exact hdone rfl rfl rfl rfl
    · next hcan => exact .unchanged rfl rfl ⟨h.functions, h.studio⟩ fun _ => ⟨old, f, ht, hcan⟩
  | stop =>
    refine course_withActive (h.say _) fun old f ht => ?_
    split_ifs
    · exact .bound (.inl rfl)
    · exact hdone rfl rfl rfl rfl
  | testCapture =>
    refine course_withActive (h.say _) fun old f ht => ?_
    split
    · next hb => exact hdone rfl rfl rfl (by simp [CallPoint.isTentative, Lifecycle.isSpawn_of_beginTest hb])
    · next life hb =>
      refine .announced rfl (.inl rfl) ⟨⟨old, _, functions_updateActive (s := t.say _) ht _, ?_⟩, rfl, h.studio⟩
      simp only [CaptureFunction.withdraw, Lifecycle.endTest_of_beginTest hb]
      exact h.functions.symm.trans ht
  | downloadAfterExposure b => exact course_withActive (h.say _) fun _ _ _ => .bound (.inr rfl)
  | reconnect => exact absurd rfl hne
  | testConnection => exact h.course rfl rfl rfl rfl (by simp)
  | shutdown | reboot =>
    simp only [stepCall, beginCall, requestPower]
    split <;> exact hdone rfl rfl rfl rfl

theorem course_build (h : Alike t (s.steps es)) (c : Telecommand) : Course s es (t.stepCall (.build c)) := by
  simp only [stepCall]
  split
  · exact h.course rfl rfl rfl rfl (by simp)
  · exact h.course rfl rfl rfl rfl (by simp)
  · exact .bound (.inr rfl)

/-- the look of the command is a look at the camera that the station has without it -/
theorem isChecked_of_ready (hs : t.studio = (s.steps es).studio) {camera : Camera} {log : List LogEvent}
    (hready : t.studio.camera.ensureReady = (.ok (), camera, log)) :
    IsChecked s es (s.steps es).check ∧ { t.studio with camera := camera } = (s.steps es).check.studio := by
  rw [hs] at hready
  refine ⟨⟨es, [], (List.append_nil es).symm, ?_, rfl⟩, ?_⟩
  · simp only [check, setCamera, hready]
    exact Camera.getsReady_of_ok hready
  · simp only [check, setCamera, hready, hs]

theorem course_startReady (h : Alike t (s.steps es)) (hcan : t.CanStart) : Course s es (t.stepCall .startReady) := by
  simp only [stepCall]
  split
  · next e camera log hready =>
    rw [Camera.ensureReady_of_error hready]
    exact h.course rfl rfl rfl rfl (by simp)
  · next camera log hready =>
    obtain ⟨hv, hstudio⟩ := isChecked_of_ready h.studio hready
    obtain ⟨old, f, ht, -⟩ := id hcan
    exact .startCommit hv rfl hcan ⟨⟨old, f, ht, h.functions.symm.trans ht⟩, rfl, hstudio⟩

/-- what a command does that has changed nothing yet -/
theorem course_tentative {p : CallPoint} (h : Alike t (s.steps es)) (hp : p.isTentative = true)
    (hstart : p = .startReady → t.CanStart) : Course s es (t.stepCall p) := by
  cases p with
  | begin c => exact course_begin h (of_decide_eq_true hp)
  | build c => exact course_build h c
  | startReady => exact course_startReady h (hstart rfl)
  | probe | identify => exact h.course rfl rfl rfl rfl (by simp)
  | done o => exact h.course rfl rfl rfl hp (by simp)
  | _ => cases hp

/-- the announcement is followed by the launch, or is taken back -/
theorem course_announced {p : CallPoint} (hp : p = .testReady ∨ ∃ e, p = .testWithdraw e)
    (h : UpTo .withdraw t (s.steps es) (s.steps es)) : Course s es (t.stepCall p) := by
  obtain ⟨old, f, ht, hu⟩ := h.functions
  rcases hp with rfl | ⟨e, rfl⟩
  · simp only [stepCall]
    split
    · next e camera log hready =>
      rw [Camera.ensureReady_of_error hready]
      exact .announced rfl (.inr ⟨e, rfl⟩) ⟨⟨old, f, ht, hu⟩, rfl, h.studio⟩
    · next camera log hready =>
      obtain ⟨hv, hstudio⟩ := isChecked_of_ready h.studio hready
      exact .testLaunch hv rfl ⟨⟨old, f, ht, hu⟩, rfl, hstudio⟩
  · exact .unchanged rfl rfl ⟨(functions_updateActive ht _).trans hu.symm, h.studio⟩ (by simp)

/-- a start that has found the camera ready is committed: nobody else could have started the function -/
theorem course_startCommit (hv : IsChecked s es v) (hcan : t.CanStart) (h : UpTo id t (s.steps es) v) :
    Course s es (t.stepCall .startCommit) := by
  obtain ⟨old, f, ht, hcan⟩ := hcan
  obtain ⟨old', f', ht', hu⟩ := h.functions
  obtain ⟨rfl, rfl⟩ : old = old' ∧ f = f' := by simpa using ht.symm.trans ht'
  have hcommit : f.life.commitStart = .ok (true, { f.life with phase := .started }) :=
    (f.life.commitStart_eq_ok_true_iff _).2 ⟨(f.life.canStart_eq_ok_true_iff).1 hcan, rfl⟩
  simp only [stepCall]
  rw [withActive_eq ht, hcommit]
  refine .startLaunch hv rfl ⟨⟨old, _, functions_updateActive ht _, ?_⟩, h.same, h.studio⟩
  simp only [CaptureFunction.takeBack, Lifecycle.cancelStart_of_commitStart hcommit]
  exact hu

/-- what could not be launched is undone -/
theorem course_undone (hv : IsChecked s es v) (hm : t.Unmanned) (h : UpTo undo t (s.steps es) v)
    (hundo : ∀ f, (undo f).run = f.run ∧ (undo f).test = f.test) {t' : Station} {e : DispatchError}
    (hc : t'.call = some (.done (.error e))) (he : e.isSpawn = true)
    (ht' : ∀ old f, t.functions = old ++ [f] → t'.functions = old ++ [undo f]) (hs : t'.studio = t.studio) :
    Course s es t' := by
  obtain ⟨old, f, ht, hu⟩ := h.functions
  refine .refused hv hc he (fun g hg => ?_) ⟨⟨old, undo f, ht' old f ht, hu⟩, h.same, hs.trans h.studio⟩
  rw [ht' old f ht] at hg
  rcases List.mem_append.1 hg with hg | hg
  · exact hm g (ht ▸ List.mem_append_left _ hg)
  · obtain rfl := List.mem_singleton.1 hg
    obtain ⟨hrun, htest⟩ := hm f (ht ▸ List.mem_append_right _ (List.mem_singleton_self f))
    exact ⟨(hundo f).1.trans hrun, (hundo f).2.trans htest⟩

theorem course_startLaunch (hi : Inv t) (hv : IsChecked s es v) (hc : t.call = some .startLaunch)
    (h : UpTo .takeBack t (s.steps es) v) : Course s es (t.stepCall .startLaunch) := by
  obtain ⟨old, f, ht⟩ := h.exists_active
  cases hfault : t.threadFault with
  | none => exact .bound (.inr (stepCall_startLaunch ht hfault).call)
  | some reason =>
    have hstep := fun {old f} (ht : t.functions = old ++ [f]) => stepCall_startLaunch_of_fault ht hfault
    exact course_undone hv (unmanned_of_pending hi hc rfl h.exists_active) h (fun _ => ⟨rfl, rfl⟩) (hstep ht).call rfl
      (fun _ _ ht => (hstep ht).functions) (hstep ht).studio

theorem course_testLaunch (hi : Inv t) (hv : IsChecked s es v) (hc : t.call = some .testLaunch)
    (h : UpTo .withdraw t (s.steps es) v) : Course s es (t.stepCall .testLaunch) := by
  obtain ⟨old, f, ht⟩ := h.exists_active
  cases hfault : t.threadFault with
  | none => exact .bound (.inr (stepCall_point ht .testLaunch fun _ => hfault).call)
  | some reason =>
    have hstep := fun {old f} (ht : t.functions = old ++ [f]) => stepCall_testLaunch_of_fault ht hfault
    exact course_undone hv (unmanned_of_pending hi hc rfl h.exists_active) h (fun _ => ⟨rfl, rfl⟩) (hstep ht).call rfl
      (fun _ _ ht => (hstep ht).functions) (hstep ht).studio

theorem Course.proceed (h : Course s es t) (hi : Inv t) : Course s es (t.step .proceed) := by
  simp only [step]
  split
  · exact h
  · next p hc =>
    split_ifs
    · have hpoint : ∀ {q}, t.call = some q → q = p := fun hq => Option.some.inj (hq.symm.trans hc)
      cases h with
      | unchanged hq hp h hstart => obtain rfl := hpoint hq; exact course_tentative h hp hstart
      | announced hq hp h => obtain rfl := hpoint hq; exact course_announced hp h
      | startCommit hv hq hcan h => obtain rfl := hpoint hq; exact course_startCommit hv hcan h
      | startLaunch hv hq h => obtain rfl := hpoint hq; exact course_startLaunch hi hv hq h
      | testLaunch hv hq h => obtain rfl := hpoint hq; exact course_testLaunch hi hv hq h
      | refused hv hq he hm h => obtain rfl := hpoint hq; exact .refused hv rfl he hm ⟨h.functions, h.same, h.studio⟩
      | bound hq => rcases hq with hq | hq <;> (obtain rfl := hpoint hq; exact .bound (.inr rfl))
    · exact h

/-- **Whatever happens in the middle of a command, it has changed nothing, or can put back what it has changed of the
functions, or is sure to succeed.** -/
theorem course_steps {es' : List Event} (h : Course s es t) (hi : Inv t) (hes : ∀ e ∈ es', e.isCall = false) :
    Course s (es ++ besides es') (t.steps es') := by
  induction es' generalizing es t with
  | nil =>
    rw [besides, List.filter_nil, List.append_nil]
    exact h
  | cons e es' ih =>
    have hlater : ∀ e' ∈ es', e'.isCall = false := fun e' he' => hes e' (List.mem_cons_of_mem e he')
    have hinv := (follows_step hi e).inv
    cases hcmd : e.isCommand with
    | true =>
      obtain rfl := Event.eq_proceed hcmd (hes e List.mem_cons_self)
      exact ih (h.proceed hi) hinv hlater
    | false =>
      have hsplit : es ++ besides (e :: es') = es ++ [e] ++ besides es' := by simp [besides, hcmd]
      rw [hsplit]
      exact ih (course_besides h hi hcmd) hinv hlater

/-- what a command that has failed leaves of the functions, and of the studio -/
theorem Course.of_error {e : DispatchError} (h : Course s es t) (hc : t.call = some (.done (.error e))) :
    t.functions = (s.steps es).functions ∧ (e.isSpawn = false → t.studio = (s.steps es).studio) ∧
      (e.isSpawn = true → ∃ v, IsChecked s es v ∧ t.studio = v.studio) := by
  have hpoint : ∀ {q}, t.call = some q → q = .done (.error e) := fun hq => Option.some.inj (hq.symm.trans hc)
  cases h with
  | unchanged hq hp h =>
    obtain rfl := hpoint hq
    have hspawn : e.isSpawn = false := by simpa [CallPoint.isTentative] using hp
    exact ⟨h.functions, fun _ => h.studio, fun hyes => absurd hyes (by simp [hspawn])⟩
  | announced hq hp =>
    obtain rfl := hpoint hq
    rcases hp with hp | ⟨_, hp⟩ <;> cases hp
  | startCommit _ hq | startLaunch _ hq | testLaunch _ hq => cases hpoint hq
  | @refused v e' hv hq hspawn hm h =>
    obtain ⟨old, f, ht, hu⟩ := h.functions
    obtain rfl : e' = e := by simpa using hpoint hq
    exact ⟨ht.trans hu.symm, fun hno => absurd hspawn (by simp [hno]), fun _ => ⟨v, hv, h.studio⟩⟩
  | bound hq => rcases hq with hq | hq <;> cases hpoint hq

/-! ### Reconnects -/

/-- the command is a reconnect, or answered -/
inductive Reconnecting (s : Station) : Prop where
  | begin (hc : s.call = some (.begin .reconnect))
  | reconnect (hc : s.call = some .reconnect)
  | done {o : Outcome} (hc : s.call = some (.done o))

/-- its steps are about the camera only -/
theorem Reconnecting.proceed (h : Reconnecting t) :
    Reconnecting (t.step .proceed) ∧ (t.step .proceed).functions = t.functions := by
  cases h with
  | begin hc => rw [step_proceed hc rfl]; exact ⟨.reconnect rfl, rfl⟩
  | reconnect hc =>
    simp only [step, hc]
    split_ifs
    · simp only [stepCall]
      split <;> exact ⟨.done rfl, rfl⟩
    · exact ⟨.reconnect hc, rfl⟩
  | done hc => rw [step_proceed hc rfl]; exact ⟨.done rfl, rfl⟩

theorem Reconnecting.besides (h : Reconnecting t) {e : Event} (he : e.isCommand = false) : Reconnecting (t.step e) := by
  have hcall := call_besides (s := t) he
  cases h with
  | begin hc => exact .begin (hcall.trans hc)
  | reconnect hc => exact .reconnect (hcall.trans hc)
  | done hc => exact .done (hcall.trans hc)

theorem Reconnecting.advances_steps {es : List Event} (h : Reconnecting t) (hes : ∀ e ∈ es, e.isCall = false) :
    Advances t (t.steps es) ∧ (Station.besides es = [] → (t.steps es).functions = t.functions) := by
  induction es generalizing t with
  | nil => exact ⟨advances_of_eq rfl, fun _ => rfl⟩
  | cons e es ih =>
    have hlater : ∀ e' ∈ es, e'.isCall = false := fun e' he' => hes e' (List.mem_cons_of_mem e he')
    cases hcmd : e.isCommand with
    | true =>
      obtain rfl := Event.eq_proceed hcmd (hes e List.mem_cons_self)
      obtain ⟨hnext, hsame⟩ := h.proceed
      obtain ⟨hadv, hrest⟩ := ih hnext hlater
      exact ⟨(advances_of_eq hsame).trans hadv, fun hnone => (hrest hnone).trans hsame⟩
    | false =>
      refine ⟨(advances_besides hcmd).trans (ih (h.besides hcmd) hlater).1, fun hnone => ?_⟩
      simp [Station.besides, hcmd] at hnone

/-! ## Commands that fail -/

theorem isCommand_of_mem_besides {e : Event} (h : e ∈ besides es) : e.isCommand = false := by
  simpa using (List.mem_filter.1 h).2

/-- what a command that has failed with `e` leaves in `t`, where `es` has happened beside it since it began in `s` -/
structure Leaves (s : Station) (c : Telecommand) (es : List Event) (e : DispatchError) (t : Station) : Prop where
  advances : Advances s t
  untouched : ∀ (i : Nat) (f g : CaptureFunction), s.functions[i]? = some f → t.functions[i]? = some g → f.Untouched g
  alone : es = [] → t.functions = s.functions
  functions : c ≠ .reconnect → t.functions = (s.steps es).functions
  studio : c ≠ .reconnect → e.isSpawn = false → t.studio = (s.steps es).studio
  refused : c ≠ .reconnect → e.isSpawn = true → ∃ v, IsChecked s es v ∧ t.studio = v.studio

variable {c : Telecommand} {e : DispatchError}

/-- the answer may be taken away -/
theorem Leaves.answered (h : Leaves s c es e t) : Leaves s c es e { t with call := none } :=
  { h with advances := h.advances.trans (advances_of_eq rfl) }

/-- a command that fails and is not a reconnect -/
theorem leaves_of_error (h : Inv s) (hfree : s.isFree = true) (hne : c ≠ .reconnect)
    (hes : ∀ e ∈ es, e.isCall = false) (herr : ((s.step (.call c)).steps es).call = some (.done (.error e))) :
    ((s.step (.call c)).steps es).functions = (s.steps (besides es)).functions ∧
      (e.isSpawn = false → ((s.step (.call c)).steps es).studio = (s.steps (besides es)).studio) ∧
      (e.isSpawn = true → ∃ v, IsChecked s (besides es) v ∧ ((s.step (.call c)).steps es).studio = v.studio) := by
  have hbegin : Course s [] (s.step (.call c)) := by
    rw [call_of_isFree hfree]
    exact .unchanged rfl (decide_eq_true hne) ⟨rfl, rfl⟩ (by simp)
  have hend := course_steps hbegin (follows_step h (.call c)).inv hes
  exact hend.of_error herr

theorem advances_of_error (h : Inv s) (hfree : s.isFree = true) (hes : ∀ e ∈ es, e.isCall = false)
    (herr : ((s.step (.call c)).steps es).call = some (.done (.error e))) :
    Advances s ((s.step (.call c)).steps es) ∧
      (besides es = [] → ((s.step (.call c)).steps es).functions = s.functions) := by
  have hcall : (s.step (.call c)).functions = s.functions := by
    rw [call_of_isFree hfree]
    rfl
  by_cases hc : c = .reconnect
  · subst hc
    have hreconnect : Reconnecting (s.step (.call .reconnect)) := by
      rw [call_of_isFree hfree]
      exact .begin rfl
    obtain ⟨hadv, hsame⟩ := hreconnect.advances_steps hes
    exact ⟨(advances_of_eq hcall).trans hadv, fun hnone => (hsame hnone).trans hcall⟩
  · have hsame := (leaves_of_error h hfree hc hes herr).1
    refine ⟨?_, fun hnone => by rw [hsame, hnone]; rfl⟩
    exact (advances_besides_steps fun e he => isCommand_of_mem_besides he).trans (advances_of_eq hsame)

theorem refused_leaves (h : Inv s) (hfree : s.isFree = true) (hes : ∀ e ∈ es, e.isCall = false)
    (herr : ((s.step (.call c)).steps es).call = some (.done (.error e))) :
    Leaves s c (besides es) e ((s.step (.call c)).steps es) := by
  obtain ⟨hadv, halone⟩ := advances_of_error h hfree hes herr
  have hleaves := fun hne => leaves_of_error h hfree hne hes herr
  refine ⟨hadv, fun i f g hf hg => ?_, halone, fun hne => (hleaves hne).1, fun hne => (hleaves hne).2.1,
    fun hne => (hleaves hne).2.2⟩
  obtain ⟨g', hg', hprogress⟩ := hadv.progress i f hf
  obtain rfl : g' = g := Option.some.inj (hg'.symm.trans hg)
  exact hprogress.untouched

/-- what comes between the steps of a command that is carried out are the ends of captures -/
theorem besides_rest_of_not_held (s : Station) (h : s.isCameraHeld = false) : besides s.rest = [] := by
  induction s using induction_on_turns with
  | free s hfree => rw [rest_of_isFree hfree]; rfl
  | turn s e ht ih =>
    obtain ⟨p, -, -, ⟨rfl, hstep⟩ | hend⟩ := turn?_eq_some ht
    · rw [rest_of_turn? ht]
      apply ih
      rw [hstep, isCameraHeld_eq_false_iff] at *
      have hle := s.holders_stepCall p
      omega
    · have hless := (captureEnd_step hend).1
      rw [isCameraHeld_eq_false_iff] at h
      omega

/-- nor is it anything else than steps of threads -/
theorem thread_of_mem_besides_rest {e : Event} (h : e ∈ besides s.rest) : ∃ i, e = .run i ∨ e = .test i := by
  have hturn := isTurn_of_mem_rest s e (List.mem_of_mem_filter h)
  have hbeside := isCommand_of_mem_besides h
  cases e with
  | run i => exact ⟨i, .inl rfl⟩
  | test i => exact ⟨i, .inr rfl⟩
  | call | proceed => cases hbeside
  | _ => cases hturn

/-- **A command that fails leaves the functions as they were, and the camera too unless the host has refused a thread.**
Take a station that any commands, threads and faults have led to, and a command that begins there and fails, whatever
threads and faults do in between. Then there are the same functions as before, and each has gone on by steps of its own
threads only: its configuration, its download flag and its abort flag are the same, without a run so are its phase, its
statistics and its last shot, and without a test shot its testing flag. If nothing happened in between they are the same
altogether. Unless the command is a reconnect, the functions are what the same threads and faults would have made of them
without the command. So are camera, files and clock, unless the command has failed because the host refused a thread;
then they are what the same threads and faults would have made of them if the camera had been looked at in between: that
look found it connected and answering, and changed nothing, or it connected it. The same holds of a command that is carried out, where only steps of
threads can come in between, and only if a capture holds the camera. -/
theorem refused_changes_nothing (h : Reachable s) (hfree : s.isFree = true) (c : Telecommand) :
    (∀ es, (∀ e ∈ es, e.isCall = false) → ∀ e, ((s.step (.call c)).steps es).call = some (.done (.error e)) →
      Leaves s c (besides es) e ((s.step (.call c)).steps es)) ∧
      ∀ e, (s.dispatch c).1 = some (.error e) →
        ∃ es : List Event, (∀ e ∈ es, ∃ i, e = .run i ∨ e = .test i) ∧ (s.isCameraHeld = false → es = []) ∧
          Leaves s c es e (s.dispatch c).2 := by
  have hinv := h.inv
  refine ⟨fun es hes e herr => refused_leaves hinv hfree hes herr, fun e herr => ?_⟩
  obtain ⟨o, hdone, hdispatch⟩ := s.dispatch_eq c
  rw [hdispatch] at herr ⊢
  obtain rfl : o = .error e := Option.some.inj herr
  rw [eventsOf_of_isFree hfree] at hdone
  have hleaves := refused_leaves hinv hfree (isCall_of_mem_rest _) hdone
  rw [eventsOf_of_isFree hfree]
  refine ⟨besides (s.step (.call c)).rest, fun e he => thread_of_mem_besides_rest he,
    fun hheld => besides_rest_of_not_held _ ?_, ?_⟩
  · rw [call_of_isFree hfree]
    exact hheld
  · exact hleaves.answered

/-- a test shot is announced, the camera refuses, and the announcement is taken back; meanwhile time passes -/
theorem refused_changes_nothing_test_shot :
    let setup := Telecommand.sequencerSetup ⟨3, 1000, false⟩
    let studio : Studio := { camera := { refusesConnect := true } }
    let s := (fresh studio "pictures" .listening).steps [.call setup, .proceed, .proceed]
    let es : List Event := [.proceed, .pass 7, .proceed, .test 0, .proceed]
    let t := (s.step (.call .testCapture)).steps es
    Reachable s ∧ s.isFree = true ∧
      ((s.step (.call .testCapture)).step .proceed).functions.map (·.life.isTesting) = [true] ∧
      t.call.isSome = true ∧ t.functions = s.functions ∧ t.studio = { s.studio with clock := 7 } := by
  intro setup studio s es t
  have h : Reachable s := ⟨studio, "pictures", .listening, leads_steps .refl _⟩
  have hfree : s.isFree = true := by decide +kernel
  have hleaves := (refused_changes_nothing h hfree .testCapture).1 es (by decide)
    (.function (.camera (.connect "no camera detected"))) rfl
  exact ⟨h, hfree, by decide +kernel, by decide +kernel, hleaves.functions (by decide), hleaves.studio (by decide) rfl⟩

/-- **A start or a test shot that is refused its thread has connected the camera.** -/
theorem refused_thread_leaves_camera_connected :
    let setup := Telecommand.sequencerSetup ⟨3, 1000, false⟩
    let refusal := "Resource temporarily unavailable (os error 11)"
    let s := (fresh {} "pictures" .listening).steps [.call setup, .proceed, .proceed, .threads (some refusal)]
    Reachable s ∧ s.isFree = true ∧ s.studio.camera.isConnected = false ∧ s.studio.camera.connects = 0 ∧
      ∀ c, c = .start ∨ c = .testCapture → ∃ e, (s.dispatch c).1 = some (.error e) ∧ e.isSpawn = true ∧
        (s.dispatch c).2.functions = s.functions ∧ (s.dispatch c).2.studio.camera.isConnected = true ∧
        (s.dispatch c).2.studio.camera.connects = 1 := by
  intro setup refusal s
  refine ⟨⟨{}, "pictures", .listening, leads_steps .refl _⟩, by decide +kernel, by decide +kernel, by decide +kernel, ?_⟩
  rintro c (rfl | rfl)
  · refine ⟨.function (.spawn "camctl-sequencer" refusal), by decide +kernel, rfl, ?_, ?_, ?_⟩ <;> decide +kernel
  · refine ⟨.function (.spawn "camctl-test-capture" refusal), by decide +kernel, rfl, ?_, ?_, ?_⟩ <;> decide +kernel

end Station

end RemoteShutter
