/-
The camera when work starts.

A start and a test shot look at the camera once before they go on. The look connects a camera that is apart, and asks one
that is connected whether it answers; it does not ask one that it has just connected.
- `IsCheck.getsReady`: a look after which a command goes on has found a camera ready, whatever else goes on.
- `unchecked_proceed`: before that look no step of a command starts anything.
- `work_starts_connected`: a function that is started, and a test shot that is granted, have had a camera that was
  connected, and that answered unless the look itself had to connect it.
- `work_starts_unanswered`: in that case work starts on a camera that does not answer.
-/
import Mathlib.Tactic
import RemoteShutter.Proofs.Station.Refusals

namespace RemoteShutter

/-- the steps of its threads do not start a function -/
theorem CaptureFunction.Progress.phase {f g : CaptureFunction} (h : f.Progress g) (hg : g.life.phase = .started) :
    f.life.phase = .started := by
  induction h with
  | refl => exact hg
  | @run g _ studio ih =>
    apply ih
    unfold stepRun at hg
    cases hr : g.run with
    | none => simpa [hr] using hg
    | some p =>
      simp only [hr] at hg
      rcases p.step_life g.plan g.folder g.life studio with ⟨-, hl⟩ | ⟨q, -, hk⟩
      · simp [hl, Lifecycle.finish] at hg
      · rwa [hk.phase] at hg
  | @test g _ studio ih =>
    apply ih
    unfold stepTest at hg
    cases ht : g.test with
    | none => simpa [ht] using hg
    | some p =>
      simp only [ht] at hg
      rcases p.step_life g.plan g.folder g.life studio with ⟨-, hl⟩ | ⟨q, -, hl⟩
      · simpa [hl, Lifecycle.endTest] using hg
      · simpa [hl] using hg

namespace Station

variable {s t u : Station} {old : List CaptureFunction} {f g : CaptureFunction} {c : Telecommand} {p : CallPoint}

/-- the next step is a look at the camera after which the command goes on -/
inductive IsCheck (s : Station) : Prop where
  | start (before : s.call = some .startReady) (after : (s.step .proceed).call = some .startCommit)
  | test (before : s.call = some .testReady) (after : (s.step .proceed).call = some .testLaunch)

theorem IsCheck.getsReady (h : s.IsCheck) : s.studio.camera.GetsReady (s.step .proceed).studio.camera := by
  cases h with
  | start before after | test before after =>
    simp only [step, before] at after ⊢
    split_ifs at after ⊢
    · simp only [stepCall] at after ⊢
      split at after
      · cases after
      · next camera log hready => exact Camera.getsReady_of_ok hready
    · rw [before] at after
      cases after

/-! ## Before it -/

/-- on the way from s to t no function has been started -/
structure StartsNone (s t : Station) : Prop where
  length : t.functions.length = s.functions.length
  phase : ∀ (i : Nat) (f g : CaptureFunction), s.functions[i]? = some f → t.functions[i]? = some g →
    g.life.phase = .started → f.life.phase = .started

theorem startsNone_of_eq (h : t.functions = s.functions) : StartsNone s t := by
  refine ⟨by rw [h], ?_⟩
  intro i f g hf hg hstarted
  rw [h, hf, Option.some.injEq] at hg
  rwa [hg]

theorem StartsNone.trans (h : StartsNone s t) (h' : StartsNone t u) : StartsNone s u := by
  refine ⟨h'.length.trans h.length, ?_⟩
  intro i f k hf hk hstarted
  have hlt : i < t.functions.length := by
    rw [h.length]
    exact (List.getElem?_eq_some_iff.1 hf).1
  exact h.phase i f t.functions[i] hf (List.getElem?_eq_getElem hlt)
    (h'.phase i t.functions[i] k (List.getElem?_eq_getElem hlt) hk hstarted)

theorem Advances.startsNone (h : Advances s t) : StartsNone s t := by
  refine ⟨h.length, ?_⟩
  intro i f g hf hg hstarted
  obtain ⟨g', hg', hprogress⟩ := h.progress i f hf
  rw [hg, Option.some.injEq] at hg'
  subst hg'
  exact hprogress.phase hstarted

/-- the active function changes, and not in its phase -/
theorem startsNone_concat (hs : s.functions = old ++ [f]) (ht : t.functions = old ++ [g])
    (hphase : g.life.phase = f.life.phase) : StartsNone s t := by
  refine ⟨by simp [hs, ht], ?_⟩
  intro i f' g' hf hg hstarted
  rw [hs] at hf
  rw [ht] at hg
  rcases Nat.lt_or_ge i old.length with hlt | hge
  · rw [List.getElem?_append_left hlt] at hf hg
    rw [hf, Option.some.injEq] at hg
    rwa [hg]
  · rw [List.getElem?_append_right hge, List.getElem?_singleton] at hf hg
    split_ifs at hf hg
    rw [Option.some.injEq] at hf hg
    rwa [← hf, ← hphase, hg]

/-- where a start or a test shot stands that has not passed its look at the camera -/
inductive Unchecked : Telecommand → CallPoint → Prop where
  | start : Unchecked .start (.begin .start)
  | startReady : Unchecked .start .startReady
  | startAnswered (o : Outcome) : Unchecked .start (.done o)
  | test : Unchecked .testCapture (.begin .testCapture)
  | testReady : Unchecked .testCapture .testReady
  | testWithdraw (e : CameraError) : Unchecked .testCapture (.testWithdraw e)
  | testRefused (e : DispatchError) : Unchecked .testCapture (.done (.error e))

/-- the command goes on without a look at the camera -/
structure GoesUnchecked (c : Telecommand) (s t : Station) : Prop where
  call : ∃ p, t.call = some p ∧ Unchecked c p
  none : StartsNone s t

theorem unchecked_begin_start : GoesUnchecked .start s (s.stepCall (.begin .start)) := by
  simp only [stepCall, beginCall]
  rcases List.eq_nil_or_concat' s.functions with hnil | ⟨old, f, hs⟩
  · simp only [withActive, active?, say, hnil, List.getLast?_nil]
    exact ⟨⟨_, rfl, .startAnswered _⟩, startsNone_of_eq hnil.symm⟩
  · rw [withActive_eq (s := s.say _) hs]
    rcases f.life.canStart with e | _ | _
    · exact ⟨⟨_, rfl, .startAnswered _⟩, startsNone_of_eq rfl⟩
    · exact ⟨⟨_, rfl, .startAnswered _⟩, startsNone_of_eq rfl⟩
    · exact ⟨⟨_, rfl, .startReady⟩, startsNone_of_eq rfl⟩

theorem unchecked_begin_test : GoesUnchecked .testCapture s (s.stepCall (.begin .testCapture)) := by
  simp only [stepCall, beginCall]
  rcases List.eq_nil_or_concat' s.functions with hnil | ⟨old, f, hs⟩
  · simp only [withActive, active?, say, hnil, List.getLast?_nil]
    exact ⟨⟨_, rfl, .testRefused _⟩, startsNone_of_eq hnil.symm⟩
  · rw [withActive_eq (s := s.say _) hs]
    cases hb : f.life.beginTest with
    | error e => exact ⟨⟨_, rfl, .testRefused _⟩, startsNone_of_eq rfl⟩
    | ok life =>
      obtain ⟨-, rfl⟩ := (f.life.beginTest_eq_ok_iff life).1 hb
      exact ⟨⟨_, rfl, .testReady⟩, startsNone_concat hs (functions_updateActive (s := s.say _) hs _) rfl⟩

theorem unchecked_testWithdraw (e : CameraError) : GoesUnchecked .testCapture s (s.stepCall (.testWithdraw e)) := by
  refine ⟨⟨_, rfl, .testRefused _⟩, ?_⟩
  rcases List.eq_nil_or_concat' s.functions with hnil | ⟨old, f, hs⟩
  · apply startsNone_of_eq
    exact (functions_updateActive_nil hnil _).trans hnil.symm
  · exact startsNone_concat hs (functions_updateActive hs _) rfl

/-- a step of a command is made, or waits for the camera -/
theorem step_proceed_cases (hc : s.call = some p) : s.step .proceed = s ∨ s.step .proceed = s.stepCall p := by
  simp only [step, hc]
  split_ifs
  · exact .inr rfl
  · exact .inl rfl

/-- **A step of such a command is a look at the camera after which it goes on, or starts nothing.** -/
theorem unchecked_proceed (hp : Unchecked c p) (hc : s.call = some p) :
    s.IsCheck ∨ GoesUnchecked c s (s.step .proceed) := by
  have hstep : ∀ {q}, s.call = some q → q.needsCamera = false → s.step .proceed = s.stepCall q := step_proceed
  cases hp with
  | start => exact .inr (hstep hc rfl ▸ unchecked_begin_start)
  | test => exact .inr (hstep hc rfl ▸ unchecked_begin_test)
  | testWithdraw e => exact .inr (hstep hc rfl ▸ unchecked_testWithdraw e)
  | startAnswered o => exact .inr (hstep hc rfl ▸ ⟨⟨_, rfl, .startAnswered o⟩, startsNone_of_eq rfl⟩)
  | testRefused e => exact .inr (hstep hc rfl ▸ ⟨⟨_, rfl, .testRefused e⟩, startsNone_of_eq rfl⟩)
  | startReady =>
    rcases step_proceed_cases hc with hsame | hnow
    · exact .inr (hsame.symm ▸ ⟨⟨_, hc, .startReady⟩, startsNone_of_eq rfl⟩)
    · rcases hready : s.studio.camera.ensureReady with ⟨e | _, camera, log⟩
      · right
        simp only [hnow, stepCall, hready]
        exact ⟨⟨_, rfl, .startAnswered _⟩, startsNone_of_eq rfl⟩
      · left
        apply IsCheck.start hc
        simp only [hnow, stepCall, hready]
        rfl
  | testReady =>
    rcases step_proceed_cases hc with hsame | hnow
    · exact .inr (hsame.symm ▸ ⟨⟨_, hc, .testReady⟩, startsNone_of_eq rfl⟩)
    · rcases hready : s.studio.camera.ensureReady with ⟨e | _, camera, log⟩
      · right
        simp only [hnow, stepCall, hready]
        exact ⟨⟨_, rfl, .testWithdraw e⟩, startsNone_of_eq rfl⟩
      · left
        apply IsCheck.test hc
        simp only [hnow, stepCall, hready]
        rfl

/-! ## Whole commands -/

/-- the events up to one of them are behind a look at the camera after which the command went on -/
def HasChecked (s : Station) (es : List Event) : Prop :=
  ∃ es₁ es₂, es = es₁ ++ .proceed :: es₂ ∧ (s.steps es₁).IsCheck

theorem HasChecked.concat {es : List Event} (h : HasChecked s es) (e : Event) : HasChecked s (es ++ [e]) := by
  obtain ⟨es₁, es₂, rfl, hcheck⟩ := h
  exact ⟨es₁, es₂ ++ [e], by simp, hcheck⟩

theorem unchecked_or_checked (hfree : s.isFree = true) (hc : c = .start ∨ c = .testCapture) {es : List Event}
    (hes : ∀ e ∈ es, e.isCall = false) :
    GoesUnchecked c s ((s.step (.call c)).steps es) ∨ HasChecked (s.step (.call c)) es := by
  induction es using List.reverseRecOn with
  | nil =>
    left
    rw [call_of_isFree hfree]
    refine ⟨⟨_, rfl, ?_⟩, startsNone_of_eq rfl⟩
    rcases hc with rfl | rfl
    · exact .start
    · exact .test
  | append_singleton es e ih =>
    have hconcat := steps_concat (s.step (.call c)) es e
    rcases ih fun e' he' => hes e' (List.mem_append_left _ he') with hgoes | hchecked
    · rw [hconcat]
      obtain ⟨p, hcall, hp⟩ := hgoes.call
      cases hcmd : e.isCommand with
      | false =>
        left
        have hnone := (advances_besides (s := (s.step (.call c)).steps es) hcmd).startsNone
        exact ⟨⟨p, (call_besides hcmd).trans hcall, hp⟩, hgoes.none.trans hnone⟩
      | true =>
        obtain rfl := Event.eq_proceed hcmd (hes e (by simp))
        rcases unchecked_proceed hp hcall with hcheck | hnext
        · exact .inr ⟨es, [], rfl, hcheck⟩
        · exact .inl ⟨hnext.call, hgoes.none.trans hnext.none⟩
    · exact .inr (hchecked.concat e)

/-- what a start and a test shot are for: some function has been started, or the test shot is granted -/
inductive WorkStarts (s t : Station) : Telecommand → Prop where
  | start {i : Nat} {f g : CaptureFunction} (before : s.functions[i]? = some f) (after : t.functions[i]? = some g)
      (idle : f.life.phase ≠ .started) (started : g.life.phase = .started) : WorkStarts s t .start
  | test (granted : t.call = some (.done (.ok ()))) : WorkStarts s t .testCapture

theorem workStarts_start (i : Nat) (before : s.functions[i]?.any (·.life.phase ≠ .started) = true)
    (after : t.functions[i]?.any (·.life.phase = .started) = true) : WorkStarts s t .start := by
  obtain ⟨f, hf, hidle⟩ := (Option.any_eq_true _ _).1 before
  obtain ⟨g, hg, hstarted⟩ := (Option.any_eq_true _ _).1 after
  exact .start hf hg (of_decide_eq_true hidle) (of_decide_eq_true hstarted)

theorem WorkStarts.hasChecked (hfree : s.isFree = true) {es : List Event} (hes : ∀ e ∈ es, e.isCall = false)
    (h : WorkStarts s ((s.step (.call c)).steps es) c) : HasChecked (s.step (.call c)) es := by
  cases h with
  | start before after idle started =>
    rcases unchecked_or_checked hfree (.inl rfl) hes with hgoes | hchecked
    · exact absurd (hgoes.none.phase _ _ _ before after started) idle
    · exact hchecked
  | test granted =>
    rcases unchecked_or_checked hfree (.inr rfl) hes with hgoes | hchecked
    · obtain ⟨p, hcall, hp⟩ := hgoes.call
      rw [granted, Option.some.injEq] at hcall
      subst hcall
      cases hp
    · exact hchecked

/-- the command has looked at the camera, found it ready and gone on, and this is what it knows of it then -/
structure FindsReady (s : Station) : Prop where
  isCheck : s.IsCheck
  ready : s.studio.camera.GetsReady (s.step .proceed).studio.camera
  isConnected : (s.step .proceed).studio.camera.isConnected = true
  isResponsive : (s.step .proceed).studio.camera.isResponsive = true ↔
    s.studio.camera.isConnected = true ∨ s.studio.camera.isUnresponsive = false

theorem IsCheck.findsReady (h : s.IsCheck) : s.FindsReady where
  isCheck := h
  ready := h.getsReady
  isConnected := h.getsReady.isConnected
  isResponsive := h.getsReady.isResponsive_iff

/-- **Work starts on a camera that is connected, and that has been asked for an answer if it was connected before.** Take
any station at which a command may begin, so any history of commands, threads and faults, and let a start or a test shot
begin there, with whatever threads and faults in between. If a function has been started by it, or the test shot is
granted, then one of its steps was a look at the camera after which it went on. The camera behind that look was
connected. Either it had been connected and answering before, and the look has left it as it was; or it had been apart,
did not refuse to be connected, and the look has connected it. It answers then just if it had been connected, or was not
unresponsive to begin with. The same holds of a command that is carried out. -/
theorem work_starts_connected (hfree : s.isFree = true) (c : Telecommand) :
    (∀ es, (∀ e ∈ es, e.isCall = false) → WorkStarts s ((s.step (.call c)).steps es) c →
      ∃ es₁ es₂, es = es₁ ++ .proceed :: es₂ ∧ ((s.step (.call c)).steps es₁).FindsReady) ∧
      (WorkStarts s (s.step (.call c)).finish c →
        ∃ es₁ es₂, (s.step (.call c)).rest = es₁ ++ .proceed :: es₂ ∧ ((s.step (.call c)).steps es₁).FindsReady) := by
  have hchecks : ∀ es, (∀ e ∈ es, e.isCall = false) → WorkStarts s ((s.step (.call c)).steps es) c →
      ∃ es₁ es₂, es = es₁ ++ .proceed :: es₂ ∧ ((s.step (.call c)).steps es₁).FindsReady := by
    intro es hes hwork
    obtain ⟨es₁, es₂, hsplit, hcheck⟩ := hwork.hasChecked hfree hes
    exact ⟨es₁, es₂, hsplit, hcheck.findsReady⟩
  exact ⟨hchecks, hchecks _ (isCall_of_mem_rest _)⟩

/-- a function is started on a camera that is pulled out and has been connected again, and a test shot is granted -/
theorem work_starts_connected_after_unplugging :
    let setup := Telecommand.sequencerSetup ⟨3, 1000, false⟩
    let s := (fresh { camera := { isConnected := true } } "pictures" .listening).steps
      [.call setup, .proceed, .proceed, .fault .unplug]
    let es : List Event := [.proceed, .pass 7, .proceed, .fault .unplug, .proceed]
    s.isFree = true ∧ WorkStarts s ((s.step (.call .start)).steps es) .start ∧
      (∃ es₁ es₂, es = es₁ ++ .proceed :: es₂ ∧ ((s.step (.call .start)).steps es₁).FindsReady) ∧
      WorkStarts s (s.step (.call .testCapture)).finish .testCapture ∧
      ∃ es₁ es₂, (s.step (.call .testCapture)).rest = es₁ ++ .proceed :: es₂ ∧
        ((s.step (.call .testCapture)).steps es₁).FindsReady := by
  intro setup s es
  have hfree : s.isFree = true := by decide +kernel
  have hstart : WorkStarts s ((s.step (.call .start)).steps es) .start :=
    workStarts_start 0 (by decide +kernel) (by decide +kernel)
  have htest : WorkStarts s (s.step (.call .testCapture)).finish .testCapture := .test rfl
  exact ⟨hfree, hstart, (work_starts_connected hfree .start).1 es (by decide) hstart, htest,
    (work_starts_connected hfree .testCapture).2 htest⟩

/-- **Work also starts on a camera that does not answer**, if the look has connected it: nobody has asked it. -/
theorem work_starts_unanswered :
    let setup := Telecommand.sequencerSetup ⟨3, 1000, false⟩
    let s := (fresh {} "pictures" .listening).steps [.fault (.answer false), .call setup, .proceed, .proceed]
    Reachable s ∧ s.isFree = true ∧ ∀ c, c = .start ∨ c = .testCapture →
      let before := (s.step (.call c)).step .proceed
      before.IsCheck ∧ (before.step .proceed).studio.camera.isResponsive = false ∧
        WorkStarts s (s.step (.call c)).finish c ∧ (s.dispatch c).1 = some (.ok ()) := by
  intro setup s
  have hreachable : Reachable s := ⟨{}, "pictures", .listening, leads_steps .refl _⟩
  refine ⟨hreachable, by decide +kernel, ?_⟩
  rintro c (rfl | rfl)
  · have hwork : WorkStarts s (s.step (.call .start)).finish .start :=
      workStarts_start 0 (by decide +kernel) (by decide +kernel)
    exact ⟨.start rfl rfl, by decide +kernel, hwork, by decide +kernel⟩
  · exact ⟨.test rfl rfl, by decide +kernel, .test rfl, by decide +kernel⟩

end Station

end RemoteShutter
