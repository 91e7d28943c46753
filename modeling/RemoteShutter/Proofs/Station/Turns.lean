/-
Commands come to their end.

A command in progress goes on by steps of its own, and where it needs the camera while a capture holds it, that capture
ends first. `turnsLeft` counts the steps and the captures that may still be ahead.
- `turnsLeft_step`: every turn makes that number smaller.
- `isFree_of_turn?`: there is always a turn to make until the command is over.
- `rest_of_turn?`, `rest_of_isFree`: what a command has left is its next turn and what it has left then.
- `isFree_finish`: whatever is in progress comes to its end.
- `dispatch_answers`: a command that is carried out is answered, wherever that begins and whoever holds the camera.
-/
import Mathlib.Tactic
import RemoteShutter.Proofs.Station.Calls

namespace RemoteShutter

namespace CaptureFunction

/-- a run that holds the camera does not wait for it -/
theorem any_needsCamera_run {f : CaptureFunction} (h : f.run.any RunPoint.holdsCamera = true) :
    f.run.any RunPoint.needsCamera = false := by
  obtain ⟨p, hp, hholds⟩ := (Option.any_eq_true _ _).1 h
  rw [hp, Option.any_some]
  cases p with
  | fire => rfl
  | _ => cases hholds

theorem any_needsCamera_test {f : CaptureFunction} (h : f.test.any TestPoint.holdsCamera = true) :
    f.test.any TestPoint.needsCamera = false := by
  obtain ⟨p, hp, hholds⟩ := (Option.any_eq_true _ _).1 h
  rw [hp, Option.any_some]
  cases p with
  | fire => rfl
  | _ => cases hholds

/-- a capture of the run ends with its next step -/
theorem holders_stepRun {f : CaptureFunction} (h : f.run.any RunPoint.holdsCamera = true) (studio : Studio) :
    (f.stepRun studio).1.holders < f.holders := by
  obtain ⟨p, hp, hholds⟩ := (Option.any_eq_true _ _).1 h
  cases p with
  | fire taken start mode =>
    simp only [stepRun, hp, RunPoint.step]
    split <;> simp [holders, hp, RunPoint.holdsCamera]
  | _ => cases hholds

theorem holders_stepTest {f : CaptureFunction} (h : f.test.any TestPoint.holdsCamera = true) (studio : Studio) :
    (f.stepTest studio).1.holders < f.holders := by
  obtain ⟨p, hp, hholds⟩ := (Option.any_eq_true _ _).1 h
  cases p with
  | fire folder mode => simp [stepTest, hp, TestPoint.step, holders, TestPoint.holdsCamera]
  | _ => cases hholds

end CaptureFunction

namespace Station

variable {s : Station} {p : CallPoint} {e : Event}

/-! ## Threads that hold the camera -/

/-- what one function adds to a sum over all, and what the others do -/
theorem exists_sum_set (amount : CaptureFunction → Nat) {fs : List CaptureFunction} {i : Nat} {f : CaptureFunction}
    (hf : fs[i]? = some f) : ∃ n, (fs.map amount).sum = n + amount f ∧
      ∀ g, ((fs.set i g).map amount).sum = n + amount g := by
  induction fs generalizing i with
  | nil => cases hf
  | cons k fs ih =>
    cases i with
    | zero =>
      obtain rfl : k = f := Option.some.inj hf
      exact ⟨(fs.map amount).sum, Nat.add_comm _ _, fun g => Nat.add_comm _ _⟩
    | succ i =>
      obtain ⟨n, hn, hset⟩ := ih hf
      refine ⟨amount k + n, ?_, fun g => ?_⟩
      · rw [List.map_cons, List.sum_cons, hn, Nat.add_assoc]
      · rw [List.set_cons_succ, List.map_cons, List.sum_cons, hset, Nat.add_assoc]

theorem holders_eq (s : Station) : s.holders = (s.functions.map CaptureFunction.holders).sum := rfl

@[simp] theorem holders_say (s : Station) (es : List LogEvent) : (s.say es).holders = s.holders := rfl

@[simp] theorem holders_goTo (s : Station) (p : CallPoint) : (s.goTo p).holders = s.holders := rfl

@[simp] theorem holders_finishCall (s : Station) (o : Outcome) : (s.finishCall o).holders = s.holders := rfl

theorem holders_updateActive {change : CaptureFunction → CaptureFunction} (h : ∀ f, (change f).holders ≤ f.holders) :
    (s.updateActive change).holders ≤ s.holders := by
  rcases List.eq_nil_or_concat' s.functions with hnil | ⟨old, f, hs⟩
  · rw [holders_eq, functions_updateActive_nil hnil]
    exact Nat.zero_le _
  · simpa [holders_eq, functions_updateActive hs, hs] using h f

theorem holders_updateLife (s : Station) (change : Lifecycle → Lifecycle) :
    (s.updateLife change).holders ≤ s.holders :=
  holders_updateActive fun _ => le_rfl

theorem holders_withActive {act : CaptureFunction → Station} (h : ∀ f, (act f).holders ≤ s.holders) :
    (s.withActive act).holders ≤ s.holders := by
  unfold withActive
  split
  · exact h _
  · exact le_rfl

theorem holders_abort (s : Station) : s.abort.holders ≤ s.holders := by
  unfold abort
  split
  · split_ifs
    · exact (s.say _).holders_updateLife _
    · exact le_rfl
  · exact le_rfl

/-- a new function comes without threads -/
theorem holders_install (s : Station) (plan : Plan) (download : Bool) :
    (s.install plan download).holders ≤ s.holders := by
  have habort := (s.say (configured plan download)).holders_abort
  rw [holders_say] at habort
  simpa [install, holders_eq, CaptureFunction.holders] using habort

theorem holders_beginCall (s : Station) (c : Telecommand) : (s.beginCall c).holders ≤ s.holders := by
  unfold beginCall
  cases c with
  | sequencerSetup | intervalometerSetup => dsimp only; split_ifs <;> exact le_rfl
  | start => exact holders_withActive (s := s.say _) fun f => by split <;> exact le_rfl
  | stop => exact holders_withActive (s := s.say _) fun f => by split_ifs <;> exact le_rfl
  | testCapture =>
    refine holders_withActive (s := s.say _) fun f => ?_
    split
    · exact le_rfl
    · rw [holders_goTo]
      exact holders_updateLife _ _
  | downloadAfterExposure b =>
    refine holders_withActive (s := s.say _) fun f => ?_
    rw [holders_finishCall, holders_say]
    exact holders_updateLife _ _
  | reconnect | testConnection => exact le_rfl
  | shutdown | reboot => dsimp only [requestPower]; split <;> exact le_rfl

/-- **No step of a command takes the camera for a capture.** -/
theorem holders_stepCall (s : Station) (p : CallPoint) : (s.stepCall p).holders ≤ s.holders := by
  have hlaunch : ∀ f : CaptureFunction, f.launch.holders ≤ f.holders := fun f => by
    simp [CaptureFunction.holders, CaptureFunction.launch, RunPoint.holdsCamera]
  have hlaunchTest : ∀ f : CaptureFunction, f.launchTest.holders ≤ f.holders := fun f => by
    simp [CaptureFunction.holders, CaptureFunction.launchTest, TestPoint.holdsCamera]
  cases p with
  | begin c => exact s.holders_beginCall c
  | build c =>
    simp only [stepCall]
    split
    · exact le_rfl
    · exact le_rfl
    · exact s.holders_install _ _
  | startReady | testReady | reconnect => simp only [stepCall]; split <;> exact le_rfl
  | startCommit =>
    refine holders_withActive fun f => ?_
    split
    · exact le_rfl
    · exact le_rfl
    · rw [holders_goTo]
      exact s.holders_updateLife _
  | startLaunch =>
    refine holders_withActive fun f => ?_
    split
    · exact s.holders_updateLife _
    · exact holders_updateActive hlaunch
  | testLaunch =>
    simp only [stepCall]
    split
    · exact s.holders_updateLife _
    · exact holders_updateActive hlaunchTest
  | raise | testWithdraw => exact s.holders_updateLife _
  | probe | identify | done => exact le_rfl

/-- the step of a thread that has a capture to end -/
theorem captureEnd?_eq_some (h : s.captureEnd? = some e) : ∃ i f, s.functions[i]? = some f ∧
    (e = .run i ∧ f.run.any RunPoint.holdsCamera = true ∨ e = .test i ∧ f.test.any TestPoint.holdsCamera = true) := by
  obtain ⟨⟨f, i⟩, hmem, hf⟩ := List.exists_of_findSome?_eq_some h
  refine ⟨i, f, List.mem_zipIdx_iff_getElem?.1 hmem, ?_⟩
  dsimp only at hf
  split_ifs at hf with hrun htest
  · exact .inl ⟨(Option.some.inj hf).symm, hrun⟩
  · exact .inr ⟨(Option.some.inj hf).symm, htest⟩

theorem exists_captureEnd (h : s.isCameraHeld = true) : ∃ e, s.captureEnd? = some e := by
  obtain ⟨f, hf, hholds⟩ := List.any_eq_true.1 h
  obtain ⟨i, hi⟩ := List.getElem?_of_mem hf
  rw [← Option.isSome_iff_exists, captureEnd?, List.findSome?_isSome_iff]
  refine ⟨(f, i), List.mem_zipIdx_iff_getElem?.2 hi, ?_⟩
  rcases Bool.or_eq_true_iff.1 hholds with hrun | htest
  · simp [hrun]
  · dsimp only
    split_ifs <;> rfl

theorem holders_stepFunction {i : Nat} {f : CaptureFunction} (hf : s.functions[i]? = some f)
    {act : CaptureFunction → Studio → CaptureFunction × Studio} (hless : (act f s.studio).1.holders < f.holders) :
    (s.stepFunction i act).holders < s.holders := by
  obtain ⟨n, hn, hset⟩ := exists_sum_set CaptureFunction.holders hf
  simp only [stepFunction, hf, holders_eq, hn, hset]
  omega

/-- the end of a capture gives the camera back, and the command stays where it is -/
theorem captureEnd_step (h : s.captureEnd? = some e) : (s.step e).holders < s.holders ∧ (s.step e).call = s.call := by
  obtain ⟨i, f, hf, ⟨rfl, hholds⟩ | ⟨rfl, hholds⟩⟩ := captureEnd?_eq_some h
  · have hmay : s.mayStep (s.functions[i]?.any fun f => f.run.any RunPoint.needsCamera) = true := by
      simp [mayStep, hf, CaptureFunction.any_needsCamera_run hholds]
    simp only [step, hmay, if_true]
    exact ⟨holders_stepFunction hf (CaptureFunction.holders_stepRun hholds _), by simp only [stepFunction, hf]⟩
  · have hmay : s.mayStep (s.functions[i]?.any fun f => f.test.any TestPoint.needsCamera) = true := by
      simp [mayStep, hf, CaptureFunction.any_needsCamera_test hholds]
    simp only [step, hmay, if_true]
    exact ⟨holders_stepFunction hf (CaptureFunction.holders_stepTest hholds _), by simp only [stepFunction, hf]⟩

/-- the camera is held as long as there is somebody who holds it -/
theorem isCameraHeld_eq_false_iff : s.isCameraHeld = false ↔ s.holders = 0 := by
  have hnone : ∀ f : CaptureFunction, f.holdsCamera = false ↔ f.holders = 0 := fun f => by
    simp only [CaptureFunction.holdsCamera, CaptureFunction.holders]
    cases f.run.any RunPoint.holdsCamera <;> cases f.test.any TestPoint.holdsCamera <;> simp
  rw [holders_eq, List.sum_eq_zero_iff]
  simp [isCameraHeld, hnone]

/-! ## Steps of a command -/

/-- the command has come to a point with fewer steps left -/
def GetsOn (t : Station) (n : Nat) : Prop :=
  ∃ q, t.call = some q ∧ q.stepsLeft < n

theorem getsOn_withActive {act : CaptureFunction → Station} {n : Nat} (h : ∀ f, (act f).GetsOn n) :
    (s.withActive act).GetsOn n := by
  unfold withActive
  split
  · exact h _
  · -- a command that fails for want of a function is over
    obtain ⟨_, -, hlt⟩ := h { plan := .sequencer ⟨.unbounded, 0⟩, folder := "" }
    exact ⟨_, rfl, Nat.zero_lt_of_lt hlt⟩

theorem getsOn_beginCall (s : Station) (c : Telecommand) : (s.beginCall c).GetsOn 4 := by
  have hdone : ∀ (t : Station) o, (t.finishCall o).GetsOn 4 := fun t o => ⟨_, rfl, by simp [CallPoint.stepsLeft]⟩
  unfold beginCall
  cases c with
  | sequencerSetup | intervalometerSetup =>
    dsimp only
    split_ifs
    · exact hdone _ _
    · exact ⟨_, rfl, by simp [CallPoint.stepsLeft]⟩
  | start =>
    refine getsOn_withActive fun f => ?_
    split
    · exact hdone _ _
    · exact hdone _ _
    · exact ⟨_, rfl, by simp [CallPoint.stepsLeft]⟩
  | stop =>
    refine getsOn_withActive fun f => ?_
    split_ifs
    · exact ⟨_, rfl, by simp [CallPoint.stepsLeft]⟩
    · exact hdone _ _
  | testCapture =>
    refine getsOn_withActive fun f => ?_
    split
    · exact hdone _ _
    · exact ⟨_, rfl, by simp [CallPoint.stepsLeft]⟩
  | downloadAfterExposure b => exact getsOn_withActive fun f => hdone _ _
  | reconnect | testConnection => exact ⟨_, rfl, by simp [CallPoint.stepsLeft]⟩
  | shutdown | reboot => dsimp only [requestPower]; split <;> exact hdone _ _

/-- **Every step brings a command nearer to its end.** -/
theorem getsOn_stepCall (s : Station) (hp : ∀ o, p ≠ .done o) : (s.stepCall p).GetsOn p.stepsLeft := by
  cases p with
  | begin c => exact s.getsOn_beginCall c
  | build c => simp only [stepCall]; split <;> exact ⟨_, rfl, by simp [CallPoint.stepsLeft]⟩
  | startReady | testReady | reconnect => simp only [stepCall]; split <;> exact ⟨_, rfl, by simp [CallPoint.stepsLeft]⟩
  | startCommit => exact getsOn_withActive fun f => by split <;> exact ⟨_, rfl, by simp [CallPoint.stepsLeft]⟩
  | startLaunch => exact getsOn_withActive fun f => by split <;> exact ⟨_, rfl, by simp [CallPoint.stepsLeft]⟩
  | testLaunch => simp only [stepCall]; split <;> exact ⟨_, rfl, by simp [CallPoint.stepsLeft]⟩
  | raise | testWithdraw | probe | identify => exact ⟨_, rfl, by simp [CallPoint.stepsLeft]⟩
  | done o => exact absurd rfl (hp o)

/-! ## Turns -/

/-- what a turn is -/
theorem turn?_eq_some (h : s.turn? = some e) : ∃ p, s.call = some p ∧ (∀ o, p ≠ .done o) ∧
    (e = .proceed ∧ s.step e = s.stepCall p ∨ s.captureEnd? = some e) := by
  unfold turn? at h
  split at h
  · cases h
  · cases h
  · next p hne hc =>
    refine ⟨p, hc, hne, ?_⟩
    split_ifs at h with hmay
    · obtain rfl := Option.some.inj h
      exact .inl ⟨rfl, by simp only [step, hc, hmay, if_true]⟩
    · exact .inr h

/-- a command that waits has a capture to wait for -/
theorem isFree_of_turn? (h : s.turn? = none) : s.isFree = true := by
  unfold turn? at h
  unfold isFree
  split at h
  · next hc => rw [hc]
  · next hc => rw [hc]
  · next p hne hc =>
    split_ifs at h with hmay
    have hheld : s.isCameraHeld = true := by
      simp only [mayStep, Bool.not_eq_true', Bool.not_eq_false, Bool.and_eq_true] at hmay
      exact hmay.2
    obtain ⟨e, he⟩ := exists_captureEnd hheld
    rw [h] at he
    cases he

theorem turn?_of_isFree (h : s.isFree = true) : s.turn? = none := by
  unfold isFree at h
  unfold turn?
  split at h
  · next hc => rw [hc]
  · next hc => rw [hc]
  · cases h

/-- **Every turn makes fewer of them left.** -/
theorem turnsLeft_step (h : s.turn? = some e) : (s.step e).turnsLeft < s.turnsLeft := by
  obtain ⟨p, hc, hp, ⟨rfl, hstep⟩ | hend⟩ := turn?_eq_some h
  · obtain ⟨q, hq, hlt⟩ := s.getsOn_stepCall hp
    have hholders := s.holders_stepCall p
    simp only [turnsLeft, hstep, hq, hc, Option.map_some, Option.getD_some]
    omega
  · obtain ⟨hholders, hcall⟩ := captureEnd_step hend
    simp only [turnsLeft, hcall]
    omega

/-- with enough fuel it does not matter how much there is -/
theorem turns_eq {n m : Nat} (hn : s.turnsLeft ≤ n) (hm : s.turnsLeft ≤ m) : turns n s = turns m s := by
  induction n generalizing s m with
  | zero =>
    cases ht : s.turn? with
    | none => cases m <;> simp [turns, ht]
    | some e => exact absurd (turnsLeft_step ht) (by omega)
  | succ n ih =>
    cases ht : s.turn? with
    | none => cases m <;> simp [turns, ht]
    | some e =>
      have hlt := turnsLeft_step ht
      obtain ⟨m, rfl⟩ : ∃ k, m = k + 1 := ⟨m - 1, by omega⟩
      simp only [turns, ht]
      rw [ih (by omega) (show (s.step e).turnsLeft ≤ m by omega)]

theorem rest_of_turn? (h : s.turn? = some e) : s.rest = e :: (s.step e).rest := by
  have hlt := turnsLeft_step h
  rw [rest, turns_eq le_rfl (show s.turnsLeft ≤ s.turnsLeft + 1 by omega), turns, h]
  dsimp only
  rw [rest, turns_eq (show (s.step e).turnsLeft ≤ s.turnsLeft by omega) le_rfl]

theorem rest_of_isFree (h : s.isFree = true) : s.rest = [] := by
  have ht := turn?_of_isFree h
  unfold rest
  cases s.turnsLeft <;> simp [turns, ht]

theorem finish_of_turn? (h : s.turn? = some e) : s.finish = (s.step e).finish := by
  rw [finish, rest_of_turn? h]
  rfl

theorem finish_of_isFree (h : s.isFree = true) : s.finish = s := by
  rw [finish, rest_of_isFree h]
  rfl

/-- what a turn keeps, and a command that is over has, is so of every station -/
theorem induction_on_turns {motive : Station → Prop} (free : ∀ s : Station, s.isFree = true → motive s)
    (turn : ∀ (s : Station) (e : Event), s.turn? = some e → motive (s.step e) → motive s) (s : Station) : motive s := by
  induction hn : s.turnsLeft using Nat.strong_induction_on generalizing s with
  | _ n ih =>
    cases ht : s.turn? with
    | none => exact free s (isFree_of_turn? ht)
    | some e => exact turn s e ht (ih _ (hn ▸ turnsLeft_step ht) (s.step e) rfl)

/-- **What is in progress comes to its end.** -/
theorem isFree_finish (s : Station) : s.finish.isFree = true := by
  induction s using induction_on_turns with
  | free s h => rwa [finish_of_isFree h]
  | turn s e h ih => rwa [finish_of_turn? h]

/-! ## Answers -/

/-- a turn is a step of the command, or of a thread -/
def Event.isTurn : Event → Bool
  | .proceed | .run _ | .test _ => true
  | _ => false

theorem isTurn_of_turn? (h : s.turn? = some e) : e.isTurn = true := by
  obtain ⟨-, -, -, ⟨rfl, -⟩ | hend⟩ := turn?_eq_some h
  · rfl
  · obtain ⟨i, f, -, ⟨rfl, -⟩ | ⟨rfl, -⟩⟩ := captureEnd?_eq_some hend <;> rfl

theorem isTurn_of_mem_rest (s : Station) : ∀ e ∈ s.rest, e.isTurn = true := by
  induction s using induction_on_turns with
  | free s h => simp [rest_of_isFree h]
  | turn s e h ih =>
    rw [rest_of_turn? h, List.forall_mem_cons]
    exact ⟨isTurn_of_turn? h, ih⟩

/-- a command that has begun stays until it is answered -/
theorem exists_answer_of_call (h : s.call.isSome = true) : ∃ o, s.finish.call = some (.done o) := by
  induction s using induction_on_turns with
  | free s hfree =>
    rw [finish_of_isFree hfree]
    obtain ⟨p, hp⟩ := Option.isSome_iff_exists.1 h
    cases p <;> simp_all [isFree]
  | turn s e ht ih =>
    rw [finish_of_turn? ht]
    apply ih
    obtain ⟨p, hc, hp, ⟨rfl, hstep⟩ | hend⟩ := turn?_eq_some ht
    · obtain ⟨q, hq, -⟩ := s.getsOn_stepCall hp
      rw [hstep, hq]
      rfl
    · rw [(captureEnd_step hend).2, hc]
      rfl

/-- the events of a command that is carried out: what is in progress ends, and then the command begins and ends -/
def eventsOf (s : Station) (c : Telecommand) : List Event :=
  s.rest ++ .call c :: (s.finish.step (.call c)).rest

theorem steps_append (s : Station) (es es' : List Event) : s.steps (es ++ es') = (s.steps es).steps es' :=
  List.foldl_append

theorem steps_eventsOf (s : Station) (c : Telecommand) :
    s.steps (s.eventsOf c) = (s.finish.step (.call c)).finish := by
  rw [eventsOf, steps_append]
  rfl

theorem call_of_isFree (h : s.isFree = true) (c : Telecommand) : s.step (.call c) = s.goTo (.begin c) := by
  simp only [step, h, if_true]

/-- **A command that is carried out comes to an answer**, and that is all that is left of it. -/
theorem dispatch_eq (s : Station) (c : Telecommand) : ∃ o, (s.steps (s.eventsOf c)).call = some (.done o) ∧
    s.dispatch c = (some o, { s.steps (s.eventsOf c) with call := none }) := by
  have hbegun : (s.finish.step (.call c)).call.isSome = true := by
    rw [call_of_isFree s.isFree_finish]
    rfl
  obtain ⟨o, ho⟩ := exists_answer_of_call hbegun
  refine ⟨o, (steps_eventsOf s c).symm ▸ ho, ?_⟩
  rw [steps_eventsOf]
  simp only [dispatch, ho]

theorem dispatch_answers (s : Station) (c : Telecommand) : ∃ o, (s.dispatch c).1 = some o := by
  obtain ⟨o, -, ho⟩ := s.dispatch_eq c
  exact ⟨o, by rw [ho]⟩

theorem dispatch_snd (s : Station) (c : Telecommand) :
    (s.dispatch c).2 = { s.steps (s.eventsOf c) with call := none } := by
  obtain ⟨o, -, ho⟩ := s.dispatch_eq c
  rw [ho]

/-- where no command is in progress nothing has to be waited for first -/
theorem eventsOf_of_isFree (h : s.isFree = true) (c : Telecommand) : s.eventsOf c = .call c :: (s.step (.call c)).rest := by
  rw [eventsOf, rest_of_isFree h, finish_of_isFree h, List.nil_append]

end Station

end RemoteShutter
