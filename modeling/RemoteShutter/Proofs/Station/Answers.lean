/-
How a setup is answered.

A setup looks at the active function in its first step and is answered one step later.
- `stepCall_setup`: what the first step finds, and that it changes nothing.
- `answer_steps`: the answer is busy just if the first step found the active function operating, whatever events come
  before the answer.
- `dispatch_setup`: the same for a setup that is carried out at once; `dispatch_setup_idle`: then the plan decides.
-/
import Mathlib.Tactic
import RemoteShutter.Proofs.Station.Turns

namespace RemoteShutter

/-- the command sets a function up -/
def Telecommand.isSetup : Telecommand → Bool
  | sequencerSetup _ | intervalometerSetup _ => true
  | _ => false

namespace Station

variable {s : Station} {c : Telecommand} {o : Outcome} {es : List Event} {isBusy : Bool}

/-! ## The first step -/

/-- a setup looks whether the active function is operating -/
theorem stepCall_setup (hc : c.isSetup = true) :
    (s.stepCall (.begin c)).functions = s.functions ∧ (s.stepCall (.begin c)).studio = s.studio ∧
      (s.stepCall (.begin c)).call =
        some (if s.active?.any CaptureFunction.isOperating then .done (.error .busy) else .build c) := by
  cases c with
  | sequencerSetup | intervalometerSetup =>
    have hsay : ∀ es, (s.say es).active? = s.active? := fun _ => rfl
    simp only [stepCall, beginCall, hsay]
    split_ifs <;> exact ⟨rfl, rfl, rfl⟩
  | _ => cases hc

/-! ## Answers to a setup -/

/-- no command begins -/
def Event.isCall : Event → Bool
  | .call _ => true
  | _ => false

/-- while a command is carried out no other begins -/
theorem isCall_of_mem_rest (s : Station) : ∀ e ∈ s.rest, e.isCall = false := by
  intro e he
  have hturn := isTurn_of_mem_rest s e he
  cases e with
  | call => cases hturn
  | _ => rfl

/-- the setup has found a function that it may replace, or its answer is not busy -/
def IsAdmitted (s : Station) (c : Telecommand) : Prop :=
  s.call = some (.build c) ∨ ∃ o, s.call = some (.done o) ∧ o ≠ .error .busy

/-- a command goes on only where it proceeds -/
theorem call_step {e : Event} (he : e.isCall = false) : (s.step e).call = s.call ∨
    ∃ p, s.call = some p ∧ (s.step e).call = (s.stepCall p).call := by
  cases e with
  | call c => cases he
  | proceed =>
    simp only [step]
    split
    · exact .inl rfl
    · next p hc =>
      split_ifs
      · exact .inr ⟨p, hc, rfl⟩
      · exact .inl rfl
  | run i | test i =>
    simp only [step, stepFunction]
    split_ifs
    · split <;> exact .inl rfl
    · exact .inl rfl
  | pass | fault | threads => exact .inl rfl
  | set | download => simp only [step]; split_ifs <;> exact .inl rfl

theorem call_stepCall_build (s : Station) (c : Telecommand) :
    ∃ o, (s.stepCall (.build c)).call = some (.done o) ∧ o ≠ .error .busy := by
  simp only [stepCall]
  split
  · exact ⟨_, rfl, by simp⟩
  · exact ⟨_, rfl, by simp⟩
  · exact ⟨_, rfl, by simp⟩

theorem isAdmitted_step {e : Event} (h : IsAdmitted s c) (he : e.isCall = false) :
    IsAdmitted (s.step e) c := by
  rcases call_step (s := s) he with hsame | ⟨p, hp, hnext⟩
  · exact h.imp hsame.trans fun ⟨o, ho, hne⟩ => ⟨o, hsame.trans ho, hne⟩
  · refine .inr ?_
    rcases h with hb | ⟨o, ho, hne⟩
    · obtain rfl : p = .build c := by rwa [hb, Option.some.injEq, eq_comm] at hp
      obtain ⟨o, ho, hne⟩ := call_stepCall_build s c
      exact ⟨o, hnext.trans ho, hne⟩
    · obtain rfl : p = .done o := by rwa [ho, Option.some.injEq, eq_comm] at hp
      exact ⟨o, hnext, hne⟩

/-- an answer stays until the next command begins -/
theorem call_steps_done (h : s.call = some (.done o)) (hes : ∀ e ∈ es, e.isCall = false) :
    (s.steps es).call = some (.done o) := by
  induction es generalizing s with
  | nil => exact h
  | cons e es ih =>
    refine ih ?_ fun e' he' => hes e' (List.mem_cons_of_mem e he')
    rcases call_step (s := s) (hes e List.mem_cons_self) with hsame | ⟨p, hp, hnext⟩
    · exact hsame.trans h
    · obtain rfl : p = .done o := by rwa [h, Option.some.injEq, eq_comm] at hp
      exact hnext

theorem isAdmitted_steps (h : IsAdmitted s c) (hes : ∀ e ∈ es, e.isCall = false) : IsAdmitted (s.steps es) c := by
  induction es generalizing s with
  | nil => exact h
  | cons e es ih =>
    exact ih (isAdmitted_step h (hes e List.mem_cons_self)) fun e' he' => hes e' (List.mem_cons_of_mem e he')

/-- a setup is answered with busy just if it was found to be impossible -/
theorem answer_steps (h : s.call = some (if isBusy then .done (.error .busy) else .build c))
    (hes : ∀ e ∈ es, e.isCall = false) (ho : (s.steps es).call = some (.done o)) :
    o = .error .busy ↔ isBusy = true := by
  cases isBusy with
  | true =>
    have hbusy := (call_steps_done h hes).symm.trans ho
    rw [Option.some.injEq, CallPoint.done.injEq] at hbusy
    exact ⟨fun _ => rfl, fun _ => hbusy.symm⟩
  | false =>
    rcases isAdmitted_steps (.inl h) hes with hb | ⟨o', ho', hne⟩
    · rw [ho] at hb
      cases hb
    · rw [ho, Option.some.injEq, CallPoint.done.injEq] at ho'
      exact ⟨fun hb => absurd (ho'.symm.trans hb) hne, fun habs => absurd habs Bool.false_ne_true⟩

/-- a step that does not need the camera is not held up -/
theorem step_proceed {p : CallPoint} (h : s.call = some p) (hp : p.needsCamera = false) :
    s.step .proceed = s.stepCall p := by
  simp only [step, h, mayStep, hp, Bool.false_and, Bool.not_false, if_true]

/-- it is answered in the step after it has looked -/
theorem answered_step (h : s.call = some (if isBusy then .done (.error .busy) else .build c)) :
    ∃ o, (s.step .proceed).call = some (.done o) := by
  cases isBusy with
  | true => exact ⟨_, by rw [step_proceed h rfl]; rfl⟩
  | false =>
    obtain ⟨o, ho, -⟩ := call_stepCall_build s c
    exact ⟨o, by rw [step_proceed h rfl]; exact ho⟩

/-! ## Dispatching a setup -/

/-- a step that does not need the camera is what comes next -/
theorem finish_of_step {p : CallPoint} (h : s.call = some p) (hp : p.needsCamera = false) (hne : ∀ o, p ≠ .done o) :
    s.finish = (s.stepCall p).finish := by
  have hturn : s.turn? = some .proceed := by
    unfold turn?
    rw [h]
    cases p with
    | done o => exact absurd rfl (hne o)
    | _ => simp [mayStep, hp]
  rw [finish_of_turn? hturn, step_proceed h hp]

theorem finish_of_done (h : s.call = some (.done o)) : s.finish = s :=
  finish_of_isFree (by rw [isFree, h])

/-- where a command ends that begins at once -/
theorem dispatch_of_done (hfree : s.isFree = true) (h : (s.step (.call c)).finish.call = some (.done o)) :
    s.dispatch c = (some o, { (s.step (.call c)).finish with call := none }) := by
  simp only [dispatch, finish_of_isFree hfree, h]

/-- the first step of a setup that begins at once -/
theorem finish_setup (hfree : s.isFree = true) (hc : c.isSetup = true) :
    ∃ t : Station, (s.step (.call c)).finish = t.finish ∧ t.functions = s.functions ∧ t.studio = s.studio ∧
      t.call = some (if s.active?.any CaptureFunction.isOperating then .done (.error .busy) else .build c) := by
  obtain ⟨hfunctions, hstudio, hnext⟩ := stepCall_setup (s := s.goTo (.begin c)) hc
  refine ⟨(s.goTo (.begin c)).stepCall (.begin c), ?_, hfunctions, hstudio, hnext⟩
  rw [call_of_isFree hfree, finish_of_step (s := s.goTo (.begin c)) (p := .begin c) rfl rfl fun o => by simp]

/-- while no function operates, the answer is what becomes of the plan -/
theorem dispatch_setup_idle (hfree : s.isFree = true) (hidle : s.active?.any CaptureFunction.isOperating = false)
    (hc : c.isSetup = true) : ∃ (t : Station) (o : Outcome), t.functions = s.functions ∧
      (t.stepCall (.build c)).call = some (.done o) ∧ o ≠ .error .busy ∧
      s.dispatch c = (some o, { t.stepCall (.build c) with call := none }) := by
  obtain ⟨t, hfirst, hfunctions, -, hnext⟩ := finish_setup hfree hc
  rw [hidle, if_neg Bool.false_ne_true] at hnext
  obtain ⟨o, ho, hne⟩ := call_stepCall_build t c
  have hend : (s.step (.call c)).finish = t.stepCall (.build c) := by
    rw [hfirst, finish_of_step hnext rfl (fun o => by simp), finish_of_done ho]
  refine ⟨t, o, hfunctions, ho, hne, ?_⟩
  rw [dispatch_of_done hfree (by rw [hend, ho]), hend]

theorem dispatch_setup (hfree : s.isFree = true) (hc : c.isSetup = true) :
    ∃ o, (s.dispatch c).1 = some o ∧ (o = .error .busy ↔ s.active?.any CaptureFunction.isOperating = true) ∧
      (o = .error .busy → (s.dispatch c).2.functions = s.functions ∧ (s.dispatch c).2.studio = s.studio) := by
  cases hon : s.active?.any CaptureFunction.isOperating with
  | true =>
    obtain ⟨t, hfirst, hfunctions, hstudio, hnext⟩ := finish_setup hfree hc
    rw [hon, if_pos rfl] at hnext
    rw [finish_of_done hnext] at hfirst
    have hd := dispatch_of_done (c := c) (o := .error .busy) hfree (by rw [hfirst, hnext])
    rw [hfirst] at hd
    exact ⟨_, by rw [hd], by simp, fun _ => by rw [hd]; exact ⟨hfunctions, hstudio⟩⟩
  | false =>
    obtain ⟨t, o, -, -, hne, hd⟩ := dispatch_setup_idle hfree hon hc
    exact ⟨o, by rw [hd], by simpa using hne, fun habs => absurd habs hne⟩

end Station

end RemoteShutter
