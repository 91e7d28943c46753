/-
What a station says does not matter to it.

`silent` leaves out the log. Stations that differ in nothing else stay so, whatever happens to them: nobody reads the
log (`silent_step`, `silent_dispatch`).
-/
import Mathlib.Tactic
import RemoteShutter.Proofs.Station.Turns

namespace RemoteShutter.Station

/-- the station without what was said -/
def silent (s : Station) : Station :=
  { s with log := [] }

variable (s : Station)

@[simp] theorem active?_silent : s.silent.active? = s.active? := rfl

@[simp] theorem active?_say (es : List LogEvent) : (s.say es).active? = s.active? := rfl

@[simp] theorem power_silent : s.silent.power = s.power := rfl

@[simp] theorem studio_silent : s.silent.studio = s.studio := rfl

@[simp] theorem functions_silent : s.silent.functions = s.functions := rfl

@[simp] theorem call_silent : s.silent.call = s.call := rfl

@[simp] theorem threadFault_silent : s.silent.threadFault = s.threadFault := rfl

/-- something is done or not, on two sides -/
theorem silent_ite (b : Bool) {s t s' t' : Station} (h : s.silent = t.silent) (h' : s'.silent = t'.silent) :
    (if b then s' else s).silent = (if b then t' else t).silent := by
  cases b
  · exact h
  · exact h'

/-! ## Commands -/

/-- something is done with the active function, on two sides -/
theorem silent_withActive {s t : Station} (h : s.silent = t.silent) {act act' : CaptureFunction → Station}
    (hact : ∀ f, (act f).silent = (act' f).silent) : (s.withActive act).silent = (t.withActive act').silent := by
  have hactive : s.active? = t.active? := by rw [← active?_silent s, h, active?_silent]
  rw [withActive, withActive, hactive]
  cases t.active? with
  | some f => exact hact f
  | none => exact congrArg (·.finishCall (.error .noFunction)) h

theorem silent_install (plan : Plan) (download : Bool) :
    (s.install plan download).silent = (s.silent.install plan download).silent := by
  simp only [install, abort, active?_say, active?_silent]
  cases s.active? with
  | none => rfl
  | some f =>
    dsimp only
    split_ifs <;> rfl

theorem silent_requestPower (a : PowerAction) : (s.requestPower a).silent = (s.silent.requestPower a).silent := by
  simp only [requestPower, power_silent]
  cases s.power <;> rfl

theorem silent_beginCall (c : Telecommand) : (s.beginCall c).silent = (s.silent.beginCall c).silent := by
  have hsaid : ∀ es, (s.say es).silent = (s.silent.say es).silent := fun _ => rfl
  cases c with
  | sequencerSetup | intervalometerSetup =>
    simp only [beginCall]
    exact silent_ite (s.active?.any CaptureFunction.isOperating) rfl rfl
  | start =>
    simp only [beginCall]
    refine silent_withActive (hsaid _) fun f => ?_
    rcases f.life.canStart with e | _ | _ <;> rfl
  | stop =>
    simp only [beginCall]
    refine silent_withActive (hsaid _) fun f => ?_
    cases f.life.canAbort <;> rfl
  | testCapture =>
    simp only [beginCall]
    refine silent_withActive (hsaid _) fun f => ?_
    cases f.life.beginTest <;> rfl
  | downloadAfterExposure b =>
    simp only [beginCall]
    exact silent_withActive (hsaid _) fun f => rfl
  | shutdown | reboot =>
    simp only [beginCall]
    rw [silent_requestPower (s.say _), silent_requestPower (s.silent.say _), hsaid]
  | testConnection | reconnect => rfl

theorem silent_stepCall (p : CallPoint) : (s.stepCall p).silent = (s.silent.stepCall p).silent := by
  cases p with
  | begin c => exact silent_beginCall s c
  | build c =>
    simp only [stepCall]
    rcases planOf c with e | _ | ⟨plan, download⟩
    · rfl
    · rfl
    · exact congrArg (·.finishCall (.ok ())) (silent_install s plan download)
  | startReady | testReady =>
    simp only [stepCall, studio_silent]
    rcases s.studio.camera.ensureReady with ⟨e | _, camera, log⟩ <;> rfl
  | startCommit =>
    refine silent_withActive (s := s) (t := s.silent) rfl fun f => ?_
    rcases f.life.commitStart with e | ⟨_ | _, life⟩ <;> rfl
  | startLaunch =>
    refine silent_withActive (s := s) (t := s.silent) rfl fun f => ?_
    rw [threadFault_silent]
    cases s.threadFault <;> rfl
  | testLaunch =>
    simp only [stepCall, threadFault_silent]
    cases s.threadFault <;> rfl
  | reconnect =>
    simp only [stepCall, studio_silent]
    rcases s.studio.camera.reconnect with ⟨e | _, camera, log⟩ <;> rfl
  | raise | testWithdraw | probe | identify | done => rfl

/-! ## Whatever happens -/

theorem silent_stepFunction (i : Nat) (act : CaptureFunction → Studio → CaptureFunction × Studio) :
    (s.stepFunction i act).silent = (s.silent.stepFunction i act).silent := by
  simp only [stepFunction, functions_silent]
  cases s.functions[i]? <;> rfl

/-- **Nobody reads the log.** -/
theorem silent_step (e : Event) : (s.step e).silent = (s.silent.step e).silent := by
  cases e with
  | call c => exact silent_ite s.isFree rfl rfl
  | proceed =>
    simp only [step, call_silent]
    cases s.call with
    | none => rfl
    | some p => exact silent_ite (s.mayStep p.needsCamera) rfl (silent_stepCall s p)
  | run i | test i => exact silent_ite (s.mayStep _) rfl (silent_stepFunction s i _)
  | pass | fault | threads => rfl
  | set | download => exact silent_ite s.isCameraHeld rfl rfl

theorem silent_steps (es : List Event) : (s.steps es).silent = (s.silent.steps es).silent := by
  induction es generalizing s with
  | nil => rfl
  | cons e es ih =>
    show ((s.step e).steps es).silent = ((s.silent.step e).steps es).silent
    rw [ih (s.step e), silent_step, ← ih]

/-- nor does what a command has left depend on it -/
theorem turns_silent (n : Nat) : turns n s.silent = turns n s := by
  induction n generalizing s with
  | zero => rfl
  | succ n ih =>
    have hturn : s.silent.turn? = s.turn? := rfl
    simp only [turns, hturn]
    cases s.turn? with
    | none => rfl
    | some e => simp only [← ih (s.silent.step e), ← silent_step, ih (s.step e)]

theorem silent_finish : s.finish.silent = s.silent.finish.silent := by
  have hrest : s.silent.rest = s.rest := s.turns_silent _
  rw [finish, finish, hrest, silent_steps]

/-- a command is carried out alike, and ends alike -/
theorem silent_dispatch (c : Telecommand) :
    (s.dispatch c).2.silent = (s.silent.dispatch c).2.silent ∧ (s.dispatch c).1 = (s.silent.dispatch c).1 := by
  have hcalled : (s.finish.step (.call c)).silent = (s.silent.finish.step (.call c)).silent := by
    rw [silent_step, silent_finish, ← silent_step]
  have hsame : (s.finish.step (.call c)).finish.silent = (s.silent.finish.step (.call c)).finish.silent := by
    rw [silent_finish, hcalled, ← silent_finish]
  simp only [dispatch]
  generalize (s.finish.step (.call c)).finish = u at hsame
  generalize (s.silent.finish.step (.call c)).finish = v at hsame
  have hcall : u.call = v.call := by rw [← call_silent u, hsame, call_silent]
  rw [hcall]
  split
  · exact ⟨congrArg (fun t => { t with call := none }) hsame, rfl⟩
  · exact ⟨hsame, rfl⟩

end RemoteShutter.Station
