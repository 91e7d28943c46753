/-
Reconnects that nobody notices.

A reconnect takes the camera, drops its connection and makes a new one, all in one piece. If the camera was connected and
does not refuse, two of its counters are all that has changed.
- `step_redialled`: a station whose camera was reconnected more often does the same as the other.
- `withoutReconnects`: a history of a station without the commands to reconnect.
- `Sim`: what the two histories have in common at each moment; `sim_redial`, `sim_other`: an event of a reconnect keeps
  it, and so does every other event.
- `reconnects_invisible`: so the two histories come to the same.
-/
import Mathlib.Tactic
import RemoteShutter.Proofs.Camera.Redials
import RemoteShutter.Proofs.Station.Besides
import RemoteShutter.Proofs.Station.Silent

namespace RemoteShutter.Station

/-! ## Stations with more reconnects behind them -/

/-- the station after n more reconnects of its camera -/
def redialled (s : Station) (n : Nat) : Station :=
  { s with studio := s.studio.redialled n }

variable {s t u : Station} {n : Nat}

@[simp] theorem call_redialled : (s.redialled n).call = s.call := rfl

@[simp] theorem functions_redialled : (s.redialled n).functions = s.functions := rfl

@[simp] theorem studio_redialled : (s.redialled n).studio = s.studio.redialled n := rfl

@[simp] theorem power_redialled : (s.redialled n).power = s.power := rfl

@[simp] theorem active?_redialled : (s.redialled n).active? = s.active? := rfl

@[simp] theorem threadFault_redialled : (s.redialled n).threadFault = s.threadFault := rfl

/-- something is done or not, on both sides -/
theorem redialled_ite (b : Bool) {t' u' : Station} (h : t' = t.redialled n) (h' : u' = u.redialled n) :
    (if b then t' else u') = (if b then t else u).redialled n := by
  cases b
  · exact h'
  · exact h

/-- something is done with the active function, on both sides -/
theorem redialled_withActive {act act' : CaptureFunction → Station} (h : ∀ f, act' f = (act f).redialled n) :
    (s.redialled n).withActive act' = (s.withActive act).redialled n := by
  rw [withActive, withActive, active?_redialled]
  cases s.active? with
  | some f => exact h f
  | none => rfl

theorem redialled_requestPower (a : PowerAction) :
    (s.redialled n).requestPower a = (s.requestPower a).redialled n := by
  simp only [requestPower, power_redialled]
  cases s.power <;> rfl

theorem redialled_beginCall (c : Telecommand) : (s.redialled n).beginCall c = (s.beginCall c).redialled n := by
  have hsaid : ∀ es, (s.redialled n).say es = (s.say es).redialled n := fun _ => rfl
  simp only [beginCall, hsaid]
  generalize s.say _ = s
  cases c with
  | sequencerSetup | intervalometerSetup => exact redialled_ite (s.active?.any CaptureFunction.isOperating) rfl rfl
  | start =>
    apply redialled_withActive
    intro f
    rcases f.life.canStart with e | _ | _ <;> rfl
  | stop =>
    apply redialled_withActive
    intro f
    exact redialled_ite f.life.canAbort rfl rfl
  | testCapture =>
    apply redialled_withActive
    intro f
    cases f.life.beginTest <;> rfl
  | downloadAfterExposure b => exact redialled_withActive fun f => rfl
  | shutdown | reboot => exact redialled_requestPower _
  | testConnection | reconnect => rfl

theorem redialled_abort : (s.redialled n).abort = s.abort.redialled n := by
  simp only [abort, active?_redialled]
  cases s.active? with
  | none => rfl
  | some f => exact redialled_ite f.life.canAbort rfl rfl

theorem redialled_install (plan : Plan) (download : Bool) :
    (s.redialled n).install plan download = (s.install plan download).redialled n := by
  have habort : ((s.redialled n).say (configured plan download)).abort =
      (s.say (configured plan download)).abort.redialled n := redialled_abort (s := s.say _)
  simp only [install, habort]
  rfl

theorem redialled_stepCall (p : CallPoint) : (s.redialled n).stepCall p = (s.stepCall p).redialled n := by
  cases p with
  | begin c => exact redialled_beginCall c
  | build c =>
    simp only [stepCall]
    rcases planOf c with e | _ | ⟨plan, download⟩
    · rfl
    · rfl
    · exact congrArg (·.finishCall (.ok ())) (redialled_install plan download)
  | startReady | testReady =>
    simp only [stepCall, studio_redialled, Studio.camera_redialled, Camera.ensureReady_redialled]
    rcases s.studio.camera.ensureReady with ⟨e | _, camera, log⟩ <;> rfl
  | startCommit =>
    apply redialled_withActive
    intro f
    rcases f.life.commitStart with e | ⟨_ | _, life⟩ <;> rfl
  | startLaunch =>
    apply redialled_withActive
    intro f
    rw [threadFault_redialled]
    cases s.threadFault <;> rfl
  | testLaunch =>
    simp only [stepCall, threadFault_redialled]
    cases s.threadFault <;> rfl
  | reconnect =>
    simp only [stepCall, studio_redialled, Studio.camera_redialled, Camera.reconnect, Camera.disconnect_redialled,
      Camera.connect_redialled]
    rcases s.studio.camera.disconnect.connect with ⟨e | _, camera, log⟩ <;> rfl
  | raise | testWithdraw | probe | identify | done => rfl

theorem redialled_stepFunction (i : Nat) {act : CaptureFunction → Studio → CaptureFunction × Studio}
    (h : ∀ f studio, act f (Studio.redialled studio n) = ((act f studio).1, (act f studio).2.redialled n)) :
    (s.redialled n).stepFunction i act = (s.stepFunction i act).redialled n := by
  simp only [stepFunction, functions_redialled, studio_redialled]
  cases s.functions[i]? with
  | none => rfl
  | some f =>
    simp only [h]
    rfl

/-- **Nobody looks at the two counters.** -/
theorem step_redialled (e : Event) : (s.redialled n).step e = (s.step e).redialled n := by
  cases e with
  | call c => exact redialled_ite s.isFree rfl rfl
  | proceed =>
    simp only [step, call_redialled]
    cases s.call with
    | none => rfl
    | some p => exact redialled_ite (s.mayStep p.needsCamera) (redialled_stepCall p) rfl
  | run i =>
    exact redialled_ite (s.mayStep _) (redialled_stepFunction i fun f studio => f.stepRun_redialled studio n) rfl
  | test i =>
    exact redialled_ite (s.mayStep _) (redialled_stepFunction i fun f studio => f.stepTest_redialled studio n) rfl
  | pass | threads => rfl
  | fault f => simp only [step, setCamera, studio_redialled, Studio.camera_redialled, Camera.suffer_redialled]; rfl
  | set name value =>
    apply redialled_ite s.isCameraHeld rfl
    simp only [setCamera, studio_redialled, Studio.camera_redialled, Camera.set_redialled]
    rfl
  | download shot folder =>
    apply redialled_ite s.isCameraHeld rfl
    simp only [studio_redialled, Studio.fetch_redialled]
    rfl

/-! ## What a history is made of -/

/-- what is collected along a history -/
def along {α : Type} (collect : Station → Event → List α) : Station → List Event → List α
  | _, [] => []
  | s, e :: es => collect s e ++ along collect (s.step e) es

/-- the command in progress is a reconnect -/
def isRedialling (s : Station) : Bool :=
  match s.call with
  | some (.begin .reconnect) | some .reconnect => true
  | _ => false

/-- the event belongs to a reconnect: a command to reconnect begins with it, or goes on, or turns another one away -/
def isRedial (s : Station) : Event → Bool
  | .call c => s.isRedialling || (s.isFree && c = .reconnect)
  | .proceed => s.isRedialling
  | _ => false

/-- the history without the commands to reconnect -/
def withoutReconnects : Station → List Event → List Event :=
  along fun s e => if s.isRedial e then [] else [e]

/-- the camera that is reconnected by an event, if one is -/
def redials (s : Station) : Event → List Camera
  | .proceed =>
    match s.call with
    | some .reconnect => if s.isCameraHeld then [] else [s.studio.camera]
    | _ => []
  | _ => []

/-- what a run does that is seen from outside -/
inductive Deed where
  | attempt (a : Attempt)
  | download (shot : Option Shot) (r : Except FunctionError Unit)
  | ends (reason : RunEnd)

/-- what the next step of the run of a function does -/
def deedsOf (f : CaptureFunction) (studio : Studio) : List Deed :=
  match f.run with
  | none => []
  | some p =>
    (p.attempt? f.plan studio).toList.map .attempt ++
      (p.fetch? f.folder f.life studio).toList.map (fun d => .download d.1 d.2) ++ p.end?.toList.map .ends

/-- what the run of some function does in an event, with the number of the function -/
def deeds (s : Station) : Event → List (Nat × Deed)
  | .run i =>
    if s.mayStep (s.functions[i]?.any fun f => f.run.any RunPoint.needsCamera) then
      ((s.functions[i]?.map (deedsOf · s.studio)).getD []).map (i, ·)
    else []
  | _ => []

theorem deedsOf_redialled (f : CaptureFunction) (studio : Studio) :
    deedsOf f (studio.redialled n) = deedsOf f studio := by
  unfold deedsOf
  cases f.run with
  | none => rfl
  | some p => simp only [p.attempt?_redialled, p.fetch?_redialled]

/-- what runs do depends on the functions and the studio, but not on the two counters -/
theorem deeds_eq (hf : t.functions = u.functions) (hs : t.studio = u.studio.redialled n) (e : Event) :
    t.deeds e = u.deeds e := by
  cases e with
  | run i =>
    have hmay : ∀ b, t.mayStep b = u.mayStep b := by
      intro b
      simp only [mayStep, isCameraHeld, hf]
    show (if t.mayStep _ then _ else _) = (if u.mayStep _ then _ else _)
    rw [hmay, hf, hs]
    simp only [deedsOf_redialled]
  | _ => rfl

/-! ## Two histories -/

/-- the station without its command and without what was said -/
def core (s : Station) : Station :=
  { s with call := none, log := [] }

theorem core_of_silent (h : s.silent = t.silent) : s.core = t.core :=
  congrArg (fun r => { r with call := none }) h

theorem silent_of_core (h : s.core = t.core) (hc : s.call = t.call) : s.silent = t.silent := by
  rcases s with ⟨⟩
  rcases t with ⟨⟩
  simp only [core, mk.injEq] at h
  simp only [silent, mk.injEq]
  simp_all

theorem core_ite (b : Bool) {s' t' : Station} (h : s.core = t.core) (h' : s'.core = t'.core) :
    (if b then s else s').core = (if b then t else t').core := by
  cases b
  · exact h'
  · exact h

/-- what happens beside the commands does not depend on them -/
theorem core_besides {e : Event} (he : e.isCommand = false) : (s.step e).core = (s.core.step e).core := by
  have hfunction : ∀ i act, (s.stepFunction i act).core = (s.core.stepFunction i act).core := by
    intro i act
    have hsame : s.core.functions[i]? = s.functions[i]? := rfl
    simp only [stepFunction, hsame]
    cases s.functions[i]? <;> rfl
  cases e with
  | call | proceed => cases he
  | run i | test i => exact core_ite (s.mayStep _) (hfunction i _) rfl
  | pass | fault | threads => rfl
  | set | download => exact core_ite s.isCameraHeld rfl rfl

/-- t has gone through a history with n reconnects, and u through the same one without them -/
structure Sim (n : Nat) (t u : Station) : Prop where
  core : t.core = (u.redialled n).core
  call : (t.isRedialling = false ∧ t.call = u.call) ∨
    ((t.isRedialling = true ∨ t.isFree = true) ∧ u.isFree = true)

theorem Sim.functions (h : Sim n t u) : t.functions = u.functions := by
  have hfunctions := congrArg Station.functions h.core
  exact hfunctions

theorem Sim.studio (h : Sim n t u) : t.studio = u.studio.redialled n := by
  have hstudio := congrArg Station.studio h.core
  exact hstudio

theorem isFree_of_call (h : t.call = u.call) : t.isFree = u.isFree := by
  rw [isFree, isFree, h]

theorem isRedialling_of_call (h : t.call = u.call) : t.isRedialling = u.isRedialling := by
  rw [isRedialling, isRedialling, h]

theorem not_isRedialling_of_isFree (h : s.isFree = true) : s.isRedialling = false := by
  unfold isFree at h
  unfold isRedialling
  split at h
  · next hc => simp [hc]
  · next hc => simp [hc]
  · cases h

theorem redials_eq_nil (h : s.isRedialling = false) (e : Event) : s.redials e = [] := by
  cases e with
  | proceed =>
    simp only [redials]
    split
    · next hc => simp [isRedialling, hc] at h
    · rfl
  | _ => rfl

/-- the other one never reconnects -/
theorem Sim.not_isRedialling (h : Sim n t u) : u.isRedialling = false := by
  rcases h.call with ⟨hno, hsame⟩ | ⟨-, hfree⟩
  · rw [← isRedialling_of_call hsame]
    exact hno
  · exact not_isRedialling_of_isFree hfree

theorem Sim.isFree (h : Sim n t u) (ht : t.isFree = true) : u.isFree = true := by
  rcases h.call with ⟨-, hsame⟩ | ⟨-, hfree⟩
  · rw [← isFree_of_call hsame]
    exact ht
  · exact hfree

/-! ### Events of a reconnect -/

theorem isFree_eq_false_of_isRedialling (h : s.isRedialling = true) : s.isFree = false := by
  cases hfree : s.isFree with
  | false => rfl
  | true =>
    rw [not_isRedialling_of_isFree hfree] at h
    cases h

/-- the command in progress is a reconnect that has begun, or that is about to take the camera -/
theorem isRedialling_iff : s.isRedialling = true ↔ s.call = some (.begin .reconnect) ∨ s.call = some .reconnect := by
  unfold isRedialling
  split
  · next hc => simp [hc]
  · next hc => simp [hc]
  · next hbegin hreconnect =>
    simp only [Bool.false_eq_true, false_iff, not_or]
    exact ⟨hbegin, hreconnect⟩

/-- the step in which the camera is reconnected -/
theorem core_reconnect (hconnected : s.studio.camera.isConnected = true) (hadmits : s.studio.camera.refusesConnect = false) :
    (s.stepCall .reconnect).core = (s.redialled 1).core ∧ (s.stepCall .reconnect).isFree = true := by
  obtain ⟨log, hreconnect⟩ := s.studio.camera.reconnect_eq hconnected hadmits
  simp only [stepCall, hreconnect]
  exact ⟨rfl, rfl⟩

/-- **An event that belongs to a reconnect leaves everything as it was**, but for the two counters if it is the one in
which the camera is reconnected. -/
theorem sim_redial (h : Sim n t u) {e : Event} (he : t.isRedial e = true)
    (hgood : ∀ c ∈ t.redials e, c.isConnected = true ∧ c.refusesConnect = false) :
    Sim (n + (t.redials e).length) (t.step e) u := by
  cases e with
  | call c =>
    simp only [isRedial, Bool.or_eq_true, Bool.and_eq_true, decide_eq_true_eq] at he
    rcases he with hon | ⟨hfree, rfl⟩
    · have hsame : t.step (.call c) = t := by
        simp only [step, isFree_eq_false_of_isRedialling hon, Bool.false_eq_true, if_false]
      rw [hsame]
      exact h
    · have hbegin : t.step (.call .reconnect) = t.goTo (.begin .reconnect) := by simp only [step, hfree, if_true]
      rw [hbegin]
      exact ⟨h.core, .inr ⟨.inl rfl, h.isFree hfree⟩⟩
  | proceed =>
    simp only [isRedial] at he
    have hu : u.isFree = true := by
      rcases h.call with ⟨hno, -⟩ | ⟨-, hfree⟩
      · rw [hno] at he
        cases he
      · exact hfree
    rcases isRedialling_iff.1 he with hc | hc
    · have hnone : t.redials .proceed = [] := by simp only [redials, hc]
      rw [step_proceed hc rfl, hnone]
      exact ⟨h.core, .inr ⟨.inl rfl, hu⟩⟩
    · cases hheld : t.isCameraHeld with
      | true =>
        have hsame : t.step .proceed = t := by simp [step, hc, mayStep, CallPoint.needsCamera, hheld]
        have hnone : t.redials .proceed = [] := by simp [redials, hc, hheld]
        rw [hsame, hnone]
        exact h
      | false =>
        have hnow : t.step .proceed = t.stepCall .reconnect := by simp [step, hc, mayStep, hheld]
        have hone : t.redials .proceed = [t.studio.camera] := by simp [redials, hc, hheld]
        rw [hone] at hgood ⊢
        obtain ⟨hconnected, hadmits⟩ := hgood t.studio.camera (List.mem_singleton_self _)
        obtain ⟨hcore, hfree⟩ := core_reconnect hconnected hadmits
        rw [hnow]
        refine ⟨?_, .inr ⟨.inr hfree, hu⟩⟩
        calc (t.stepCall .reconnect).core
            = t.core.redialled 1 := hcore
          _ = ((u.redialled n).core).redialled 1 := by rw [h.core]
          _ = (u.redialled (n + 1)).core := by simp [core, redialled, Studio.redialled]
  | _ => cases he

/-! ### Other events -/

theorem not_isRedialling_withActive {act : CaptureFunction → Station} (h : ∀ f, (act f).isRedialling = false) :
    (s.withActive act).isRedialling = false := by
  unfold withActive
  split
  · exact h _
  · rfl

/-- no other command comes to a reconnect -/
theorem not_isRedialling_stepCall {p : CallPoint} (hbegin : p ≠ .begin .reconnect) :
    (s.stepCall p).isRedialling = false := by
  cases p with
  | begin c =>
    simp only [stepCall, beginCall]
    cases c with
    | sequencerSetup | intervalometerSetup => dsimp only; split_ifs <;> rfl
    | start | testCapture =>
      apply not_isRedialling_withActive
      intro f
      split <;> rfl
    | stop =>
      apply not_isRedialling_withActive
      intro f
      split_ifs <;> rfl
    | downloadAfterExposure b => exact not_isRedialling_withActive fun f => rfl
    | shutdown | reboot => simp only [requestPower]; split <;> rfl
    | testConnection => rfl
    | reconnect => exact absurd rfl hbegin
  | build | startReady | testReady | testLaunch | reconnect => simp only [stepCall]; split <;> rfl
  | startCommit | startLaunch =>
    apply not_isRedialling_withActive
    intro f
    split <;> rfl
  | raise | testWithdraw | probe | identify | done => rfl

theorem not_isRedialling_step {e : Event} (hcmd : e.isCommand = true) (he : s.isRedial e = false)
    (hno : s.isRedialling = false) : (s.step e).isRedialling = false := by
  cases e with
  | call c =>
    simp only [step]
    split_ifs with hfree
    · simp only [isRedial, hno, hfree, Bool.false_or, Bool.true_and, decide_eq_false_iff_not] at he
      unfold isRedialling
      simp only [goTo]
      split
      · next hc => exact absurd (CallPoint.begin.inj (Option.some.inj hc)) he
      · next hc => cases hc
      · rfl
    · exact hno
  | proceed =>
    simp only [step]
    split
    · exact hno
    · next p hc =>
      split_ifs
      · apply not_isRedialling_stepCall
        rintro rfl
        rw [isRedialling_iff.2 (.inl hc)] at hno
        cases hno
      · exact hno
  | _ => cases hcmd

/-- without a command in progress there is no step to make -/
theorem proceed_of_isFree (h : s.isFree = true) : (s.step .proceed).core = s.core ∧ (s.step .proceed).isFree = true := by
  cases hc : s.call with
  | none =>
    have hsame : s.step .proceed = s := by simp only [step, hc]
    rw [hsame]
    exact ⟨rfl, h⟩
  | some p =>
    cases p with
    | done o =>
      rw [step_proceed hc rfl]
      exact ⟨rfl, rfl⟩
    | _ => simp [isFree, hc] at h

/-- what happens beside the commands happens in both -/
theorem sim_besides (h : Sim n t u) {e : Event} (hcmd : e.isCommand = false) : Sim n (t.step e) (u.step e) := by
  constructor
  · calc (t.step e).core
        = (t.core.step e).core := core_besides hcmd
      _ = ((u.redialled n).core.step e).core := by rw [h.core]
      _ = ((u.redialled n).step e).core := (core_besides hcmd).symm
      _ = ((u.step e).redialled n).core := by rw [step_redialled]
  · have ht := call_besides (s := t) hcmd
    have hu := call_besides (s := u) hcmd
    rw [isRedialling_of_call ht, isFree_of_call ht, isFree_of_call hu, ht, hu]
    exact h.call

/-- so does a step of another command, or the beginning of one -/
theorem sim_command (h : Sim n t u) {e : Event} (hcmd : e.isCommand = true) (he : t.isRedial e = false)
    (hno : t.isRedialling = false) (hsame : t.call = u.call) : Sim n (t.step e) (u.step e) := by
  have hnow : t.silent = (u.redialled n).silent := silent_of_core h.core hsame
  have hsilent : (t.step e).silent = ((u.step e).redialled n).silent := by
    calc (t.step e).silent
        = (t.silent.step e).silent := silent_step t e
      _ = ((u.redialled n).silent.step e).silent := by rw [hnow]
      _ = ((u.redialled n).step e).silent := (silent_step _ e).symm
      _ = ((u.step e).redialled n).silent := by rw [step_redialled]
  have hcall := congrArg Station.call hsilent
  exact ⟨core_of_silent hsilent, .inl ⟨not_isRedialling_step hcmd he hno, hcall⟩⟩

/-- **Any event that does not belong to a reconnect does the same in both.** -/
theorem sim_other (h : Sim n t u) {e : Event} (he : t.isRedial e = false) : Sim n (t.step e) (u.step e) := by
  cases hcmd : e.isCommand with
  | false => exact sim_besides h hcmd
  | true =>
    rcases h.call with ⟨hno, hsame⟩ | ⟨hon, hu⟩
    · exact sim_command h hcmd he hno hsame
    · -- behind a reconnect; the commands that were answered last may be different ones
      have ht : t.isFree = true := by
        rcases hon with hon | hfree
        · cases e with
          | call | proceed => simp [isRedial, hon] at he
          | _ => cases hcmd
        · exact hfree
      cases e with
      | call c =>
        simp only [isRedial, ht, Bool.true_and, Bool.or_eq_false_iff, decide_eq_false_iff_not] at he
        have hsame : Sim n (t.goTo (.begin c)) (u.goTo (.begin c)) := by
          refine ⟨h.core, .inl ⟨?_, rfl⟩⟩
          rw [Bool.eq_false_iff, ne_eq, isRedialling_iff]
          simpa [goTo] using he.2
        simp only [step, ht, hu, if_true]
        exact hsame
      | proceed =>
        obtain ⟨hcore, ht'⟩ := proceed_of_isFree ht
        obtain ⟨hcore', hu'⟩ := proceed_of_isFree hu
        refine ⟨?_, .inr ⟨.inr ht', hu'⟩⟩
        calc (t.step .proceed).core
            = t.core := hcore
          _ = (u.core).redialled n := h.core
          _ = ((u.step .proceed).core).redialled n := by rw [hcore']
      | _ => cases hcmd

/-! ## Whole histories -/

/-- the two histories go on side by side, and their runs do the same -/
theorem sim_steps (h : Sim n t u) (es : List Event)
    (hgood : ∀ c ∈ along redials t es, c.isConnected = true ∧ c.refusesConnect = false) :
    Sim (n + (along redials t es).length) (t.steps es) (u.steps (withoutReconnects t es)) ∧
      along deeds t es = along deeds u (withoutReconnects t es) ∧ along redials u (withoutReconnects t es) = [] := by
  induction es generalizing n t u with
  | nil => exact ⟨h, rfl, rfl⟩
  | cons e es ih =>
    have hlater : ∀ c ∈ along redials (t.step e) es, c.isConnected = true ∧ c.refusesConnect = false := by
      intro c hc
      exact hgood c (List.mem_append_right _ hc)
    cases he : t.isRedial e with
    | true =>
      have hnow : ∀ c ∈ t.redials e, c.isConnected = true ∧ c.refusesConnect = false := by
        intro c hc
        exact hgood c (List.mem_append_left _ hc)
      have hquiet : t.deeds e = [] := by
        cases e with
        | call | proceed => rfl
        | _ => cases he
      have hskip : withoutReconnects t (e :: es) = withoutReconnects (t.step e) es := by
        simp [withoutReconnects, along, he]
      obtain ⟨hsim, hdeeds, hnone⟩ := ih (sim_redial h he hnow) hlater
      rw [hskip]
      refine ⟨?_, ?_, hnone⟩
      · rw [along, List.length_append, ← Nat.add_assoc]
        exact hsim
      · rw [along, hquiet]
        exact hdeeds
    | false =>
      have hnothing : t.redials e = [] := by
        cases e with
        | proceed => exact redials_eq_nil he .proceed
        | _ => rfl
      have hkeep : withoutReconnects t (e :: es) = e :: withoutReconnects (t.step e) es := by
        simp [withoutReconnects, along, he]
      obtain ⟨hsim, hdeeds, hnone⟩ := ih (sim_other h he) hlater
      rw [hkeep]
      refine ⟨?_, ?_, ?_⟩
      · rw [along, hnothing]
        exact hsim
      · rw [along, along, deeds_eq h.functions h.studio, hdeeds]
      · rw [along, redials_eq_nil h.not_isRedialling, hnone]
        rfl

/-- **Reconnects are invisible to the runs.** Take any station that is not in the middle of a reconnect, and any history
of commands, threads and faults in which the camera is connected and does not refuse each time that it is reconnected.
Put beside it the same history without the commands to reconnect. There the camera is never reconnected, and yet the runs
of all functions do the same in the same order: each attempt to capture takes the same picture or fails alike, each
download asks for the same picture and goes alike, and each run ends for the same reason. The functions are the same in
the end, with their counts of exposures, statistics and last shots, so are files, clock and what was asked of the power,
and the camera is the same but for the counts of connections and disconnections, which are larger by the number of
reconnects. -/
theorem reconnects_invisible (s : Station) (es : List Event) (hs : s.isRedialling = false)
    (hgood : ∀ c ∈ along redials s es, c.isConnected = true ∧ c.refusesConnect = false) :
    let t := s.steps es
    let u := s.steps (withoutReconnects s es)
    let n := (along redials s es).length
    along redials s (withoutReconnects s es) = [] ∧ along deeds s es = along deeds s (withoutReconnects s es) ∧
      t.functions = u.functions ∧ t.studio.files = u.studio.files ∧ t.studio.clock = u.studio.clock ∧
      t.requests = u.requests ∧
      t.studio.camera = { u.studio.camera with
        connects := u.studio.camera.connects + .ofNat n
        disconnects := u.studio.camera.disconnects + .ofNat n } := by
  intro t u n
  have hstart : Sim 0 s s := ⟨by simp [redialled], .inl ⟨hs, rfl⟩⟩
  obtain ⟨hsim, hdeeds, hnone⟩ := sim_steps hstart es hgood
  rw [Nat.zero_add] at hsim
  have hrequests : t.requests = u.requests := by
    have h := congrArg Station.requests hsim.core
    exact h
  have hstudio : t.studio = u.studio.redialled n := hsim.studio
  refine ⟨hnone, hdeeds, hsim.functions, ?_, ?_, hrequests, ?_⟩
  · rw [hstudio]
    rfl
  · rw [hstudio]
    rfl
  · rw [hstudio]
    rfl

/-- a run of two pictures that are downloaded -/
def twoDownloads : List Event := List.flatten [
  [.call (.sequencerSetup ⟨2, 1000, true⟩), .proceed, .proceed, .call .start], List.replicate 4 .proceed,
  List.replicate 16 (.run 0)]

/-- the same run with a reconnect that waits for a capture, and one between a shot and its download -/
def twoDownloadsRedialled : List Event := List.flatten [
  [.call (.sequencerSetup ⟨2, 1000, true⟩), .proceed, .proceed, .call .start], List.replicate 4 .proceed,
  [.run 0, .run 0, .call .reconnect, .proceed, .proceed, .run 0, .proceed, .run 0, .run 0],
  [.call .reconnect, .proceed, .proceed], List.replicate 11 (.run 0)]

theorem reconnects_invisible_two_downloads :
    let s := fresh {} "" .listening
    withoutReconnects s twoDownloadsRedialled = twoDownloads ∧
      along deeds s twoDownloadsRedialled = along deeds s twoDownloads ∧
      (s.steps twoDownloadsRedialled).functions = (s.steps twoDownloads).functions ∧
      (s.steps twoDownloads).functions.map (·.life.stats.exposures) = [2] ∧
      (s.steps twoDownloads).studio.camera.downloads = 2 ∧
      (s.steps twoDownloadsRedialled).studio.camera =
        { (s.steps twoDownloads).studio.camera with connects := 3, disconnects := 2 } := by
  intro s
  have hsame : withoutReconnects s twoDownloadsRedialled = twoDownloads := by decide +kernel
  have hgood : ∀ c ∈ along redials s twoDownloadsRedialled, c.isConnected = true ∧ c.refusesConnect = false := by
    decide +kernel
  obtain ⟨-, hdeeds, hfunctions, -, -, -, hcamera⟩ := reconnects_invisible s twoDownloadsRedialled rfl hgood
  rw [hsame] at hdeeds hfunctions hcamera
  have hconnects : (s.steps twoDownloads).studio.camera.connects = 1 := by decide +kernel
  have hdisconnects : (s.steps twoDownloads).studio.camera.disconnects = 0 := by decide +kernel
  have htwo : (along redials s twoDownloadsRedialled).length = 2 := by decide +kernel
  rw [hconnects, hdisconnects, htwo] at hcamera
  exact ⟨hsame, hdeeds, hfunctions, by decide +kernel, by decide +kernel, hcamera⟩

end RemoteShutter.Station
