/-
One function operates at a time.

Of all functions that were ever set up only the active one can operate, whatever commands, threads and faults come in
whatever order.
- `Inv`: the functions that were replaced are at rest, and the active one is served.
- `follows_step`: an event keeps the functions that were replaced as they are, and the invariant.
- `exclusive_operation`: what holds in every reachable station.
-/
import Mathlib.Tactic
import RemoteShutter.Proofs.Station.Answers
import RemoteShutter.Proofs.Station.Served

namespace RemoteShutter.Station

/-! ## Reachable stations -/

/-- a station before its first command -/
def fresh (studio : Studio) (folder : String) (power : PowerHook) : Station :=
  { studio := studio, folder := folder, power := power }

/-- what may become of a station, by events and by commands that are carried out -/
inductive Leads (s : Station) : Station → Prop where
  | refl : Leads s s
  | step {t : Station} (h : Leads s t) (e : Event) : Leads s (t.step e)
  | dispatch {t : Station} (h : Leads s t) (c : Telecommand) : Leads s (t.dispatch c).2

def Reachable (s : Station) : Prop :=
  ∃ studio folder power, Leads (fresh studio folder power) s

/-! ## The invariant -/

/-- where the command in progress stands; without one it is as if the last had been answered -/
def point (s : Station) : CallPoint :=
  s.call.getD (.done (.ok ()))

/-- what was replaced is at rest; the active function agrees with its threads and with the command in progress -/
structure Inv (s : Station) : Prop where
  retired : ∀ g ∈ s.functions.dropLast, g.AtRest
  active : ∀ f, s.active? = some f → f.Served s.point

/-- the functions that were replaced stay where they are -/
structure Follows (s t : Station) : Prop where
  inv : Inv t
  retired : s.functions.dropLast <+: t.functions.dropLast

variable {s t : Station} {old : List CaptureFunction} {f g : CaptureFunction}

theorem point_of_call {p : CallPoint} (hc : s.call = some p) : s.point = p := by
  rw [point, hc, Option.getD_some]

theorem inv_concat (h : s.functions = old ++ [f]) : Inv s ↔ (∀ g ∈ old, g.AtRest) ∧ f.Served s.point := by
  constructor
  · intro hi
    exact ⟨by simpa [h] using hi.retired, hi.active f (active?_eq h)⟩
  · rintro ⟨hold, hf⟩
    refine ⟨by simpa [h] using hold, fun g hg => ?_⟩
    rw [active?_eq h, Option.some.injEq] at hg
    exact hg ▸ hf

theorem inv_nil (h : s.functions = []) : Inv s :=
  ⟨by simp [h], fun f hf => by simp [active?, h] at hf⟩

theorem Follows.refl (h : Inv s) : Follows s s :=
  ⟨h, List.prefix_rfl⟩

theorem Follows.trans {u : Station} (h : Follows s t) (h' : Follows t u) : Follows s u :=
  ⟨h'.inv, h.retired.trans h'.retired⟩

/-- only the active function changes -/
theorem follows_concat (h : Inv s) (hs : s.functions = old ++ [f]) (ht : t.functions = old ++ [g])
    (hg : g.Served t.point) : Follows s t := by
  have hold := ((inv_concat hs).1 h).1
  exact ⟨(inv_concat ht).2 ⟨hold, hg⟩, by simp [hs, ht]⟩

/-- the same, if there is an active function at all -/
theorem follows_active (h : Inv s) (hnil : s.functions = [] → t.functions = [])
    (hchange : ∀ old f, s.functions = old ++ [f] → f.Served s.point →
      ∃ g, t.functions = old ++ [g] ∧ g.Served t.point) : Follows s t := by
  rcases List.eq_nil_or_concat' s.functions with hs | ⟨old, f, hs⟩
  · exact ⟨inv_nil (hnil hs), by simp [hs]⟩
  · obtain ⟨g, ht, hg⟩ := hchange old f hs ((inv_concat hs).1 h).2
    exact follows_concat h hs ht hg

/-- the functions stay as they are, and the active one suits the command where it stands now -/
theorem follows_same (h : Inv s) (hf : t.functions = s.functions)
    (hp : ∀ f, f.Served s.point → s.active? = some f → f.Served t.point) : Follows s t :=
  follows_active h hf.trans fun _ f hs hserved => ⟨f, hf.trans hs, hp f hserved (active?_eq hs)⟩

/-- so between two points where the command is quiet -/
theorem follows_quiet (h : Inv s) (hf : t.functions = s.functions) (hs : s.point.isQuiet = true)
    (ht : t.point.isQuiet = true) : Follows s t :=
  follows_same h hf fun _ hserved _ => hserved.of_quiet hs ht

/-! ## Events -/

/-- a new function comes behind the others: the active one is not told to stop, for had there been anything to stop, the
setup would have been refused -/
theorem functions_install {c : Telecommand} (h : Inv s) (hc : s.call = some (.build c)) (plan : Plan)
    (download : Bool) : (s.install plan download).functions =
      s.functions ++ [{ plan := plan, folder := s.folder, life := { downloads := download } }] := by
  rcases List.eq_nil_or_concat' s.functions with hnil | ⟨old, f, hs⟩
  · simp [install, abort, say, active?, hnil]
  · have hserved := ((inv_concat hs).1 h).2
    rw [point_of_call hc] at hserved
    have hcan : f.life.canAbort = false := (Bool.or_eq_false_iff.1 hserved.atRest.isOperating).1
    have hactive : (s.say (configured plan download)).active? = some f := active?_eq (s := s.say _) hs
    simp only [install, abort, hactive, hcan, Bool.false_eq_true, if_false]
    rfl

/-- a new function comes after functions at rest -/
theorem follows_install {c : Telecommand} (h : Inv s) (hc : s.call = some (.build c)) (plan : Plan) (download : Bool)
    (o : Outcome) : Follows s ((s.install plan download).finishCall o) := by
  have hnew := fun folder => CaptureFunction.served_new (p := .done o) plan folder download rfl
  have ht : ((s.install plan download).finishCall o).functions =
      s.functions ++ [{ plan := plan, folder := s.folder, life := { downloads := download } }] :=
    functions_install h hc plan download
  refine ⟨(inv_concat ht).2 ⟨fun g hg => ?_, hnew _⟩, ?_⟩
  · rcases List.eq_nil_or_concat' s.functions with hnil | ⟨old, f, hs⟩
    · rw [hnil] at hg
      cases hg
    · obtain ⟨hold, hf⟩ := (inv_concat hs).1 h
      rw [point_of_call hc] at hf
      rw [hs] at hg
      rcases List.mem_append.1 hg with hg | hg
      · exact hold g hg
      · rw [List.mem_singleton.1 hg]
        exact hf.atRest
  · rw [ht, List.dropLast_concat]
    exact List.dropLast_prefix _

/-- without a function there is nothing that a call could change -/
theorem functions_stepCall_point (hn : s.functions = []) (p : Caller) : (s.stepCall p.point).functions = [] := by
  cases p with
  | start | test | abort => exact functions_withActive (s := s.say _) hn _
  | startCommit => exact functions_withActive hn _
  | startReady | testReady => simp only [Caller.point, stepCall]; split <;> exact hn
  | testLaunch => simp only [Caller.point, stepCall]; split <;> exact functions_updateActive_nil hn _
  | raise | testWithdraw => exact functions_updateActive_nil hn _
  | done => exact hn

theorem follows_point (h : Inv s) (p : Caller) (hc : s.call = some p.point)
    (hlaunch : p = .testLaunch → s.threadFault = none := by simp) : Follows s (s.stepCall p.point) := by
  refine follows_active h (fun hnil => functions_stepCall_point hnil p) fun old f hs hserved => ?_
  obtain ⟨hf, -, hcall⟩ := stepCall_point hs p hlaunch
  rw [point_of_call hc] at hserved
  refine ⟨_, hf, ?_⟩
  rw [point_of_call hcall]
  exact CaptureFunction.served_called hserved s.studio.camera

theorem follows_setup (h : Inv s) {c : Telecommand} (hc : s.call = some (.begin c)) (hsetup : c.isSetup = true) :
    Follows s (s.stepCall (.begin c)) := by
  obtain ⟨hfunctions, -, hcall⟩ := stepCall_setup (s := s) hsetup
  have hquiet : s.point.isQuiet = true := by rw [point_of_call hc]; rfl
  refine follows_same h hfunctions fun f hserved hactive => ?_
  rw [point_of_call hcall, hactive, Option.any_some]
  split_ifs with hon
  · exact hserved.of_quiet hquiet rfl
  · refine ⟨hserved.agrees_of_quiet hquiet, fun hn => (by cases hn), fun _ _ => ?_, fun hn => (by cases hn)⟩
    exact Bool.eq_false_iff.2 hon

theorem follows_setDownloads (h : Inv s) {b : Bool} (hc : s.call = some (.begin (.downloadAfterExposure b))) :
    Follows s (s.stepCall (.begin (.downloadAfterExposure b))) := by
  simp only [stepCall, beginCall]
  refine follows_active h (fun hnil => functions_withActive (s := s.say _) hnil _) fun old f hs hserved => ?_
  rw [point_of_call hc] at hserved
  rw [withActive_eq (s := s.say _) hs]
  exact ⟨_, functions_updateActive (s := s.say _) hs _, hserved.setDownloads rfl b rfl⟩

theorem functions_stepCall_startLaunch (hn : s.functions = []) : (s.stepCall .startLaunch).functions = [] :=
  functions_withActive hn _

/-- a start is launched, or taken back -/
theorem follows_startLaunch (h : Inv s) (hc : s.call = some .startLaunch) : Follows s (s.stepCall .startLaunch) := by
  refine follows_active h functions_stepCall_startLaunch fun old f hs hserved => ?_
  rw [point_of_call hc] at hserved
  cases hfault : s.threadFault with
  | none =>
    obtain ⟨hf, -, hcall⟩ := stepCall_startLaunch hs hfault
    exact ⟨_, hf, point_of_call hcall ▸ CaptureFunction.served_launch hserved rfl⟩
  | some reason =>
    obtain ⟨hf, -, hcall⟩ := stepCall_startLaunch_of_fault hs hfault
    exact ⟨_, hf, point_of_call hcall ▸ CaptureFunction.served_cancelStart hserved rfl⟩

/-- and so is a test shot -/
theorem follows_testLaunch (h : Inv s) (hc : s.call = some .testLaunch) : Follows s (s.stepCall .testLaunch) := by
  cases hfault : s.threadFault with
  | none => exact follows_point h .testLaunch hc fun _ => hfault
  | some reason =>
    refine follows_active h (fun hnil => functions_stepCall_point hnil .testLaunch) fun old f hs hserved => ?_
    rw [point_of_call hc] at hserved
    obtain ⟨hf, -, hcall⟩ := stepCall_testLaunch_of_fault hs hfault
    exact ⟨_, hf, point_of_call hcall ▸ CaptureFunction.served_endTest hserved rfl⟩

theorem follows_build (h : Inv s) {c : Telecommand} (hc : s.call = some (.build c)) :
    Follows s (s.stepCall (.build c)) := by
  have hdone : ∀ o, Follows s (s.finishCall o) := fun o => follows_same h rfl fun f hserved _ => by
    rw [point_of_call hc] at hserved
    exact hserved.of_build rfl
  simp only [stepCall]
  split
  · exact hdone _
  · exact hdone _
  · next plan download _ => exact follows_install h hc plan download (.ok ())

theorem follows_stepCall (h : Inv s) {p : CallPoint} (hc : s.call = some p) : Follows s (s.stepCall p) := by
  have hpoint := point_of_call hc
  cases p with
  | begin c =>
    cases c with
    | sequencerSetup | intervalometerSetup => exact follows_setup h hc rfl
    | start => exact follows_point h .start hc
    | stop => exact follows_point h .abort hc
    | testCapture => exact follows_point h .test hc
    | downloadAfterExposure b => exact follows_setDownloads h hc
    | reconnect | testConnection => exact follows_quiet h rfl (by rw [hpoint]; rfl) rfl
    | shutdown | reboot =>
      simp only [stepCall, beginCall, requestPower]
      split <;> exact follows_quiet h rfl (by rw [hpoint]; rfl) rfl
  | build c => exact follows_build h hc
  | startReady => exact follows_point h .startReady hc
  | startCommit => exact follows_point h .startCommit hc
  | startLaunch => exact follows_startLaunch h hc
  | raise => exact follows_point h .raise hc
  | testReady => exact follows_point h .testReady hc
  | testLaunch => exact follows_testLaunch h hc
  | testWithdraw e => exact follows_point h (.testWithdraw e) hc
  | reconnect =>
    simp only [stepCall]
    split <;> exact follows_quiet h rfl (by rw [hpoint]; rfl) rfl
  | probe | identify | done => exact follows_quiet h rfl (by rw [hpoint]; rfl) rfl

/-- a function that does nothing leaves the station as it is -/
theorem stepFunction_eq_self {i : Nat} {act : CaptureFunction → Studio → CaptureFunction × Studio}
    (hg : s.functions[i]? = some g) (hact : act g s.studio = (g, s.studio)) : s.stepFunction i act = s := by
  obtain ⟨hi, rfl⟩ := List.getElem?_eq_some_iff.1 hg
  simp only [stepFunction, hg, hact, List.set_getElem_self]

/-- a thread of a function at rest makes no step, and one of the active function keeps what the command relies on -/
theorem follows_stepFunction (h : Inv s) (i : Nat) {act : CaptureFunction → Studio → CaptureFunction × Studio}
    (hrest : ∀ f : CaptureFunction, f.AtRest → ∀ studio, act f studio = (f, studio))
    (hserved : ∀ f : CaptureFunction, ∀ p, f.Served p → ∀ studio, (act f studio).1.Served p) :
    Follows s (s.stepFunction i act) := by
  rcases List.eq_nil_or_concat' s.functions with hnil | ⟨old, f, hs⟩
  · have hsame : s.stepFunction i act = s := by simp [stepFunction, hnil]
    exact hsame.symm ▸ .refl h
  · obtain ⟨hold, hf⟩ := (inv_concat hs).1 h
    rcases Nat.lt_trichotomy i old.length with hi | rfl | hi
    · have hg : s.functions[i]? = some old[i] := by rw [hs, List.getElem?_append_left hi, List.getElem?_eq_getElem hi]
      rw [stepFunction_eq_self hg (hrest old[i] (hold _ (List.getElem_mem hi)) s.studio)]
      exact .refl h
    · have hg : s.functions[old.length]? = some f := by rw [hs, List.getElem?_concat_length]
      simp only [stepFunction, hg]
      exact follows_concat h hs (by simp [hs]) (hserved f _ hf s.studio)
    · have hg : s.functions[i]? = none := by
        rw [hs, List.getElem?_eq_none_iff, List.length_append, List.length_singleton]
        omega
      simp only [stepFunction, hg]
      exact .refl h

/-- where a command may begin, the last one is answered -/
theorem isQuiet_point (hfree : s.isFree = true) : s.point.isQuiet = true := by
  unfold isFree at hfree
  unfold point
  split at hfree
  · next hc => rw [hc]; rfl
  · next hc => rw [hc]; rfl
  · exact absurd hfree Bool.false_ne_true

/-- **An event keeps the functions that were replaced, and the invariant.** -/
theorem follows_step (h : Inv s) (e : Event) : Follows s (s.step e) := by
  cases e with
  | call c =>
    simp only [step]
    split_ifs with hfree
    · exact follows_quiet h rfl (isQuiet_point hfree) rfl
    · exact .refl h
  | proceed =>
    simp only [step]
    split
    · exact .refl h
    · next p hc =>
      split_ifs
      · exact follows_stepCall h hc
      · exact .refl h
  | run i =>
    simp only [step]
    split_ifs
    · exact follows_stepFunction h i (fun _ hr => hr.stepRun) fun _ _ hp => CaptureFunction.served_stepRun hp
    · exact .refl h
  | test i =>
    simp only [step]
    split_ifs
    · exact follows_stepFunction h i (fun _ hr => hr.stepTest) fun _ _ hp => CaptureFunction.served_stepTest hp
    · exact .refl h
  | pass | fault | threads => exact ⟨⟨h.retired, h.active⟩, List.prefix_rfl⟩
  | set | download =>
    simp only [step]
    split_ifs <;> exact ⟨⟨h.retired, h.active⟩, List.prefix_rfl⟩

/-! ## Runs -/

theorem follows_steps (h : Inv s) (es : List Event) : Follows s (s.steps es) := by
  induction es generalizing s with
  | nil => exact .refl h
  | cons e es ih =>
    have hstep := follows_step h e
    exact hstep.trans (ih hstep.inv)

/-- a command that is carried out does what its events do, and its answer is taken away -/
theorem follows_dispatch (h : Inv s) (c : Telecommand) : Follows s (s.dispatch c).2 := by
  have hend := follows_steps h (s.eventsOf c)
  obtain ⟨o, hdone, hdispatch⟩ := s.dispatch_eq c
  rw [hdispatch]
  refine hend.trans (follows_quiet hend.inv rfl ?_ rfl)
  rw [point_of_call hdone]
  rfl

theorem follows_abort (h : Inv s) (hfree : s.isFree = true) : Follows s s.abort := by
  unfold abort
  split
  · next f hf =>
    split_ifs with hcan
    · refine follows_active h (fun hnil => functions_updateActive_nil (s := s.say _) hnil _) fun old g hs hserved => ?_
      obtain rfl : f = g := Option.some.inj (hf.symm.trans (active?_eq hs))
      exact ⟨_, functions_updateActive (s := s.say _) hs _, hserved.raiseAbort (isQuiet_point hfree) hcan⟩
    · exact .refl h
  · exact .refl h

theorem follows_abortActive (h : Inv s) : Follows s s.abortActive := by
  unfold abortActive
  split_ifs with hfree
  · exact follows_abort h hfree
  · exact .refl h

theorem Leads.follows (h : Inv s) (ht : Leads s t) : Follows s t := by
  induction ht with
  | refl => exact .refl h
  | step _ e ih => exact ih.trans (follows_step ih.inv e)
  | dispatch _ c ih => exact ih.trans (follows_dispatch ih.inv c)

theorem Reachable.inv (h : Reachable s) : Inv s := by
  obtain ⟨studio, folder, power, hs⟩ := h
  exact (hs.follows (inv_nil rfl)).inv

/-! ## What holds of reachable stations -/

/-- a function that is not at the end of the list was replaced -/
theorem getElem?_dropLast_of_lt {α : Type} {xs : List α} {i : Nat} (h : i + 1 < xs.length) :
    xs.dropLast[i]? = xs[i]? := by
  rw [List.getElem?_dropLast, if_pos (by omega)]

theorem Inv.atRest (h : Inv s) {i : Nat} (hf : s.functions[i]? = some f) (hi : i + 1 < s.functions.length) :
    f.AtRest := by
  rw [← getElem?_dropLast_of_lt hi] at hf
  exact h.retired f (List.mem_of_getElem? hf)

theorem Inv.index_of_isOperating (h : Inv s) {i : Nat} (hf : s.functions[i]? = some f) (hon : f.isOperating = true) :
    i + 1 = s.functions.length := by
  have hlt := (List.getElem?_eq_some_iff.1 hf).1
  by_contra hne
  have hrest := h.atRest hf (by omega)
  rw [hrest.isOperating] at hon
  exact Bool.false_ne_true hon

theorem Inv.countP_le_one (h : Inv s) : s.functions.countP CaptureFunction.isOperating ≤ 1 := by
  rcases List.eq_nil_or_concat' s.functions with hnil | ⟨old, f, hs⟩
  · simp [hnil]
  · have hnone : old.countP CaptureFunction.isOperating = 0 := by
      refine List.countP_eq_zero.2 fun g hg => ?_
      rw [(((inv_concat hs).1 h).1 g hg).isOperating]
      exact Bool.false_ne_true
    rw [hs, List.countP_append, hnone, List.countP_singleton]
    split_ifs <;> omega

theorem Follows.functions (h : Follows s t) {i : Nat} (hf : s.functions[i]? = some f)
    (hi : i + 1 < s.functions.length) : t.functions[i]? = some f ∧ i + 1 < t.functions.length := by
  rw [← getElem?_dropLast_of_lt hi] at hf
  obtain ⟨more, hmore⟩ := h.retired
  have hlater : t.functions.dropLast[i]? = some f := by
    rw [← hmore, List.getElem?_append_left (List.getElem?_eq_some_iff.1 hf).1, hf]
  have hlt : i < t.functions.length - 1 := by
    have := (List.getElem?_eq_some_iff.1 hlater).1
    rwa [List.length_dropLast] at this
  have hi' : i + 1 < t.functions.length := by omega
  exact ⟨(getElem?_dropLast_of_lt hi').symm.trans hlater, hi'⟩

/-- the threads of a function that was replaced make no step -/
theorem Inv.step_eq_self (h : Inv s) {i : Nat} (hf : s.functions[i]? = some f) (hi : i + 1 < s.functions.length) :
    s.step (.run i) = s ∧ s.step (.test i) = s := by
  have hrest := h.atRest hf hi
  simp only [step, stepFunction_eq_self hf (hrest.stepRun s.studio), stepFunction_eq_self hf (hrest.stepTest s.studio),
    ite_self, and_self]

/-- **One function operates at a time.** In a station that any commands, threads and faults have led to, at most one of
the functions that were ever set up is operating, and that is the active one. One that was replaced is not operating and
does not hold the camera; whatever follows, it stays as it is, and its threads make no step. A setup is answered with
busy just if the active function was operating when the setup looked, whatever comes in between; looking changes neither
the functions nor what they work on, and one step later the answer is there. The same holds for a setup that is carried
out at once. -/
theorem exclusive_operation (h : Reachable s) :
    s.functions.countP CaptureFunction.isOperating ≤ 1 ∧
      (∀ i f, s.functions[i]? = some f → f.isOperating = true →
        i + 1 = s.functions.length ∧ s.active? = some f) ∧
      (∀ i f, s.functions[i]? = some f → i + 1 < s.functions.length →
        f.isOperating = false ∧ f.run = none ∧ f.test = none ∧
          ∀ t, Leads s t → t.functions[i]? = some f ∧ t.step (.run i) = t ∧ t.step (.test i) = t) ∧
      (∀ c, c.isSetup = true → s.call = some (.begin c) →
        let t := s.step .proceed
        t.functions = s.functions ∧ t.studio = s.studio ∧
          (∃ o, (t.step .proceed).call = some (.done o)) ∧
          ∀ es, (∀ e ∈ es, e.isCall = false) → ∀ o, (t.steps es).call = some (.done o) →
            (o = .error .busy ↔ s.active?.any CaptureFunction.isOperating = true)) ∧
      (∀ c, c.isSetup = true → s.isFree = true →
        ∃ o, (s.dispatch c).1 = some o ∧ (o = .error .busy ↔ s.active?.any CaptureFunction.isOperating = true) ∧
          (o = .error .busy → (s.dispatch c).2.functions = s.functions ∧ (s.dispatch c).2.studio = s.studio)) := by
  have hinv := h.inv
  refine ⟨hinv.countP_le_one, ?_, ?_, ?_, ?_⟩
  · intro i f hf hon
    have hi := hinv.index_of_isOperating hf hon
    refine ⟨hi, ?_⟩
    rw [active?, List.getLast?_eq_getElem?, ← hi, Nat.add_sub_cancel, hf]
  · intro i f hf hi
    have hrest := hinv.atRest hf hi
    refine ⟨hrest.isOperating, hrest.run, hrest.test, fun t ht => ?_⟩
    have hfollows := ht.follows hinv
    obtain ⟨hf', hi'⟩ := hfollows.functions hf hi
    exact ⟨hf', hfollows.inv.step_eq_self hf' hi'⟩
  · intro c hc hcall t
    obtain ⟨hfunctions, hstudio, hnext⟩ := stepCall_setup (s := s) hc
    rw [← step_proceed hcall rfl] at hfunctions hstudio hnext
    exact ⟨hfunctions, hstudio, answered_step hnext, fun es hes o ho => answer_steps hnext hes ho⟩
  · intro c hc hfree
    exact dispatch_setup hfree hc

theorem leads_steps (h : Leads s t) (es : List Event) : Leads s (t.steps es) := by
  induction es generalizing t with
  | nil => exact h
  | cons e es ih => exact ih (h.step e)

/-- the second of two functions was started, so a third cannot be set up -/
theorem exclusive_operation_second_started :
    let setup := Telecommand.sequencerSetup ⟨3, 1000, false⟩
    let s := (fresh {} "pictures" .listening).steps [.call setup, .proceed, .proceed, .call setup, .proceed, .proceed,
      .call .start, .proceed, .proceed, .proceed, .proceed, .run 1]
    Reachable s ∧ s.functions.map CaptureFunction.isOperating = [false, true] ∧
      s.functions.countP CaptureFunction.isOperating ≤ 1 ∧ (s.dispatch setup).1 = some (.error .busy) := by
  intro setup s
  have h : Reachable s := ⟨{}, "pictures", .listening, leads_steps .refl _⟩
  obtain ⟨hcount, -, -, -, hdispatch⟩ := exclusive_operation h
  obtain ⟨o, ho, hbusy, -⟩ := hdispatch setup rfl (by decide +kernel)
  obtain rfl := hbusy.2 (by decide +kernel)
  exact ⟨h, by decide +kernel, hcount, ho⟩

end RemoteShutter.Station
