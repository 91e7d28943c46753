/-
What happens beside the commands.

The threads of the functions make their steps, time passes, and faults come from outside, whether a command is in
progress or not.
- `CaptureFunction.Progress`: what the steps of its own threads make of a function; `Progress.untouched`: what they
  leave alone.
- `Advances`: the functions of a station have gone on so; `advances_besides`: nothing but a command does more to them.
- `Alike.step`: whatever is not a command does the same to the same functions, camera, files and clock.
- `Unmanned`: no thread is under way, so nothing but a command changes a function.
-/
import Mathlib.Tactic
import RemoteShutter.Proofs.Station.Exclusive

namespace RemoteShutter

/-! ## What threads make of their function -/

namespace CaptureFunction

/-- what the steps of its own threads make of a function -/
inductive Progress (f : CaptureFunction) : CaptureFunction → Prop where
  | refl : Progress f f
  | run {g : CaptureFunction} (h : Progress f g) (studio : Studio) : Progress f (g.stepRun studio).1
  | test {g : CaptureFunction} (h : Progress f g) (studio : Studio) : Progress f (g.stepTest studio).1

/-- the same configuration and orders; only a run has shots to its credit, and only a test shot ends one -/
structure Untouched (f g : CaptureFunction) : Prop where
  plan : g.plan = f.plan
  folder : g.folder = f.folder
  downloads : g.life.downloads = f.life.downloads
  isAborted : g.life.isAborted = f.life.isAborted
  withoutRun : f.run = none → g.run = none ∧ g.life.phase = f.life.phase ∧ g.life.stats = f.life.stats ∧
    g.life.lastShot = f.life.lastShot
  withoutTest : f.test = none → g.test = none ∧ g.life.isTesting = f.life.isTesting

variable {f g h : CaptureFunction}

theorem Untouched.refl (f : CaptureFunction) : Untouched f f :=
  ⟨rfl, rfl, rfl, rfl, fun hr => ⟨hr, rfl, rfl, rfl⟩, fun ht => ⟨ht, rfl⟩⟩

theorem Untouched.trans (hfg : Untouched f g) (hgh : Untouched g h) : Untouched f h where
  plan := hgh.plan.trans hfg.plan
  folder := hgh.folder.trans hfg.folder
  downloads := hgh.downloads.trans hfg.downloads
  isAborted := hgh.isAborted.trans hfg.isAborted
  withoutRun hr := by
    obtain ⟨hr', hphase, hstats, hlast⟩ := hfg.withoutRun hr
    obtain ⟨hr'', hphase', hstats', hlast'⟩ := hgh.withoutRun hr'
    exact ⟨hr'', hphase'.trans hphase, hstats'.trans hstats, hlast'.trans hlast⟩
  withoutTest ht := by
    obtain ⟨ht', htesting⟩ := hfg.withoutTest ht
    obtain ⟨ht'', htesting'⟩ := hgh.withoutTest ht'
    exact ⟨ht'', htesting'.trans htesting⟩

theorem untouched_stepRun (f : CaptureFunction) (studio : Studio) : Untouched f (f.stepRun studio).1 := by
  unfold stepRun
  cases hr : f.run with
  | none => exact .refl f
  | some r =>
    rcases r.step_life f.plan f.folder f.life studio with ⟨-, hl⟩ | ⟨_, -, hk⟩
    · exact ⟨rfl, rfl, by simp [hl, Lifecycle.finish], by simp [hl, Lifecycle.finish], fun hn => by simp [hr] at hn,
        fun ht => ⟨ht, by simp [hl, Lifecycle.finish]⟩⟩
    · exact ⟨rfl, rfl, hk.downloads, hk.isAborted, fun hn => by simp [hr] at hn, fun ht => ⟨ht, hk.isTesting⟩⟩

theorem untouched_stepTest (f : CaptureFunction) (studio : Studio) : Untouched f (f.stepTest studio).1 := by
  unfold stepTest
  cases ht : f.test with
  | none => exact .refl f
  | some t =>
    rcases t.step_life f.plan f.folder f.life studio with ⟨-, hl⟩ | ⟨_, -, hl⟩
    · exact ⟨rfl, rfl, by simp [hl, Lifecycle.endTest], by simp [hl, Lifecycle.endTest],
        fun hr => ⟨hr, by simp [hl, Lifecycle.endTest]⟩, fun hn => by simp [ht] at hn⟩
    · exact ⟨rfl, rfl, by simp [hl], by simp [hl], fun hr => ⟨hr, by simp [hl]⟩, fun hn => by simp [ht] at hn⟩

theorem Progress.trans (hfg : f.Progress g) (hgh : g.Progress h) : f.Progress h := by
  induction hgh with
  | refl => exact hfg
  | run _ studio ih => exact ih.run studio
  | test _ studio ih => exact ih.test studio

theorem Progress.untouched (hfg : f.Progress g) : Untouched f g := by
  induction hfg with
  | refl => exact .refl f
  | run _ studio ih => exact ih.trans (untouched_stepRun _ studio)
  | test _ studio ih => exact ih.trans (untouched_stepTest _ studio)

/-- a function with a run that is about to be launched, or an announced test shot, has no threads yet -/
theorem Served.no_threads_of_pending {p : CallPoint} (hf : f.Served p) (hp : p.launching + p.announced = 1) :
    f.run = none ∧ f.test = none := by
  have hle := hf.agrees.add_le_one
  constructor
  · rw [← Option.toList_eq_nil_iff, ← List.length_eq_zero_iff]; omega
  · rw [← Option.toList_eq_nil_iff, ← List.length_eq_zero_iff]; omega

/-- a function that can be started has no threads -/
theorem Served.no_threads_of_canStart {p : CallPoint} (hf : f.Served p) (hcan : f.life.canStart = .ok true) :
    f.run = none ∧ f.test = none := by
  obtain ⟨hidle, htesting⟩ := (Lifecycle.canStart_eq_ok_true_iff _).1 hcan
  have hruns := hf.agrees.runs_eq
  have htests := hf.agrees.tests_eq
  rw [if_neg (by simp [hidle])] at hruns
  rw [if_neg (by simp [htesting])] at htests
  constructor
  · rw [← Option.toList_eq_nil_iff, ← List.length_eq_zero_iff]; omega
  · rw [← Option.toList_eq_nil_iff, ← List.length_eq_zero_iff]; omega

end CaptureFunction

namespace Station

variable {s t u : Station} {old : List CaptureFunction} {f : CaptureFunction}

/-! ## Events beside a command -/

/-- a command begins or goes on -/
def Event.isCommand : Event → Bool
  | .call _ | .proceed => true
  | _ => false

/-- of the events of commands, only one is no call -/
theorem Event.eq_proceed {e : Event} (hcommand : e.isCommand = true) (hcall : e.isCall = false) : e = .proceed := by
  cases e with
  | call => cases hcall
  | proceed => rfl
  | _ => cases hcommand

/-- what happens beside the commands -/
def besides (es : List Event) : List Event :=
  es.filter fun e => !e.isCommand

/-- the same functions and the same studio -/
structure Alike (t u : Station) : Prop where
  functions : t.functions = u.functions
  studio : t.studio = u.studio

theorem alike_ite {p : Prop} [Decidable p] {t' u' : Station} (h : Alike t u) (h' : Alike t' u') :
    Alike (if p then t else t') (if p then u else u') := by
  split_ifs
  · exact h
  · exact h'

theorem Alike.stepFunction (h : Alike t u) (i : Nat) (act : CaptureFunction → Studio → CaptureFunction × Studio) :
    Alike (t.stepFunction i act) (u.stepFunction i act) := by
  unfold Station.stepFunction
  rw [h.functions, h.studio]
  split
  · exact h
  · exact ⟨rfl, rfl⟩

theorem Alike.mayStep (h : Alike t u) (b : Bool) : t.mayStep b = u.mayStep b := by
  simp only [Station.mayStep, isCameraHeld, h.functions]

/-- whatever is not a command does the same to the same functions and studio -/
theorem Alike.step (h : Alike t u) {e : Event} (he : e.isCommand = false) : Alike (t.step e) (u.step e) := by
  have hheld : t.isCameraHeld = u.isCameraHeld := by simp only [isCameraHeld, h.functions]
  cases e with
  | call | proceed => cases he
  | run i | test i =>
    simp only [Station.step, h.mayStep, h.functions]
    exact alike_ite (h.stepFunction i _) h
  | pass | fault | threads => exact ⟨h.functions, by simp only [Station.step, setCamera, h.studio]⟩
  | set | download =>
    simp only [Station.step, hheld, h.studio]
    exact alike_ite h ⟨h.functions, by simp only [setCamera, h.studio]⟩

/-- a command stays where it is -/
theorem call_besides {e : Event} (he : e.isCommand = false) : (s.step e).call = s.call := by
  cases e with
  | call | proceed => cases he
  | run i | test i =>
    simp only [step, stepFunction]
    split_ifs
    · split <;> rfl
    · rfl
  | pass | fault | threads => rfl
  | set | download => simp only [step]; split_ifs <;> rfl

/-! ## Progress of the functions -/

/-- there are the same functions, and each has gone on by steps of its own threads only -/
structure Advances (s t : Station) : Prop where
  length : t.functions.length = s.functions.length
  progress : ∀ (i : Nat) (f : CaptureFunction), s.functions[i]? = some f →
    ∃ g, t.functions[i]? = some g ∧ f.Progress g

theorem advances_of_eq (h : t.functions = s.functions) : Advances s t :=
  ⟨by rw [h], fun _ f hf => ⟨f, by rw [h, hf], .refl⟩⟩

theorem Advances.trans (h : Advances s t) (h' : Advances t u) : Advances s u := by
  refine ⟨h'.length.trans h.length, fun i f hf => ?_⟩
  obtain ⟨g, hg, hfg⟩ := h.progress i f hf
  obtain ⟨k, hk, hgk⟩ := h'.progress i g hg
  exact ⟨k, hk, hfg.trans hgk⟩

theorem advances_stepFunction (i : Nat) {act : CaptureFunction → Studio → CaptureFunction × Studio}
    (hact : ∀ f : CaptureFunction, f.Progress (act f s.studio).1) : Advances s (s.stepFunction i act) := by
  unfold stepFunction
  split
  · exact advances_of_eq rfl
  · next f hf =>
    refine ⟨List.length_set, fun j g hg => ?_⟩
    rw [List.getElem?_set]
    split_ifs with hij hlt
    · subst hij
      rw [hf, Option.some.injEq] at hg
      exact ⟨_, rfl, hg ▸ hact f⟩
    · exact absurd (List.getElem?_eq_some_iff.1 hf).1 hlt
    · exact ⟨g, hg, .refl⟩

theorem advances_besides {e : Event} (he : e.isCommand = false) : Advances s (s.step e) := by
  cases e with
  | call | proceed => cases he
  | run i | test i =>
    simp only [step]
    split_ifs
    · exact advances_stepFunction i fun f => by constructor; exact .refl
    · exact advances_of_eq rfl
  | pass | fault | threads => exact advances_of_eq rfl
  | set | download => simp only [step]; split_ifs <;> exact advances_of_eq rfl

theorem advances_besides_steps {es : List Event} (hes : ∀ e ∈ es, e.isCommand = false) : Advances s (s.steps es) := by
  induction es generalizing s with
  | nil => exact advances_of_eq rfl
  | cons e es ih =>
    exact (advances_besides (hes e List.mem_cons_self)).trans (ih fun e' he' => hes e' (List.mem_cons_of_mem e he'))

/-! ## Stations without threads -/

/-- no thread of any function is under way -/
def Unmanned (s : Station) : Prop :=
  ∀ f ∈ s.functions, f.run = none ∧ f.test = none

/-- the functions that were replaced have no threads, so it is the active one that matters -/
theorem Inv.unmanned (h : Inv s) (hs : s.functions = old ++ [f]) (hf : f.run = none ∧ f.test = none) : s.Unmanned := by
  intro g hg
  rw [hs] at hg
  rcases List.mem_append.1 hg with hg | hg
  · have hrest := ((inv_concat hs).1 h).1 g hg
    exact ⟨hrest.run, hrest.test⟩
  · rwa [List.mem_singleton.1 hg]

theorem Unmanned.isCameraHeld (h : s.Unmanned) : s.isCameraHeld = false := by
  refine List.any_eq_false.2 fun f hf => ?_
  rw [CaptureFunction.holdsCamera, (h f hf).1, (h f hf).2]
  exact Bool.false_ne_true

/-- there is no thread that could make a step -/
theorem Unmanned.step_thread (h : s.Unmanned) (i : Nat) : s.step (.run i) = s ∧ s.step (.test i) = s := by
  cases hf : s.functions[i]? with
  | none => simp only [step, stepFunction, hf, ite_self, and_self]
  | some f =>
    obtain ⟨hr, ht⟩ := h f (List.mem_of_getElem? hf)
    have hrun : f.stepRun s.studio = (f, s.studio) := by rw [CaptureFunction.stepRun, hr]
    have htest : f.stepTest s.studio = (f, s.studio) := by rw [CaptureFunction.stepTest, ht]
    simp only [step, stepFunction_eq_self hf hrun, stepFunction_eq_self hf htest, ite_self, and_self]

theorem Unmanned.functions_step (h : s.Unmanned) {e : Event} (he : e.isCommand = false) :
    (s.step e).functions = s.functions := by
  cases e with
  | call | proceed => cases he
  | run i => rw [(h.step_thread i).1]
  | test i => rw [(h.step_thread i).2]
  | pass | fault | threads => rfl
  | set | download => simp only [step]; split_ifs <;> rfl

/-- what comes from outside does the same to the same studio -/
theorem Unmanned.studio_step (ht : t.Unmanned) (hu : u.Unmanned) (hs : t.studio = u.studio) {e : Event}
    (he : e.isCommand = false) : (t.step e).studio = (u.step e).studio := by
  cases e with
  | call | proceed => cases he
  | run i => rw [(ht.step_thread i).1, (hu.step_thread i).1, hs]
  | test i => rw [(ht.step_thread i).2, (hu.step_thread i).2, hs]
  | pass | fault | threads => simp only [step, setCamera, hs]
  | set | download => simp only [step, setCamera, ht.isCameraHeld, hu.isCameraHeld, hs, Bool.false_eq_true, if_false]

end Station

end RemoteShutter
