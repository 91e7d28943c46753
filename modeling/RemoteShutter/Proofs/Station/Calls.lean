/-
Commands that ask something of the active function.

Starting, stopping and testing are calls on the active function: a command that stands at `Caller.point p` does to that
function what the call at `p` does (`stepCall_point`), and to the other functions nothing. Two things are different here:
the launch of a run is a step of its own (`stepCall_startLaunch`), and the host may refuse a thread, upon which the start
or the test shot is taken back (`stepCall_startLaunch_of_fault`, `stepCall_testLaunch_of_fault`).
-/
import Mathlib.Tactic
import RemoteShutter.Control.Station
import RemoteShutter.Proofs.Lifecycle.Agreement

namespace RemoteShutter

/-- where a command stands when its call on the active function stands at `p` -/
def Caller.point : Caller → CallPoint
  | start => .begin .start
  | startReady => .startReady
  | startCommit => .startCommit
  | test => .begin .testCapture
  | testReady => .testReady
  | testLaunch => .testLaunch
  | testWithdraw e => .testWithdraw e
  | abort => .begin .stop
  | raise => .raise
  | done r => .done (r.mapError .function)

namespace Station

variable {s : Station} {old : List CaptureFunction} {f : CaptureFunction}

theorem active?_eq (h : s.functions = old ++ [f]) : s.active? = some f := by
  rw [active?, h, List.getLast?_concat]

theorem withActive_eq (h : s.functions = old ++ [f]) (act : CaptureFunction → Station) : s.withActive act = act f := by
  rw [withActive, active?_eq h]

theorem functions_updateActive (h : s.functions = old ++ [f]) (g : CaptureFunction → CaptureFunction) :
    (s.updateActive g).functions = old ++ [g f] := by
  have hlt : old.length < (old ++ [f]).length := by simp
  simp only [updateActive, h, List.length_append, List.length_singleton, Nat.add_sub_cancel]
  rw [List.modify_eq_take_cons_drop hlt]
  simp

theorem functions_updateActive_nil (hn : s.functions = []) (g : CaptureFunction → CaptureFunction) :
    (s.updateActive g).functions = [] := by
  simp [updateActive, hn]

theorem functions_withActive (hn : s.functions = []) (act : CaptureFunction → Station) :
    (s.withActive act).functions = [] := by
  simp [withActive, active?, hn, finishCall, goTo, say]

/-- what a step does to a function, to the studio and to the command in progress -/
structure Becomes (s t : Station) (old : List CaptureFunction) (g : CaptureFunction) (camera : Camera)
    (p : CallPoint) : Prop where
  functions : t.functions = old ++ [g]
  studio : t.studio = { s.studio with camera := camera }
  call : t.call = some p

/-- the active function after a piece of a call on it -/
def called (f : CaptureFunction) (r : Called) : CaptureFunction :=
  { f with life := r.life, test := if r.launched = some .test then some .begin else f.test }

/-- where the command stands after a piece of its call -/
def nextPoint (r : Called) : CallPoint :=
  if r.launched = some .run then .startLaunch else r.caller.point

/-- **A command's step is a piece of a call on the active function.** -/
theorem stepCall_point (h : s.functions = old ++ [f]) (p : Caller) (hlaunch : p = .testLaunch → s.threadFault = none) :
    let r := p.step f.life s.studio.camera
    Becomes s (s.stepCall p.point) old (called f r) r.camera (nextPoint r) := by
  intro r
  cases p with
  | start =>
    simp only [r, Caller.step, Caller.point, stepCall, beginCall]
    rw [withActive_eq (s := s.say _) h]
    rcases f.life.canStart with e | (_ | _) <;> exact ⟨h, rfl, rfl⟩
  | startReady =>
    simp only [r, Caller.step, Caller.point, stepCall]
    rcases s.studio.camera.ensureReady with ⟨e | _, camera, log⟩ <;> exact ⟨h, rfl, rfl⟩
  | startCommit =>
    simp only [r, Caller.step, Caller.point, stepCall]
    rw [withActive_eq h]
    rcases f.life.commitStart with e | ⟨_ | _, l⟩
    · exact ⟨h, rfl, rfl⟩
    · exact ⟨h, rfl, rfl⟩
    · exact ⟨functions_updateActive h _, rfl, rfl⟩
  | test =>
    simp only [r, Caller.step, Caller.point, stepCall, beginCall]
    rw [withActive_eq (s := s.say _) h]
    rcases f.life.beginTest with e | l
    · exact ⟨h, rfl, rfl⟩
    · exact ⟨functions_updateActive (s := s.say _) h _, rfl, rfl⟩
  | testReady =>
    simp only [r, Caller.step, Caller.point, stepCall]
    rcases s.studio.camera.ensureReady with ⟨e | _, camera, log⟩ <;> exact ⟨h, rfl, rfl⟩
  | testLaunch =>
    simp only [Caller.point, stepCall, hlaunch rfl]
    exact ⟨functions_updateActive h _, rfl, rfl⟩
  | testWithdraw e => exact ⟨functions_updateActive h _, rfl, rfl⟩
  | abort =>
    simp only [r, Caller.step, Caller.point, stepCall, beginCall]
    rw [withActive_eq (s := s.say _) h]
    split_ifs <;> exact ⟨h, rfl, rfl⟩
  | raise => exact ⟨functions_updateActive h _, rfl, rfl⟩
  | done e => exact ⟨h, rfl, rfl⟩

theorem stepCall_startLaunch (h : s.functions = old ++ [f]) (hnone : s.threadFault = none) :
    Becomes s (s.stepCall .startLaunch) old f.launch s.studio.camera (.done (.ok ())) := by
  simp only [stepCall, hnone]
  rw [withActive_eq h]
  exact ⟨functions_updateActive h _, rfl, rfl⟩

variable {reason : String}

/-- a start is taken back if the host refuses its thread -/
theorem stepCall_startLaunch_of_fault (h : s.functions = old ++ [f]) (hfault : s.threadFault = some reason) :
    Becomes s (s.stepCall .startLaunch) old { f with life := f.life.cancelStart } s.studio.camera
      (.done (.error (.function (.spawn f.plan.threadName reason)))) := by
  simp only [stepCall, hfault]
  rw [withActive_eq h]
  exact ⟨functions_updateActive h _, rfl, rfl⟩

/-- and so is the announcement of a test shot -/
theorem stepCall_testLaunch_of_fault (h : s.functions = old ++ [f]) (hfault : s.threadFault = some reason) :
    Becomes s (s.stepCall .testLaunch) old { f with life := f.life.endTest } s.studio.camera
      (.done (.error (.function (.spawn testThreadName reason)))) := by
  simp only [stepCall, hfault]
  exact ⟨functions_updateActive h _, rfl, rfl⟩

end Station

end RemoteShutter
