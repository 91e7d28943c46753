/-
The shared state of a function and the threads that work on it.

A function in use has threads: its run and its test shot. `Agrees l runs tests` says that the shared state `l` tells how
many there are of each. Each operation of the state that succeeds changes these numbers by one, or not at all.
- `agrees_commitStart`, `agrees_finish`: a start adds a run, the end of a run takes it away; so does a start that is taken
  back (`agrees_cancelStart`).
- `agrees_beginTest`, `agrees_endTest`: the same for test shots.
- `RunPoint.step_life`, `TestPoint.step_life`: a step of a thread leaves all this alone, except for its last one.
- `Caller.agrees_step`: a call on a function is a program counter over these operations; each of its pieces keeps the
  agreement, if a test shot counts from the moment that the call has announced it.
-/
import Mathlib.Tactic
import RemoteShutter.Shooting.Function

namespace RemoteShutter

/-! ## Phases -/

/-- a phase stays, or makes way for the next one -/
inductive Phase.Next : Phase → Phase → Prop where
  | stay (p : Phase) : Next p p
  | start : Next .idle .started
  | finish : Next .started .finished

theorem Phase.Next.of_eq {p q : Phase} (h : q = p) : Phase.Next p q :=
  h ▸ .stay p

namespace Lifecycle

/-! ## What the operations do -/

theorem isOperating_iff (l : Lifecycle) : l.isOperating = true ↔ l.phase = .started ∨ l.isTesting = true := by
  simp [isOperating]

theorem canStart_eq_ok_true_iff (l : Lifecycle) : l.canStart = .ok true ↔ l.phase = .idle ∧ l.isTesting = false := by
  unfold canStart
  cases l.isTesting <;> cases l.phase <;> simp

/-- of the starts only one makes a difference: that of an idle function without a test shot -/
theorem commitStart_eq_ok_true_iff (l l' : Lifecycle) :
    l.commitStart = .ok (true, l') ↔ (l.phase = .idle ∧ l.isTesting = false) ∧ l' = { l with phase := .started } := by
  rw [← canStart_eq_ok_true_iff]
  unfold commitStart
  cases l.canStart with
  | error e => simp [bind, Except.bind]
  | ok b => cases b <;> simp [bind, Except.bind, pure, Except.pure, eq_comm]

theorem beginTest_eq_ok_iff (l l' : Lifecycle) :
    l.beginTest = .ok l' ↔ l.isOperating = false ∧ l' = { l with isTesting := true } := by
  unfold beginTest
  cases l.isOperating <;> simp [eq_comm]

/-- everything but the pictures and their statistics is the same -/
structure Keeps (l l' : Lifecycle) : Prop where
  phase : l'.phase = l.phase
  isTesting : l'.isTesting = l.isTesting
  isAborted : l'.isAborted = l.isAborted
  downloads : l'.downloads = l.downloads

theorem Keeps.refl (l : Lifecycle) : Keeps l l :=
  ⟨rfl, rfl, rfl, rfl⟩

/-! ## Agreement with the threads -/

/-- there are as many runs and test shots as the state tells; only what has been started is asked to stop -/
structure Agrees (l : Lifecycle) (runs tests : Nat) : Prop where
  runs_eq : runs = if l.phase = .started then 1 else 0
  tests_eq : tests = if l.isTesting then 1 else 0
  exclusive : l.phase = .started → l.isTesting = false
  aborted : l.isAborted = true → l.phase ≠ .idle

variable {l l' : Lifecycle} {runs tests : Nat}

theorem agrees_new (downloads : Bool) : Agrees { downloads := downloads } 0 0 :=
  ⟨rfl, rfl, fun _ => rfl, fun h => absurd h Bool.false_ne_true⟩

theorem Agrees.keeps (h : Agrees l runs tests) (hk : Keeps l l') : Agrees l' runs tests := by
  obtain ⟨hp, ht, ha, -⟩ := hk
  exact ⟨by rw [hp]; exact h.runs_eq, by rw [ht]; exact h.tests_eq, by rw [hp, ht]; exact h.exclusive,
    by rw [hp, ha]; exact h.aborted⟩

/-- a run and a test shot are never under way together, and never two of a kind -/
theorem Agrees.add_le_one (h : Agrees l runs tests) : runs + tests ≤ 1 := by
  have hr := h.runs_eq
  have ht := h.tests_eq
  have hx := h.exclusive
  by_cases hs : l.phase = .started
  · rw [if_pos hs] at hr
    rw [hx hs, if_neg Bool.false_ne_true] at ht
    omega
  · rw [if_neg hs] at hr
    split_ifs at ht <;> omega

theorem Agrees.started_iff (h : Agrees l runs tests) : l.phase = .started ↔ 0 < runs := by
  rw [h.runs_eq]
  split_ifs with hs <;> simp [hs]

theorem Agrees.testing_iff (h : Agrees l runs tests) : l.isTesting = true ↔ 0 < tests := by
  rw [h.tests_eq]
  split_ifs with ht <;> simp [ht]

theorem Agrees.isOperating_iff (h : Agrees l runs tests) : l.isOperating = true ↔ 0 < runs + tests := by
  rw [Lifecycle.isOperating_iff, h.started_iff, h.testing_iff]
  omega

theorem agrees_commitStart (h : Agrees l runs tests) (hc : l.commitStart = .ok (true, l')) :
    Agrees l' (runs + 1) tests := by
  obtain ⟨⟨hidle, htest⟩, rfl⟩ := (commitStart_eq_ok_true_iff l l').1 hc
  have hr := h.runs_eq
  rw [if_neg (by simp [hidle])] at hr
  exact ⟨by simp [hr], h.tests_eq, fun _ => htest, fun _ hs => Phase.noConfusion hs⟩

theorem agrees_finish (h : Agrees l (runs + 1) tests) : Agrees l.finish runs tests := by
  have hle := h.add_le_one
  refine ⟨?_, h.tests_eq, fun hs => Phase.noConfusion hs, fun _ hs => Phase.noConfusion hs⟩
  rw [if_neg (by simp [finish])]
  omega

/-- a start that is taken back leaves an idle function, which nobody has asked to stop meanwhile -/
theorem agrees_cancelStart (h : Agrees l (runs + 1) tests) (ha : l.isAborted = false) :
    Agrees l.cancelStart runs tests := by
  have hle := h.add_le_one
  refine ⟨?_, h.tests_eq, fun hs => Phase.noConfusion hs, fun hraised => ?_⟩
  · rw [if_neg (by simp [cancelStart])]
    omega
  · exact absurd (hraised.symm.trans ha) Bool.noConfusion

theorem agrees_raiseAbort (h : Agrees l runs tests) (hp : l.phase ≠ .idle) : Agrees l.raiseAbort runs tests :=
  ⟨h.runs_eq, h.tests_eq, h.exclusive, fun _ => hp⟩

theorem agrees_beginTest (h : Agrees l runs tests) (hb : l.beginTest = .ok l') : Agrees l' runs (tests + 1) := by
  obtain ⟨hoff, rfl⟩ := (beginTest_eq_ok_iff l l').1 hb
  have hnone : ¬ 0 < runs + tests := by rw [← h.isOperating_iff, hoff]; exact Bool.false_ne_true
  have hns : l.phase ≠ .started := by rw [ne_eq, h.started_iff]; omega
  exact ⟨h.runs_eq, by rw [if_pos rfl]; omega, fun hs => absurd hs hns, h.aborted⟩

theorem agrees_endTest (h : Agrees l runs (tests + 1)) : Agrees l.endTest runs tests := by
  have hle := h.add_le_one
  refine ⟨h.runs_eq, ?_, fun _ => rfl, h.aborted⟩
  rw [if_neg (by simp [endTest])]
  omega

theorem agrees_setDownloads (h : Agrees l runs tests) (b : Bool) : Agrees (l.setDownloads b) runs tests :=
  ⟨h.runs_eq, h.tests_eq, h.exclusive, h.aborted⟩

end Lifecycle

/-! ## Threads -/

/-- a run leaves the phase and the flags alone until its last step, which finishes the function -/
theorem RunPoint.step_life (plan : Plan) (folder : String) (l : Lifecycle) (studio : Studio) (p : RunPoint) :
    ((p.step plan folder l studio).point = none ∧ (p.step plan folder l studio).life = l.finish) ∨
      ∃ q, (p.step plan folder l studio).point = some q ∧ l.Keeps (p.step plan folder l studio).life := by
  cases p with
  | leave r => exact .inl ⟨rfl, rfl⟩
  | head t => simp only [step]; split_ifs <;> exact .inr ⟨_, rfl, .refl l⟩
  | aim t s => simp only [step]; split <;> exact .inr ⟨_, rfl, .refl l⟩
  | fire t s m => simp only [step]; split <;> exact .inr ⟨_, rfl, .refl l⟩
  | wait t d => simp only [step]; split_ifs <;> exact .inr ⟨_, rfl, .refl l⟩
  | sample t s => cases plan <;> simp only [step] <;> (try split_ifs) <;> exact .inr ⟨_, rfl, ⟨rfl, rfl, rfl, rfl⟩⟩
  | _ => exact .inr ⟨_, rfl, ⟨rfl, rfl, rfl, rfl⟩⟩

/-- a test shot leaves the shared state alone until its last step, which takes its flag down -/
theorem TestPoint.step_life (plan : Plan) (folder : String) (l : Lifecycle) (studio : Studio) (p : TestPoint) :
    ((p.step plan folder l studio).point = none ∧ (p.step plan folder l studio).life = l.endTest) ∨
      ∃ q, (p.step plan folder l studio).point = some q ∧ (p.step plan folder l studio).life = l := by
  cases p with
  | leave => exact .inl ⟨rfl, rfl⟩
  | aim d => simp only [step]; split <;> exact .inr ⟨_, rfl, rfl⟩
  | _ => exact .inr ⟨_, rfl, rfl⟩

/-! ## Calls -/

/-- where a call on a function stands -/
inductive Caller where
  | start
  /-- a start has found something to do; the camera is next, without a hold on the shared state -/
  | startReady
  /-- the camera is ready; the state is looked at again -/
  | startCommit
  | test
  /-- a test shot has been announced; the camera is next -/
  | testReady
  | testLaunch
  /-- the camera was not ready; the announcement is taken back -/
  | testWithdraw (e : CameraError)
  | abort
  /-- there was a run to abort; the signal is next -/
  | raise
  | done (r : Except FunctionError Unit)
  deriving DecidableEq

/-- a thread that a call launches -/
inductive NewThread where
  | run
  | test
  deriving DecidableEq

/-- what a piece of a call leaves -/
structure Called where
  caller : Caller
  life : Lifecycle
  camera : Camera
  launched : Option NewThread := none

namespace Caller

/-- the next undivided piece of a call; a start is launched in the piece that commits it -/
def step (l : Lifecycle) (camera : Camera) : Caller → Called
  | start =>
    match l.canStart with
    | .error e => ⟨done (.error e), l, camera, none⟩
    | .ok false => ⟨done (.ok ()), l, camera, none⟩
    | .ok true => ⟨startReady, l, camera, none⟩
  | startReady =>
    match camera.ensureReady with
    | (.error e, camera, _) => ⟨done (.error (.camera e)), l, camera, none⟩
    | (.ok (), camera, _) => ⟨startCommit, l, camera, none⟩
  | startCommit =>
    match l.commitStart with
    | .error e => ⟨done (.error e), l, camera, none⟩
    | .ok (false, _) => ⟨done (.ok ()), l, camera, none⟩
    | .ok (true, l) => ⟨done (.ok ()), l, camera, some .run⟩
  | test =>
    match l.beginTest with
    | .error e => ⟨done (.error e), l, camera, none⟩
    | .ok l => ⟨testReady, l, camera, none⟩
  | testReady =>
    match camera.ensureReady with
    | (.error e, camera, _) => ⟨testWithdraw e, l, camera, none⟩
    | (.ok (), camera, _) => ⟨testLaunch, l, camera, none⟩
  | testLaunch => ⟨done (.ok ()), l, camera, some .test⟩
  | testWithdraw e => ⟨done (.error (.camera e)), l.endTest, camera, none⟩
  | abort => if l.canAbort then ⟨raise, l, camera, none⟩ else ⟨done (.ok ()), l, camera, none⟩
  | raise => ⟨done (.ok ()), l.raiseAbort, camera, none⟩
  | done r => ⟨done r, l, camera, none⟩

/-- the call has announced a test shot that is not launched yet -/
def hasAnnounced : Caller → Bool
  | testReady | testLaunch | testWithdraw _ => true
  | _ => false

end Caller

namespace Called

/-- the run that a piece of a call launches, if any -/
def runs (r : Called) : List RunPoint :=
  if r.launched = some .run then [.head 0] else []

/-- the test shot that it launches, if any -/
def tests (r : Called) : List TestPoint :=
  if r.launched = some .test then [.begin] else []

/-- the state agrees with `runs` and `tests` threads and the new ones; an announced test shot counts already; whoever is
to raise the signal has seen a run -/
structure Agrees (r : Called) (runs tests : Nat) : Prop where
  life : r.life.Agrees (runs + r.runs.length) (tests + r.tests.length + r.caller.hasAnnounced.toNat)
  raising : r.caller = .raise → r.life.phase ≠ .idle

end Called

namespace Caller

/-- **Each piece of a call keeps the agreement.** -/
theorem agrees_step {l : Lifecycle} {runs tests : Nat} (p : Caller) (camera : Camera)
    (h : l.Agrees runs (tests + p.hasAnnounced.toNat)) (hr : p = raise → l.phase ≠ .idle) :
    (p.step l camera).Agrees runs tests := by
  cases p with
  | start | startReady | testReady => simp only [step]; split <;> exact ⟨h, fun hn => by cases hn⟩
  | startCommit =>
    simp only [step]
    split
    · exact ⟨h, fun hn => by cases hn⟩
    · exact ⟨h, fun hn => by cases hn⟩
    · next hc => exact ⟨Lifecycle.agrees_commitStart h hc, fun hn => by cases hn⟩
  | test =>
    simp only [step]
    split
    · exact ⟨h, fun hn => by cases hn⟩
    · next hb => exact ⟨Lifecycle.agrees_beginTest h hb, fun hn => by cases hn⟩
  | testWithdraw e => exact ⟨Lifecycle.agrees_endTest h, fun hn => by cases hn⟩
  | abort =>
    simp only [step]
    split
    · next hcan =>
      have hs : l.phase = .started := of_decide_eq_true hcan
      exact ⟨h, fun _ => by rw [hs]; exact Phase.noConfusion⟩
    · exact ⟨h, fun hn => by cases hn⟩
  | raise => exact ⟨Lifecycle.agrees_raiseAbort h (hr rfl), fun hn => by cases hn⟩
  | testLaunch | done => exact ⟨h, fun hn => by cases hn⟩

/-- a piece of a call launches a run and leaves the idle phase, or neither -/
theorem step_phase (p : Caller) (l : Lifecycle) (camera : Camera) :
    ((p.step l camera).runs = [.head 0] ∧ l.phase = .idle ∧ (p.step l camera).life.phase = .started ∧
        (p.step l camera).life.isAborted = l.isAborted) ∨
      ((p.step l camera).runs = [] ∧ (p.step l camera).life.phase = l.phase) := by
  cases p with
  | startCommit =>
    simp only [step]
    split
    · exact .inr ⟨rfl, rfl⟩
    · exact .inr ⟨rfl, rfl⟩
    · next l' hc =>
      obtain ⟨⟨hidle, -⟩, rfl⟩ := (l.commitStart_eq_ok_true_iff l').1 hc
      exact .inl ⟨rfl, hidle, rfl, rfl⟩
  | test =>
    simp only [step]
    split
    · exact .inr ⟨rfl, rfl⟩
    · next l' hb =>
      obtain ⟨-, rfl⟩ := (l.beginTest_eq_ok_iff l').1 hb
      exact .inr ⟨rfl, rfl⟩
  | start | startReady | testReady | abort => simp only [step]; split <;> exact .inr ⟨rfl, rfl⟩
  | _ => exact .inr ⟨rfl, rfl⟩

end Caller

end RemoteShutter
