/-
A function that any number of callers use at once.

A crew is one function with the calls in progress on it and its threads. An event is one undivided piece of work by one
of them, so a list of events is an interleaving. Calls go piece by piece (`Caller.step`), threads step by step, and a
thread may also break off at any point, which its guard reports like a normal end. Whatever else happens to the camera,
the files and the clock, by faults or by other functions, happens in between.
- `Inv`: the shared state agrees with the threads there are, and the run has been launched once if the function is not
  idle, and not at all if it is.
- `step_move`: an event moves the phase on by one, or not at all; only the first move launches the run, and no signal
  is up then.
- `lifecycle_safety`: what follows for every interleaving.
-/
import Mathlib.Tactic
import RemoteShutter.Proofs.Lifecycle.Agreement

namespace RemoteShutter

/-- what may be asked of a function -/
inductive Request where
  | start
  | test
  | abort
  deriving DecidableEq

def Request.caller : Request → Caller
  | start => .start
  | test => .test
  | abort => .abort

structure Crew where
  plan : Plan
  folder : String
  life : Lifecycle
  studio : Studio
  /-- the calls that were made, in order -/
  callers : List Caller := []
  /-- the runs that are not over -/
  runs : List RunPoint := []
  /-- the test shots that are not over -/
  tests : List TestPoint := []
  /-- how often the run has been launched -/
  launches : Nat := 0

namespace Crew

/-- a new function that nobody uses yet -/
def fresh (plan : Plan) (folder : String) (downloads : Bool) (studio : Studio) : Crew :=
  { plan := plan, folder := folder, life := { downloads := downloads }, studio := studio }

inductive Event where
  | call (r : Request)
  /-- the `i`th call goes on -/
  | proceed (i : Nat)
  /-- the `i`th run makes a step -/
  | run (i : Nat)
  /-- the `i`th test shot makes a step -/
  | test (i : Nat)
  /-- the `i`th run breaks off -/
  | breakRun (i : Nat)
  /-- the `i`th test shot breaks off -/
  | breakTest (i : Nat)
  | setDownloads (b : Bool)
  /-- others have worked on the camera, the files and the clock -/
  | elsewhere (studio : Studio)

/-- the `i`th thread stands at a new point, or is over -/
def putBack {Point : Type} (threads : List Point) (i : Nat) : Option Point → List Point
  | some p => threads.set i p
  | none => threads.eraseIdx i

def step (s : Crew) : Event → Crew
  | .call r => { s with callers := s.callers ++ [r.caller] }
  | .proceed i =>
    match s.callers[i]? with
    | none => s
    | some p =>
      let r := p.step s.life s.studio.camera
      { s with
        life := r.life
        studio := { s.studio with camera := r.camera }
        callers := s.callers.set i r.caller
        runs := s.runs ++ r.runs
        tests := s.tests ++ r.tests
        launches := s.launches + r.runs.length }
  | .run i =>
    match s.runs[i]? with
    | none => s
    | some p =>
      let t := p.step s.plan s.folder s.life s.studio
      { s with life := t.life, studio := t.studio, runs := putBack s.runs i t.point }
  | .test i =>
    match s.tests[i]? with
    | none => s
    | some p =>
      let t := p.step s.plan s.folder s.life s.studio
      { s with life := t.life, studio := t.studio, tests := putBack s.tests i t.point }
  | .breakRun i => if i < s.runs.length then { s with life := s.life.finish, runs := s.runs.eraseIdx i } else s
  | .breakTest i => if i < s.tests.length then { s with life := s.life.endTest, tests := s.tests.eraseIdx i } else s
  | .setDownloads b => { s with life := s.life.setDownloads b }
  | .elsewhere studio => { s with studio := studio }

def steps (s : Crew) (es : List Event) : Crew :=
  es.foldl step s

/-! ## What an event does to the phase -/

/-- the phase stays, or the run is launched, or it ends -/
inductive Move (s t : Crew) : Prop where
  | stay (phase : t.life.phase = s.life.phase) (launches : t.launches = s.launches)
  | start (before : s.life.phase = .idle) (after : t.life.phase = .started) (launches : t.launches = s.launches + 1)
      (unsignalled : t.life.isAborted = false)
  | finish (before : s.life.phase = .started) (after : t.life.phase = .finished) (launches : t.launches = s.launches)

variable {s t : Crew}

theorem Move.next (h : Move s t) : s.life.phase.Next t.life.phase := by
  cases h with
  | stay hp _ => exact .of_eq hp
  | start hb ha _ _ => rw [hb, ha]; exact .start
  | finish hb ha _ => rw [hb, ha]; exact .finish

/-- nothing goes back to the idle phase -/
theorem Move.ne_idle (h : Move s t) (hs : s.life.phase ≠ .idle) : t.life.phase ≠ .idle := by
  cases h with
  | stay hp _ => rwa [hp]
  | start hb _ _ _ => exact absurd hb hs
  | finish _ ha _ => rw [ha]; exact Phase.noConfusion

structure Inv (s : Crew) : Prop where
  agrees : s.life.Agrees s.runs.length (s.tests.length + s.callers.countP Caller.hasAnnounced)
  /-- whoever is to raise the signal has seen a run -/
  raising : Caller.raise ∈ s.callers → s.life.phase ≠ .idle
  launches : s.launches = if s.life.phase = .idle then 0 else 1

theorem Move.launches_eq (h : Move s t) (hl : s.launches = if s.life.phase = .idle then 0 else 1) :
    t.launches = if t.life.phase = .idle then 0 else 1 := by
  cases h with
  | stay hp he => rw [he, hl, hp]
  | start hb ha he _ => simp [he, hl, hb, ha]
  | finish hb ha he => simp [he, hl, hb, ha]

/-- a thread has come to its end: without it the lists are one shorter -/
theorem length_putBack {Point : Type} {threads : List Point} {i : Nat} {p : Point} (h : threads[i]? = some p)
    (q : Option Point) : threads.length = (putBack threads i q).length + if q = none then 1 else 0 := by
  have hi : i < threads.length := (List.getElem?_eq_some_iff.1 h).1
  cases q with
  | some q => simp [putBack]
  | none => simp only [putBack, List.length_eraseIdx_of_lt hi, if_true]; omega

theorem length_runs_pos (h : Inv s) : 0 < s.runs.length ↔ s.life.phase = .started :=
  h.agrees.started_iff.symm

theorem step_move (h : Inv s) (e : Event) : Move s (s.step e) := by
  cases e with
  | proceed i =>
    simp only [step]
    split
    · exact .stay rfl rfl
    · next p hp =>
      rcases p.step_phase s.life s.studio.camera with ⟨hr, hidle, hstarted, hab⟩ | ⟨hr, hsame⟩
      · refine .start hidle hstarted (by simp [hr]) (hab.trans ?_)
        by_contra hup
        exact h.agrees.aborted (by simpa using hup) hidle
      · exact .stay hsame (by simp [hr])
  | run i =>
    simp only [step]
    split
    · exact .stay rfl rfl
    · next p hp =>
      have hs : s.life.phase = .started :=
        (length_runs_pos h).1 (Nat.zero_lt_of_lt (List.getElem?_eq_some_iff.1 hp).1)
      rcases p.step_life s.plan s.folder s.life s.studio with ⟨-, hl⟩ | ⟨q, -, hk⟩
      · exact .finish hs (congrArg Lifecycle.phase hl) rfl
      · exact .stay hk.phase rfl
  | test i =>
    simp only [step]
    split
    · exact .stay rfl rfl
    · next p hp =>
      rcases p.step_life s.plan s.folder s.life s.studio with ⟨-, hl⟩ | ⟨q, -, hl⟩
      · exact .stay (by rw [hl]; rfl) rfl
      · exact .stay (congrArg Lifecycle.phase hl) rfl
  | breakRun i =>
    simp only [step]
    split
    · next hi => exact .finish ((length_runs_pos h).1 (Nat.zero_lt_of_lt hi)) rfl rfl
    · exact .stay rfl rfl
  | breakTest i => simp only [step]; split <;> exact .stay rfl rfl
  | call _ | setDownloads _ | elsewhere _ => exact .stay rfl rfl

/-! ## What every interleaving keeps -/

/-- how many of a list's members have a property, apart from the `i`th -/
theorem exists_countP_set {α : Type} {xs : List α} {i : Nat} {a : α} (h : xs[i]? = some a) (f : α → Bool) :
    ∃ n, xs.countP f = n + (f a).toNat ∧ ∀ b, (xs.set i b).countP f = n + (f b).toNat := by
  obtain ⟨hi, ha⟩ := List.getElem?_eq_some_iff.1 h
  refine ⟨(xs.take i).countP f + (xs.drop (i + 1)).countP f, ?_, fun b => ?_⟩
  · have hxs : xs = xs.take i ++ a :: xs.drop (i + 1) := by
      rw [← ha, List.getElem_cons_drop, List.take_append_drop]
    conv_lhs => rw [hxs]
    rw [List.countP_append, List.countP_cons]
    cases f a <;> simp; omega
  · rw [List.set_eq_take_append_cons_drop, if_pos hi, List.countP_append, List.countP_cons]
    cases f b <;> simp; omega

theorem agrees_proceed (h : Inv s) {i : Nat} {p : Caller} (hp : s.callers[i]? = some p) :
    let r := p.step s.life s.studio.camera
    r.life.Agrees (s.runs ++ r.runs).length
        ((s.tests ++ r.tests).length + (s.callers.set i r.caller).countP Caller.hasAnnounced) ∧
      (r.caller = .raise → r.life.phase ≠ .idle) := by
  intro r
  obtain ⟨n, hold, hnew⟩ := exists_countP_set hp Caller.hasAnnounced
  have hagrees := h.agrees
  rw [hold, ← Nat.add_assoc] at hagrees
  obtain ⟨hl, hr⟩ := p.agrees_step s.studio.camera hagrees fun hraise =>
    h.raising (hraise ▸ List.mem_of_getElem? hp)
  refine ⟨?_, hr⟩
  rw [List.length_append, List.length_append, hnew,
    show s.tests.length + r.tests.length + (n + r.caller.hasAnnounced.toNat) =
      s.tests.length + n + r.tests.length + r.caller.hasAnnounced.toNat by omega]
  exact hl

theorem agrees_run (h : Inv s) {i : Nat} {p : RunPoint} (hp : s.runs[i]? = some p) :
    let t := p.step s.plan s.folder s.life s.studio
    t.life.Agrees (putBack s.runs i t.point).length (s.tests.length + s.callers.countP Caller.hasAnnounced) := by
  intro t
  have hagrees := h.agrees
  rw [length_putBack hp t.point] at hagrees
  rcases p.step_life s.plan s.folder s.life s.studio with ⟨hq, hl⟩ | ⟨q, hq, hk⟩
  · rw [show t.point = none from hq] at hagrees ⊢
    rw [show t.life = s.life.finish from hl]
    exact Lifecycle.agrees_finish hagrees
  · rw [show t.point = some q from hq] at hagrees ⊢
    exact hagrees.keeps hk

theorem agrees_test (h : Inv s) {i : Nat} {p : TestPoint} (hp : s.tests[i]? = some p) :
    let t := p.step s.plan s.folder s.life s.studio
    t.life.Agrees s.runs.length ((putBack s.tests i t.point).length + s.callers.countP Caller.hasAnnounced) := by
  intro t
  have hagrees := h.agrees
  rw [length_putBack hp t.point, Nat.add_right_comm] at hagrees
  rcases p.step_life s.plan s.folder s.life s.studio with ⟨hq, hl⟩ | ⟨q, hq, hl⟩
  · rw [show t.point = none from hq] at hagrees ⊢
    rw [show t.life = s.life.endTest from hl]
    exact Lifecycle.agrees_endTest hagrees
  · rw [show t.point = some q from hq] at hagrees ⊢
    rw [show t.life = s.life from hl]
    exact hagrees

theorem agrees_step (h : Inv s) (e : Event) :
    (s.step e).life.Agrees (s.step e).runs.length
      ((s.step e).tests.length + (s.step e).callers.countP Caller.hasAnnounced) := by
  cases e with
  | call r =>
    have hnone : r.caller.hasAnnounced = false := by cases r <;> rfl
    simpa [step, hnone] using h.agrees
  | proceed i =>
    simp only [step]
    split
    · exact h.agrees
    · next hp => exact (agrees_proceed h hp).1
  | run i =>
    simp only [step]
    split
    · exact h.agrees
    · next hp => exact agrees_run h hp
  | test i =>
    simp only [step]
    split
    · exact h.agrees
    · next hp => exact agrees_test h hp
  | breakRun i =>
    simp only [step]
    split
    · next hi =>
      have hagrees := h.agrees
      rw [← List.length_eraseIdx_add_one hi] at hagrees
      exact Lifecycle.agrees_finish hagrees
    · exact h.agrees
  | breakTest i =>
    simp only [step]
    split
    · next hi =>
      have hagrees := h.agrees
      rw [← List.length_eraseIdx_add_one hi, Nat.add_right_comm] at hagrees
      exact Lifecycle.agrees_endTest hagrees
    · exact h.agrees
  | setDownloads b => exact Lifecycle.agrees_setDownloads h.agrees b
  | elsewhere studio => exact h.agrees

/-- a call comes to the point of raising the signal only where it has seen a run -/
theorem mem_callers_step (h : Inv s) (e : Event) (hm : Caller.raise ∈ (s.step e).callers) :
    Caller.raise ∈ s.callers ∨ (s.step e).life.phase ≠ .idle := by
  cases e with
  | call r =>
    rcases List.mem_append.1 hm with hm | hm
    · exact .inl hm
    · cases r <;> simp [Request.caller] at hm
  | proceed i =>
    simp only [step] at hm ⊢
    cases hp : s.callers[i]? with
    | none => exact .inl (by simpa [hp] using hm)
    | some p =>
      simp only [hp] at hm
      rcases List.mem_or_eq_of_mem_set hm with hm | hm
      · exact .inl hm
      · exact .inr ((agrees_proceed h hp).2 hm.symm)
  | run i | test i | breakRun i | breakTest i => simp only [step] at hm; split at hm <;> exact .inl hm
  | setDownloads _ | elsewhere _ => exact .inl hm

theorem inv_step (h : Inv s) (e : Event) : Inv (s.step e) := by
  have hmove := step_move h e
  refine ⟨agrees_step h e, fun hm => ?_, hmove.launches_eq h.launches⟩
  rcases mem_callers_step h e hm with hm | hp
  · exact hmove.ne_idle (h.raising hm)
  · exact hp

theorem inv_fresh (plan : Plan) (folder : String) (downloads : Bool) (studio : Studio) :
    Inv (fresh plan folder downloads studio) :=
  ⟨Lifecycle.agrees_new downloads, fun h => absurd h List.not_mem_nil, rfl⟩

theorem inv_steps (h : Inv s) (es : List Event) : Inv (s.steps es) := by
  induction es generalizing s with
  | nil => exact h
  | cons e es ih => exact ih (inv_step h e)

/-- nothing follows the last phase -/
theorem steps_finished (h : Inv s) (hf : s.life.phase = .finished) (es : List Event) :
    (s.steps es).life.phase = .finished ∧ (s.steps es).launches = s.launches := by
  induction es generalizing s with
  | nil => exact ⟨hf, rfl⟩
  | cons e es ih =>
    obtain ⟨hphase, hlaunches⟩ : (s.step e).life.phase = .finished ∧ (s.step e).launches = s.launches := by
      cases step_move h e with
      | stay hp hl => exact ⟨hp.trans hf, hl⟩
      | start hb _ _ _ => rw [hf] at hb; cases hb
      | finish hb _ _ => rw [hf] at hb; cases hb
    obtain ⟨hp, hl⟩ := ih (inv_step h e) hphase
    exact ⟨hp, hl.trans hlaunches⟩

/-- **A function lives once.** Take a new function, any calls on it and any interleaving of their pieces with the steps
and the ends of its threads. It is never started and testing at once. Its run is launched at most once, and has been
launched just if the function is not idle. Of its run, its test shots and the test shots announced there is at most one
at a time. While it is idle the signal is not up, and nobody is about to raise it. An event moves the phase on by one
at most, and the signal is not up when the run is launched. Once finished it stays so: no run is there, and none
follows. -/
theorem lifecycle_safety (plan : Plan) (folder : String) (downloads : Bool) (studio : Studio) (es : List Event) :
    let s := (fresh plan folder downloads studio).steps es
    ¬ (s.life.phase = .started ∧ s.life.isTesting = true) ∧
      s.launches ≤ 1 ∧ (s.launches = 1 ↔ s.life.phase ≠ .idle) ∧
      s.runs.length + s.tests.length + s.callers.countP Caller.hasAnnounced ≤ 1 ∧
      (s.life.phase = .idle → s.life.isAborted = false ∧ Caller.raise ∉ s.callers) ∧
      (∀ e, s.life.phase.Next (s.step e).life.phase ∧
        ((s.step e).launches ≠ s.launches → (s.step e).life.isAborted = false)) ∧
      (s.life.phase = .finished → ∀ es', (s.steps es').life.phase = .finished ∧
        (s.steps es').launches = s.launches ∧ (s.steps es').runs = []) := by
  intro s
  have h : Inv s := inv_steps (inv_fresh plan folder downloads studio) es
  refine ⟨?_, ?_, ?_, ?_, ?_, ?_, ?_⟩
  · rintro ⟨hs, ht⟩
    rw [h.agrees.exclusive hs] at ht
    exact Bool.false_ne_true ht
  · rw [h.launches]; split_ifs <;> omega
  · rw [h.launches]; split_ifs with hi <;> simp [hi]
  · have := h.agrees.add_le_one; omega
  · intro hi
    refine ⟨?_, fun hm => h.raising hm hi⟩
    by_contra hup
    exact h.agrees.aborted (by simpa using hup) hi
  · intro e
    have hmove := step_move h e
    refine ⟨hmove.next, fun hne => ?_⟩
    cases hmove with
    | stay _ hl => exact absurd hl hne
    | start _ _ _ hdown => exact hdown
    | finish _ _ hl => exact absurd hl hne
  · intro hf es'
    obtain ⟨hp, hl⟩ := steps_finished h hf es'
    refine ⟨hp, hl, ?_⟩
    have hnone : ¬ 0 < (s.steps es').runs.length := by
      rw [length_runs_pos (inv_steps h es'), hp]
      exact Phase.noConfusion
    exact List.length_eq_zero_iff.1 (by omega)

/-- a start that has looked before the test shot was announced is refused when it looks again -/
example (plan : Plan) (folder : String) :
    ((fresh plan folder false {}).steps
      [.call .start, .call .test, .proceed 0, .proceed 1, .proceed 0, .proceed 0]).callers =
      [.done (.error .testInProgress), .testReady] := rfl

end Crew

end RemoteShutter
