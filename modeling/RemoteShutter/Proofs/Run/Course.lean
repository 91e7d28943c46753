/-
The course of a run.

What is behind a run tells where it stands, whatever others do meanwhile. Numbers of pictures have no bound here: the
counters of a function have 32 bits and turn over.
- `pictures`: the pictures that came of attempts.
- `Course`: the counter, the statistics and the last shot at each place of a run, and which attempts were due.
- `quiet`, `succeeds`, `fails`: each move of a run keeps that.
-/
import Mathlib.Tactic
import RemoteShutter.Proofs.Run.Moves

namespace RemoteShutter

variable {plan : Plan} {folder : String} {life life' : Lifecycle} {studio studio' : Studio} {p q : RunPoint}

/-- the pictures that came of attempts, in order -/
def pictures (as : List Attempt) : List Picture :=
  as.filterMap Except.toOption

theorem pictures_concat_ok (as : List Attempt) (picture : Picture) :
    pictures (as ++ [.ok picture]) = pictures as ++ [picture] := by
  rw [pictures, List.filterMap_append]
  rfl

theorem pictures_concat_error (as : List Attempt) (e : CameraError) : pictures (as ++ [.error e]) = pictures as := by
  rw [pictures, List.filterMap_append]
  exact List.append_nil _

/-- what holds of the attempts that are over where the run stands -/
structure Course (plan : Plan) (life : Lifecycle) (as : List Attempt) (p : RunPoint) : Prop where
  attempts : as = (pictures as).map .ok ++ p.failures.map .error
  exposures : life.stats.exposures + UInt32.ofNat p.unrecorded = UInt32.ofNat (pictures as).length
  lastShot : p.lastTaken life = ((pictures as).map Picture.shot).getLast?
  counted : ∀ n, p.taken? = some n → n + UInt32.ofNat p.uncounted = UInt32.ofNat (pictures as).length
  /-- each attempt was due, the one that is under way included -/
  due : ∀ k < as.length + p.isDue.toNat + p.holdsCamera.toNat, plan.shots.allows (UInt32.ofNat k) = true
  complete : p = .leave .complete → plan.shots.allows (UInt32.ofNat (pictures as).length) = false

namespace Course

variable {as : List Attempt} {n : UInt32}

theorem start (plan : Plan) (hstats : life.stats.exposures = 0) (hlast : life.lastShot = none) :
    Course plan life [] (.head 0) where
  attempts := rfl
  exposures := by rw [hstats]; rfl
  lastShot := hlast
  counted n hn := by cases hn; rfl
  due k hk := absurd hk (Nat.not_lt_zero k)
  complete h := by cases h

/-- as long as none has failed there are as many attempts as pictures -/
theorem length_eq (h : Course plan life as p) (hp : p.failures = []) : as.length = (pictures as).length := by
  have hattempts := congrArg List.length h.attempts
  rwa [hp, List.map_nil, List.append_nil, List.length_map] at hattempts

/-- where all pictures are counted the counter is their number -/
theorem taken_eq (h : Course plan life as p) (hn : p.taken? = some n) (hp : p.uncounted = 0) :
    n = UInt32.ofNat (pictures as).length := by
  have hcounted := h.counted n hn
  rw [hp] at hcounted
  exact (UInt32.add_zero n).symm.trans hcounted

/-- the signal, the download flag and the phase have no part in it -/
theorem congr (h : Course plan life as p) (hstats : life'.stats = life.stats) (hlast : life'.lastShot = life.lastShot) :
    Course plan life' as p where
  attempts := h.attempts
  exposures := by rw [hstats]; exact h.exposures
  lastShot := by
    have hbefore := h.lastShot
    cases p with
    | note => exact hbefore
    | _ => exact hlast.trans hbefore
  counted := h.counted
  due := h.due
  complete := h.complete

/-- **A quiet move keeps the course.** -/
theorem quiet (h : Course plan life as p) (hm : RunPoint.Quiet plan folder life studio p q life' studio') :
    Course plan life' as q := by
  cases hm with
  | begins up due =>
    refine ⟨h.attempts, h.exposures, h.lastShot, h.counted, ?_, nofun⟩
    intro k hk
    rcases Nat.lt_succ_iff_lt_or_eq.1 hk with hlt | rfl
    · exact h.due k hlt
    · -- the attempt that becomes due has the number of those that are over, and so of the counter
      rw [h.length_eq rfl, ← h.taken_eq rfl rfl]
      exact due
  | completes up done =>
    exact ⟨h.attempts, h.exposures, h.lastShot, nofun, h.due, fun _ => h.taken_eq rfl rfl ▸ done⟩
  | stops | breaks => exact ⟨h.attempts, h.exposures, h.lastShot, nofun, h.due, nofun⟩
  | aims | orders | skips | fetches | wakes | waits =>
    exact ⟨h.attempts, h.exposures, h.lastShot, h.counted, h.due, nofun⟩
  | notes =>
    refine ⟨h.attempts, h.exposures, h.lastShot, ?_, h.due, nofun⟩
    intro m hm
    cases hm
    exact (UInt32.add_zero _).trans (h.counted _ rfl)
  | loops | rests => exact ⟨h.attempts, (UInt32.add_zero _).trans h.exposures, h.lastShot, h.counted, h.due, nofun⟩
  | finishes kind done =>
    exact ⟨h.attempts, (UInt32.add_zero _).trans h.exposures, h.lastShot, nofun, h.due,
      fun _ => h.taken_eq rfl rfl ▸ done⟩

/-- a picture is taken, and neither counted nor noted yet -/
theorem succeeds {start : Nat} {mode : ExposureMode} (h : Course plan life as (.fire n start mode)) (shot : Shot) :
    Course plan life (as ++ [.ok ⟨shot, mode⟩]) (.note n start shot) := by
  have hone : UInt32.ofNat ((pictures as).length + 1) = UInt32.ofNat (pictures as).length + 1 := UInt32.ofNat_add _ _
  have hall : as = (pictures as).map .ok := h.attempts.trans (List.append_nil _)
  refine ⟨?_, ?_, ?_, ?_, ?_, nofun⟩
  · rw [pictures_concat_ok, List.map_append, ← hall]
    exact (List.append_nil _).symm
  · rw [pictures_concat_ok, List.length_append, List.length_singleton, hone, ← h.exposures]
    exact congrArg (· + 1) (UInt32.add_zero _).symm
  · rw [pictures_concat_ok, List.map_append]
    exact List.getLast?_concat.symm
  · intro m hm
    cases hm
    rw [pictures_concat_ok, List.length_append, List.length_singleton, hone, ← h.counted _ rfl]
    exact congrArg (· + 1) (UInt32.add_zero _).symm
  · -- the attempt was due already while it was under way
    intro k hk
    rw [List.length_append] at hk
    exact h.due k hk

/-- an attempt fails -/
theorem fails (h : Course plan life as p) (hp : p.failures = []) (hu : p.unrecorded = 0)
    (hlast : p.lastTaken life = life.lastShot) (hbusy : p.isDue.toNat + p.holdsCamera.toNat = 1) (e : CameraError) :
    Course plan life (as ++ [.error e]) (.leave (.failed e)) := by
  have hall : as = (pictures as).map .ok := by
    have hattempts := h.attempts
    rwa [hp, List.map_nil, List.append_nil] at hattempts
  refine ⟨?_, ?_, ?_, nofun, ?_, nofun⟩
  · rw [pictures_concat_error, ← hall]
    rfl
  · rw [pictures_concat_error, ← h.exposures, hu]
    rfl
  · rw [pictures_concat_error, ← h.lastShot, hlast]
    rfl
  · intro k hk
    apply h.due k
    rw [List.length_append] at hk
    rw [Nat.add_assoc, hbusy]
    exact hk

end Course

end RemoteShutter
