/-
The account of a run.

While a run goes on, its counter, the statistics and the last shot of its function lag behind the pictures taken by at
most one, and where the run stands tells by how much.
- `Plan.Counts`, `Lifecycle.Records`: the counter and the shared state are those of some pictures.
- `RunPoint.Standing`: what holds of the pictures taken so far, for each place where the run may stand.
- `RunPoint.goesOn_step`: a step of the run keeps this, as long as the number of pictures fits the counters.
-/
import Mathlib.Tactic
import RemoteShutter.Shooting.Function

namespace RemoteShutter

variable {plan : Plan} {folder : String} {life : Lifecycle} {studio : Studio} {taken : UInt32} {old shots : List Shot}

theorem toNat_add_one {n : UInt32} {k : Nat} (hn : n.toNat = k) (hk : k + 1 < 2 ^ 32) : (n + 1).toNat = k + 1 := by
  rw [UInt32.toNat_add, hn]
  exact Nat.mod_eq_of_lt hk

namespace Plan

/-- the plan is not exceeded -/
def Within (plan : Plan) (shots : List Shot) : Prop :=
  ∀ n, plan.shots = .limited n → shots.length ≤ n.toNat

/-- a run without a limit is not too long for its counters -/
def Small (plan : Plan) (shots : List Shot) : Prop :=
  plan.shots = .unbounded → shots.length < 2 ^ 32

/-- the plan was carried out to its end -/
def Complete (plan : Plan) (shots : List Shot) : Prop :=
  ∃ n, plan.shots = .limited n ∧ shots.length = n.toNat

/-- the counter of the run is right -/
structure Counts (plan : Plan) (taken : UInt32) (shots : List Shot) : Prop where
  taken : taken.toNat = shots.length
  within : plan.Within shots

theorem length_lt (hw : plan.Within shots) (hs : plan.Small shots) : shots.length < 2 ^ 32 := by
  cases hp : plan.shots with
  | limited n => exact Nat.lt_of_le_of_lt (hw n hp) n.toNat_lt
  | unbounded => exact hs hp

/-- one shot more is still within the plan if it was due -/
theorem Counts.within_concat (h : plan.Counts taken old) (hallows : plan.shots.allows taken = true) (shot : Shot) :
    plan.Within (old ++ [shot]) := by
  intro n hn
  rw [hn, ShotCount.allows, decide_eq_true_eq, UInt32.lt_iff_toNat_lt, h.taken] at hallows
  rw [List.length_append, List.length_singleton]
  exact hallows

/-- the counter moves on with the shot -/
theorem Counts.concat (h : plan.Counts taken old) (hallows : plan.shots.allows taken = true) {shot : Shot}
    (hs : plan.Small (old ++ [shot])) : plan.Counts (taken + 1) (old ++ [shot]) := by
  have hw := h.within_concat hallows shot
  have hlt := length_lt hw hs
  rw [List.length_append, List.length_singleton] at hlt
  exact ⟨by rw [toNat_add_one h.taken hlt, List.length_append, List.length_singleton], hw⟩

/-- if no shot is due the plan was carried out -/
theorem Counts.complete (h : plan.Counts taken shots) (hdone : ¬ plan.shots.allows taken = true) :
    plan.Complete shots := by
  cases hp : plan.shots with
  | limited n =>
    rw [hp, ShotCount.allows, decide_eq_true_eq, UInt32.lt_iff_toNat_lt, h.taken] at hdone
    exact ⟨n, hp, Nat.le_antisymm (h.within n hp) (Nat.le_of_not_lt hdone)⟩
  | unbounded => rw [hp] at hdone; exact absurd rfl hdone

end Plan

namespace Lifecycle

/-- the statistics are those of the shots `recorded`, and the last shot is that of `noted` -/
structure Records (life : Lifecycle) (recorded noted : List Shot) : Prop where
  exposures : life.stats.exposures.toNat = recorded.length
  late : life.stats.late.toNat ≤ recorded.length
  lastShot : life.lastShot = noted.getLast?

/-- a sample adds one to the late shots, or nothing -/
theorem late_record (life : Lifecycle) (hlt : life.stats.late.toNat + 1 < 2 ^ 32) (sample : Int64) :
    life.stats.late.toNat ≤ (life.record sample).stats.late.toNat ∧
      (life.record sample).stats.late.toNat ≤ life.stats.late.toNat + 1 := by
  simp only [record, TimingStats.record]
  split_ifs
  · rw [toNat_add_one rfl hlt]
    omega
  · omega

/-- a sample is recorded with the shot -/
theorem Records.concat {shot : Shot} (h : life.Records old shots) (hs : shots = old ++ [shot])
    (hlt : shots.length < 2 ^ 32) (sample : Int64) : Records (life.record sample) shots shots := by
  have hlen : shots.length = old.length + 1 := by rw [hs, List.length_append, List.length_singleton]
  refine ⟨?_, ?_, h.lastShot⟩
  · rw [hlen] at hlt ⊢
    exact toNat_add_one h.exposures hlt
  · have hle := h.late
    have hlate := (late_record life (by omega) sample).2
    omega

end Lifecycle

namespace RunPoint

/-! ## Captures -/

/-- a capture is due; the next step begins it -/
def isDue : RunPoint → Bool
  | aim _ _ => true
  | _ => false

/-- how the capture went that the next step brings to an end, if it does -/
def outcome? (plan : Plan) (studio : Studio) : RunPoint → Option (Except CameraError Shot)
  | aim _ _ =>
    match studio.camera.exposureMode with
    | .ok _ => none
    | .error e => some (.error e)
  | fire _ _ mode => some (studio.fire plan.exposure mode none).1
  | _ => none

/-- the failure that the run has ended with, if any -/
def failures : RunPoint → List CameraError
  | leave (.failed e) => [e]
  | _ => []

/-- the counter of the run, as long as it has one -/
def taken? : RunPoint → Option UInt32
  | head taken | aim taken _ | fire taken _ _ | note taken _ _ | deliver taken _ | fetch taken _ | sample taken _
  | wait taken _ => some taken
  | leave _ => none

/-- the pictures that the run has not counted yet -/
def uncounted : RunPoint → Nat
  | note _ _ _ => 1
  | _ => 0

/-- the pictures whose samples are not recorded yet -/
def unrecorded : RunPoint → Nat
  | note _ _ _ | deliver _ _ | fetch _ _ | sample _ _ => 1
  | _ => 0

/-! ## The account -/

/-- what holds of the pictures taken so far where the run stands -/
def Standing (plan : Plan) (life : Lifecycle) (shots : List Shot) : RunPoint → Prop
  | .head taken => plan.Counts taken shots ∧ life.Records shots shots
  | .aim taken _ | .fire taken _ _ | .wait taken _ =>
    plan.Counts taken shots ∧ life.Records shots shots ∧ plan.shots.allows taken = true
  | .note taken _ shot =>
    ∃ old, shots = old ++ [shot] ∧ plan.Counts taken old ∧ life.Records old old ∧ plan.shots.allows taken = true
  | .deliver taken _ | .fetch taken _ | .sample taken _ =>
    ∃ old shot, shots = old ++ [shot] ∧ plan.Counts taken shots ∧ life.Records old shots
  | .leave reason =>
    plan.Within shots ∧ life.Records shots shots ∧ (reason = .complete → plan.Complete shots) ∧
      (reason = .aborted → life.isAborted = true)

theorem Standing.within {p : RunPoint} (h : Standing plan life shots p) : plan.Within shots := by
  cases p with
  | head | aim | fire | wait => exact h.1.within
  | note =>
    obtain ⟨old, rfl, hc, -, ha⟩ := h
    exact hc.within_concat ha _
  | deliver | fetch | sample =>
    obtain ⟨old, shot, -, hc, -⟩ := h
    exact hc.within
  | leave => exact h.1

theorem Standing.length_eq_taken {p : RunPoint} (h : Standing plan life shots p) (ht : p.taken? = some taken) :
    shots.length = taken.toNat + p.uncounted := by
  cases p with
  | head | aim | fire | wait => cases ht; exact h.1.taken.symm
  | note =>
    obtain ⟨old, rfl, hc, -⟩ := h
    cases ht
    rw [List.length_append, List.length_singleton, ← hc.taken, uncounted]
  | deliver | fetch | sample =>
    obtain ⟨old, shot, -, hc, -⟩ := h
    cases ht
    exact hc.taken.symm
  | leave => cases ht

theorem Standing.length_eq_exposures {p : RunPoint} (h : Standing plan life shots p) :
    shots.length = life.stats.exposures.toNat + p.unrecorded := by
  cases p with
  | head => exact h.2.exposures.symm
  | aim | fire | wait | leave => exact h.2.1.exposures.symm
  | note =>
    obtain ⟨old, rfl, -, hr, -⟩ := h
    rw [List.length_append, List.length_singleton, hr.exposures, unrecorded]
  | deliver | fetch | sample =>
    obtain ⟨old, shot, rfl, -, hr⟩ := h
    rw [List.length_append, List.length_singleton, hr.exposures, unrecorded]

/-- the signal and the download flag have no part in the record -/
theorem Standing.keeps {p : RunPoint} {life' : Lifecycle} (h : Standing plan life shots p)
    (hstats : life'.stats = life.stats) (hlast : life'.lastShot = life.lastShot)
    (hup : life.isAborted = true → life'.isAborted = true) : Standing plan life' shots p := by
  have hrecords : ∀ {a b}, life.Records a b → life'.Records a b := fun hr =>
    ⟨by rw [hstats]; exact hr.exposures, by rw [hstats]; exact hr.late, by rw [hlast]; exact hr.lastShot⟩
  cases p with
  | head => exact ⟨h.1, hrecords h.2⟩
  | aim | fire | wait => exact ⟨h.1, hrecords h.2.1, h.2.2⟩
  | note =>
    obtain ⟨old, hs, hc, hr, ha⟩ := h
    exact ⟨old, hs, hc, hrecords hr, ha⟩
  | deliver | fetch | sample =>
    obtain ⟨old, shot, hs, hc, hr⟩ := h
    exact ⟨old, shot, hs, hc, hrecords hr⟩
  | leave reason => exact ⟨h.1, hrecords h.2.1, h.2.2.1, fun hr => hup (h.2.2.2 hr)⟩

theorem standing_failed (hc : plan.Counts taken shots) (hr : life.Records shots shots) (e : CameraError) :
    Standing plan life shots (.leave (.failed e)) :=
  ⟨hc.within, hr, fun hn => (by cases hn), fun hn => (by cases hn)⟩

theorem standing_aborted (hc : plan.Counts taken shots) (hr : life.Records shots shots) (hup : life.isAborted = true) :
    Standing plan life shots (.leave .aborted) :=
  ⟨hc.within, hr, fun hn => (by cases hn), fun _ => hup⟩

theorem standing_complete (hc : plan.Counts taken shots) (hr : life.Records shots shots)
    (hdone : ¬ plan.shots.allows taken = true) : Standing plan life shots (.leave .complete) :=
  ⟨hc.within, hr, fun _ => hc.complete hdone, fun hn => (by cases hn)⟩

/-- how the run goes on after a step, depending on the capture that the step has brought to an end -/
inductive GoesOn (plan : Plan) (shots : List Shot) (t : Stepped RunPoint) :
    Option (Except CameraError Shot) → Prop where
  | quiet {q : RunPoint} (point : t.point = some q) (failures : q.failures = [])
      (standing : Standing plan t.life shots q) : GoesOn plan shots t none
  | success {q : RunPoint} {shot : Shot} (point : t.point = some q) (failures : q.failures = [])
      (standing : Standing plan t.life (shots ++ [shot]) q) : GoesOn plan shots t (some (.ok shot))
  | failure {e : CameraError} (point : t.point = some (.leave (.failed e)))
      (standing : Standing plan t.life shots (.leave (.failed e))) : GoesOn plan shots t (some (.error e))

/-- **A step of the run keeps the account.** -/
theorem goesOn_step {p : RunPoint} (h : Standing plan life shots p) (hs : plan.Small shots)
    (hp : ∀ r, p ≠ .leave r) : GoesOn plan shots (p.step plan folder life studio) (p.outcome? plan studio) := by
  cases p with
  | head taken =>
    obtain ⟨hc, hr⟩ := h
    simp only [RunPoint.step]
    split_ifs with hup hallows
    · exact .quiet rfl rfl (standing_aborted hc hr hup)
    · exact .quiet rfl rfl ⟨hc, hr, hallows⟩
    · exact .quiet rfl rfl (standing_complete hc hr hallows)
  | aim taken start =>
    obtain ⟨hc, hr, ha⟩ := h
    simp only [RunPoint.step, RunPoint.outcome?]
    cases studio.camera.exposureMode with
    | ok mode => exact .quiet rfl rfl ⟨hc, hr, ha⟩
    | error e => exact .failure rfl (standing_failed hc hr e)
  | fire taken start mode =>
    obtain ⟨hc, hr, ha⟩ := h
    simp only [RunPoint.step, RunPoint.outcome?]
    rcases studio.fire plan.exposure mode none with ⟨e | shot, after⟩
    · exact .failure rfl (standing_failed hc hr e)
    · exact .success rfl rfl ⟨shots, rfl, hc, hr, ha⟩
  | note taken start shot =>
    obtain ⟨old, rfl, hc, hr, ha⟩ := h
    exact .quiet rfl rfl ⟨old, shot, rfl, hc.concat ha hs, hr.exposures, hr.late, List.getLast?_concat.symm⟩
  | deliver taken start =>
    simp only [RunPoint.step]
    split_ifs <;> exact .quiet rfl rfl h
  | fetch taken start => exact .quiet rfl rfl h
  | sample taken start =>
    obtain ⟨old, shot, hshots, hc, hr⟩ := h
    have hrecords := hr.concat hshots (Plan.length_lt hc.within hs) (plan.sample start studio.clock)
    cases plan with
    | sequencer c => exact .quiet rfl rfl ⟨hc, hrecords⟩
    | intervalometer c =>
      simp only [RunPoint.step]
      split_ifs with hallows
      · exact .quiet rfl rfl ⟨hc, hrecords, hallows⟩
      · exact .quiet rfl rfl (standing_complete hc hrecords hallows)
  | wait taken deadline =>
    obtain ⟨hc, hr, ha⟩ := h
    simp only [RunPoint.step]
    split_ifs with hup hover
    · exact .quiet rfl rfl (standing_aborted hc hr hup)
    · exact .quiet rfl rfl ⟨hc, hr⟩
    · exact .quiet rfl rfl ⟨hc, hr, ha⟩
  | leave r => exact absurd rfl (hp r)

/-- a capture begins when it is due, goes on while the run holds the camera, and comes to an end; once the signal is up
none becomes due -/
theorem captures_step {p q : RunPoint} (hq : (p.step plan folder life studio).point = some q) :
    p.isDue.toNat + p.holdsCamera.toNat = (p.outcome? plan studio).toList.length + q.holdsCamera.toNat ∧
      (life.isAborted = true → q.isDue = false) := by
  cases p with
  | head taken =>
    simp only [step] at hq
    split_ifs at hq with hup hallows
    · cases hq
      exact ⟨rfl, fun _ => rfl⟩
    · cases hq
      exact ⟨rfl, fun h => absurd h hup⟩
    · cases hq
      exact ⟨rfl, fun _ => rfl⟩
  | aim taken start =>
    simp only [step, outcome?] at hq ⊢
    cases hmode : studio.camera.exposureMode <;> simp only [hmode] at hq ⊢ <;> cases hq <;> exact ⟨rfl, fun _ => rfl⟩
  | fire taken start mode =>
    simp only [step, outcome?] at hq ⊢
    rcases hfire : studio.fire plan.exposure mode none with ⟨e | shot, after⟩ <;> simp only [hfire] at hq <;>
      cases hq <;> exact ⟨rfl, fun _ => rfl⟩
  | deliver taken start =>
    simp only [step] at hq
    cases hq
    split_ifs <;> exact ⟨rfl, fun _ => rfl⟩
  | sample taken start =>
    cases plan with
    | sequencer c => cases hq; exact ⟨rfl, fun _ => rfl⟩
    | intervalometer c =>
      simp only [step] at hq
      split_ifs at hq <;> cases hq <;> exact ⟨rfl, fun _ => rfl⟩
  | wait taken deadline =>
    simp only [step] at hq
    split_ifs at hq <;> cases hq <;> exact ⟨rfl, fun _ => rfl⟩
  | note | fetch => cases hq; exact ⟨rfl, fun _ => rfl⟩
  | leave r => cases hq

/-- no count goes back -/
theorem late_step {p : RunPoint} (h : Standing plan life shots p) (hs : plan.Small shots) :
    life.stats.late.toNat ≤ (p.step plan folder life studio).life.stats.late.toNat := by
  cases p with
  | sample taken start =>
    obtain ⟨old, shot, hshots, hc, hr⟩ := h
    have hlt := Plan.length_lt hc.within hs
    have hle := hr.late
    rw [hshots, List.length_append, List.length_singleton] at hlt
    have hrecord := (Lifecycle.late_record life (by omega) (plan.sample start studio.clock)).1
    cases plan with
    | sequencer c => exact hrecord
    | intervalometer c => simp only [step]; split_ifs <;> exact hrecord
  | head => simp only [step]; split_ifs <;> exact Nat.le_refl _
  | aim => simp only [step]; split <;> exact Nat.le_refl _
  | fire => simp only [step]; split <;> exact Nat.le_refl _
  | wait => simp only [step]; split_ifs <;> exact Nat.le_refl _
  | note | deliver | fetch | leave => exact Nat.le_refl _

end RunPoint

end RemoteShutter
