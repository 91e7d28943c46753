/-
The cadence of an intervalometer.

A timetable is a history of a run with the record of what the run has read off the clock: which readings have opened a
period, and when each shot began and was over. The clock belongs to others, and the only thing assumed of it is that the
readings do not go back. Captures and downloads take as long as they take, a wait may wake up at any time, and the signal
to stop may come at any time.
- `toInt_signedMicros`: a difference of two times in whole microseconds, cut off toward zero.
- `Keeps`: the record agrees with where the run stands; `keeps_step`, `keeps_steps`: every event keeps that.
- `cadence`: periods are a period apart or more, samples are exact, and the last shot of a limited run is not waited for.
-/
import RemoteShutter.Proofs.Run.History
import RemoteShutter.Proofs.Telemetry.Samples

namespace RemoteShutter

/-! ## Microseconds -/

theorem Int64.toInt_ofNanos (time : Nat) : (ofNanos time).toInt = min ((time / 1000 : Nat) : Int) (2 ^ 63 - 1) := by
  unfold ofNanos
  rw [Int64.toInt_maxValue]
  split_ifs with h
  · rw [Int64.toInt_maxValue]
    omega
  · have hvalue : (time / 1000).toInt64.toInt = (time / 1000 : Nat) := Int64.toInt_ofNat_of_lt (by omega)
    rw [hvalue, min_eq_left (by omega)]

theorem Int64.toInt_neg_ofNanos (time : Nat) :
    (-ofNanos time).toInt = -min ((time / 1000 : Nat) : Int) (2 ^ 63 - 1) := by
  rw [Int64.toInt_neg, toInt_ofNanos]
  apply Int.bmod_eq_of_le
  · norm_num
  · norm_num
    omega

/-- **A difference is exact but for the part of a microsecond**, as long as 64 bits hold it. -/
theorem Int64.toInt_signedMicros (now deadline : Nat) : (signedMicros now deadline).toInt =
    max (-(2 ^ 63 - 1)) (min (2 ^ 63 - 1) (Int.tdiv ((now : Int) - deadline) 1000)) := by
  unfold signedMicros
  split_ifs with h
  · have hdiv : Int.tdiv ((now : Int) - deadline) 1000 = ((now - deadline) / 1000 : Nat) := by
      rw [Int.tdiv_eq_ediv_of_nonneg (by omega)]
      omega
    rw [toInt_ofNanos, hdiv]
    omega
  · have hdiv : Int.tdiv ((now : Int) - deadline) 1000 = -((deadline - now) / 1000 : Nat) := by
      rw [← neg_sub, Int.neg_tdiv, Int.tdiv_eq_ediv_of_nonneg (by omega)]
      omega
    rw [toInt_neg_ofNanos, hdiv]
    omega

/-! ## Records of time -/

/-- when a shot began and when it was over, its download included -/
structure TimedShot where
  start : Nat
  finish : Nat
  deriving DecidableEq, Repr

namespace TimedShot

/-- whole microseconds from the end of the shot's period to its own -/
def delay (s : TimedShot) (period : Nat) : Int :=
  Int.tdiv ((s.finish : Int) - (s.start + period : Nat)) 1000

/-- it was over a microsecond after its period, or later -/
def IsLate (s : TimedShot) (period : Nat) : Prop :=
  s.start + period + 1000 ≤ s.finish

instance (s : TimedShot) (period : Nat) : Decidable (s.IsLate period) :=
  inferInstanceAs (Decidable (_ ≤ _))

theorem delay_pos_iff (s : TimedShot) (period : Nat) : 0 < s.delay period ↔ s.IsLate period := by
  unfold delay IsLate
  rcases Int.le_total 0 ((s.finish : Int) - (s.start + period : Nat)) with h | h
  · rw [Int.tdiv_eq_ediv_of_nonneg h]
    omega
  · rw [← Int.neg_neg ((s.finish : Int) - _), Int.neg_tdiv, Int.tdiv_eq_ediv_of_nonneg (by omega)]
    omega

end TimedShot

namespace RunPoint

/-- the next step opens a period -/
def opens (plan : Plan) (life : Lifecycle) : RunPoint → Bool
  | head taken => !life.isAborted && plan.shots.allows taken
  | _ => false

/-- the next step reads the clock -/
def readsClock (plan : Plan) (life : Lifecycle) : RunPoint → Bool
  | head taken => (head taken).opens plan life
  | sample _ _ => true
  | wait _ _ => !life.isAborted
  | _ => false

/-- the shot that is over with the next step, at `now` -/
def timed? (now : Nat) : RunPoint → Option TimedShot
  | sample _ start => some ⟨start, now⟩
  | _ => none

/-- when the shot began that the run is at -/
def start? : RunPoint → Option Nat
  | aim _ start | fire _ start _ | note _ start _ | deliver _ start | fetch _ start | sample _ start => some start
  | _ => none

/-- a picture waits for its sample until the shot is over -/
theorem unrecorded_step (plan : Plan) (folder : String) (life : Lifecycle) (studio : Studio) (p : RunPoint) :
    p.unrecorded + ((p.outcome? plan studio).toList.filterMap Except.toOption).length =
      (p.timed? studio.clock).toList.length +
        ((p.step plan folder life studio).point.map RunPoint.unrecorded).getD 0 := by
  cases p with
  | head taken =>
    simp only [step]
    split_ifs <;> rfl
  | aim taken start =>
    simp only [step, outcome?]
    cases studio.camera.exposureMode <;> rfl
  | fire taken start mode =>
    simp only [step, outcome?]
    rcases studio.fire plan.exposure mode none with ⟨e | shot, after⟩ <;> rfl
  | deliver taken start =>
    simp only [step]
    split_ifs <;> rfl
  | sample taken start =>
    cases plan with
    | sequencer c => rfl
    | intervalometer c =>
      simp only [step]
      split_ifs <;> rfl
  | wait taken deadline =>
    simp only [step]
    split_ifs <;> rfl
  | note | fetch | leave => rfl

end RunPoint

structure Timetable where
  history : RunHistory
  /-- what the run has read off the clock, in order -/
  readings : List Nat := []
  /-- the readings that have opened a period -/
  openings : List Nat := []
  /-- the shots whose samples are recorded -/
  shots : List TimedShot := []

namespace Timetable

/-- a function that has just been started -/
def start (plan : Plan) (folder : String) (downloads : Bool) (studio : Studio) : Timetable where
  history := RunHistory.start plan folder downloads studio

def step (t : Timetable) (e : RunHistory.Event) : Timetable :=
  match e, t.history.function.run with
  | .step, some p =>
    let f := t.history.function
    let now := t.history.studio.clock
    { history := t.history.step .step
      readings := t.readings ++ if p.readsClock f.plan f.life then [now] else []
      openings := t.openings ++ if p.opens f.plan f.life then [now] else []
      shots := t.shots ++ (p.timed? now).toList }
  | e, _ => { t with history := t.history.step e }

def steps (t : Timetable) (es : List RunHistory.Event) : Timetable :=
  es.foldl step t

/-- the readings that opened the periods of the shots that are over -/
def starts (t : Timetable) : List Nat :=
  t.shots.map TimedShot.start

/-- the samples of the shots that are over -/
def samples (t : Timetable) (plan : Plan) : List Int64 :=
  t.shots.map fun s => plan.sample s.start s.finish

/-- the clock has not gone back -/
def IsOrdered (t : Timetable) : Prop :=
  t.readings.Pairwise (· ≤ ·)

variable {t u : Timetable} {p : RunPoint} {c : IntervalometerConfig}

theorem steps_concat (t : Timetable) (es : List RunHistory.Event) (e : RunHistory.Event) :
    t.steps (es ++ [e]) = (t.steps es).step e := by
  rw [steps, List.foldl_append, List.foldl_cons, List.foldl_nil, steps]

theorem history_step (t : Timetable) (e : RunHistory.Event) : (t.step e).history = t.history.step e := by
  unfold step
  split <;> rfl

/-- the record is beside the history, which does not depend on it -/
theorem history_steps (t : Timetable) (es : List RunHistory.Event) : (t.steps es).history = t.history.steps es := by
  induction es using List.reverseRecOn with
  | nil => rfl
  | append_singleton es e ih => rw [steps_concat, history_step, ih, RunHistory.steps_concat]

theorem readings_step (t : Timetable) (e : RunHistory.Event) : t.readings <+: (t.step e).readings := by
  unfold step
  split
  · exact List.prefix_append _ _
  · exact List.prefix_rfl

theorem IsOrdered.of_step {e : RunHistory.Event} (h : (t.step e).IsOrdered) : t.IsOrdered :=
  List.Pairwise.sublist (readings_step t e).sublist h

/-! ## What the record says -/

/-- what the record says of the period that the run is in -/
def Placed (c : IntervalometerConfig) (t : Timetable) : RunPoint → Prop
  | .head _ => t.openings = t.starts ∧
      ∀ a ∈ t.openings.getLast?, ∃ r ∈ t.readings, a + (Plan.intervalometer c).period ≤ r
  | .aim _ start | .fire _ start _ | .note _ start _ | .deliver _ start | .fetch _ start | .sample _ start =>
    t.openings = t.starts ++ [start]
  | .wait taken deadline => t.openings = t.starts ∧ c.shots.allows taken = true ∧
      ∃ start, t.openings.getLast? = some start ∧ deadline = start + (Plan.intervalometer c).period
  | .leave _ => t.starts <+: t.openings

theorem placed_iff_of_start? {start : Nat} (hp : p.start? = some start) :
    Placed c t p ↔ t.openings = t.starts ++ [start] := by
  cases p with
  | aim | fire | note | deliver | fetch | sample =>
    cases hp
    exact Iff.rfl
  | _ => cases hp

/-- the record of an intervalometer -/
structure Keeps (c : IntervalometerConfig) (t : Timetable) : Prop where
  plan : t.history.function.plan = .intervalometer c
  spaced : t.openings.IsChain fun a b => a + (Plan.intervalometer c).period ≤ b
  starts : t.starts <+: t.openings
  stats : t.history.function.life.stats = TimingStats.recordAll {} (t.samples (.intervalometer c))
  counted : t.history.shots.length = t.shots.length + (t.history.function.run.map RunPoint.unrecorded).getD 0
  placed : ∀ p, t.history.function.run = some p → Placed c t p

theorem keeps_start (c : IntervalometerConfig) (folder : String) (downloads : Bool) (studio : Studio) :
    Keeps c (start (.intervalometer c) folder downloads studio) where
  plan := rfl
  spaced := List.IsChain.nil
  starts := List.prefix_rfl
  stats := rfl
  counted := rfl
  placed p hp := by
    cases hp
    exact ⟨rfl, fun a ha => by cases ha⟩

/-! ## Steps -/

/-- the step of a run, written out -/
theorem Keeps.step_of_run (h : Keeps c t) (hr : t.history.function.run = some p) : t.step .step = {
    history := t.history.step .step
    readings := t.readings ++
      if p.readsClock (.intervalometer c) t.history.function.life then [t.history.studio.clock] else []
    openings := t.openings ++
      if p.opens (.intervalometer c) t.history.function.life then [t.history.studio.clock] else []
    shots := t.shots ++ (p.timed? t.history.studio.clock).toList } := by
  simp only [step, hr, h.plan]

/-- the new record is right if it is for the place where the step leads -/
theorem keeps_of_run (h : Keeps c t) (hr : t.history.function.run = some p) {x : Stepped RunPoint}
    (hx : p.step (.intervalometer c) t.history.function.folder t.history.function.life t.history.studio = x)
    (hspaced : (t.step .step).openings.IsChain fun a b => a + (Plan.intervalometer c).period ≤ b)
    (hstarts : (t.step .step).starts <+: (t.step .step).openings)
    (hstats : x.life.stats = TimingStats.recordAll {} ((t.step .step).samples (.intervalometer c)))
    (hplaced : ∀ q, x.point = some q → Placed c (t.step .step) q) : Keeps c (t.step .step) := by
  have hhistory := RunHistory.step_of_run hr
  rw [h.plan, hx] at hhistory
  refine ⟨?_, hspaced, hstarts, ?_, ?_, ?_⟩
  · rw [history_step, RunHistory.plan_step, h.plan]
  · rw [history_step, hhistory]
    exact hstats
  · have hcount := RunPoint.unrecorded_step (.intervalometer c) t.history.function.folder t.history.function.life
      t.history.studio p
    have hbefore := h.counted
    rw [hr, Option.map_some, Option.getD_some] at hbefore
    rw [hx] at hcount
    rw [history_step, hhistory, h.step_of_run hr]
    simp only [RunHistory.shots, List.filterMap_append, List.length_append] at hbefore ⊢
    omega
  · rw [history_step, hhistory]
    exact hplaced

/-- a step that neither opens a period nor ends a shot -/
theorem keeps_of_quiet (h : Keeps c t) (hr : t.history.function.run = some p)
    (hopens : p.opens (.intervalometer c) t.history.function.life = false)
    (htimed : p.timed? t.history.studio.clock = none) {x : Stepped RunPoint}
    (hx : p.step (.intervalometer c) t.history.function.folder t.history.function.life t.history.studio = x)
    (hstats : x.life.stats = t.history.function.life.stats)
    (hplaced : ∀ q, x.point = some q → (t.step .step).openings = t.openings → (t.step .step).starts = t.starts →
      Placed c (t.step .step) q) : Keeps c (t.step .step) := by
  have hopenings : (t.step .step).openings = t.openings := by
    rw [h.step_of_run hr, hopens, if_neg Bool.false_ne_true, List.append_nil]
  have hshots : (t.step .step).shots = t.shots := by
    rw [h.step_of_run hr, htimed, Option.toList_none, List.append_nil]
  have hstarts : (t.step .step).starts = t.starts := congrArg (List.map TimedShot.start) hshots
  refine keeps_of_run h hr hx ?_ ?_ ?_ fun q hq => hplaced q hq hopenings hstarts
  · rw [hopenings]
    exact h.spaced
  · rw [hstarts, hopenings]
    exact h.starts
  · rw [hstats, samples, hshots]
    exact h.stats

/-- a step that ends the run -/
theorem keeps_of_leave (h : Keeps c t) (hr : t.history.function.run = some p)
    (hopens : p.opens (.intervalometer c) t.history.function.life = false)
    (htimed : p.timed? t.history.studio.clock = none) {x : Stepped RunPoint} {r : RunEnd}
    (hx : p.step (.intervalometer c) t.history.function.folder t.history.function.life t.history.studio = x)
    (hstats : x.life.stats = t.history.function.life.stats) (hpoint : x.point = some (.leave r)) :
    Keeps c (t.step .step) := by
  refine keeps_of_quiet h hr hopens htimed hx hstats fun q hq ho hs => ?_
  obtain rfl : .leave r = q := Option.some.inj (hpoint.symm.trans hq)
  rw [Placed, ho, hs]
  exact h.starts

/-- a step within a shot -/
theorem keeps_of_shot (h : Keeps c t) (hr : t.history.function.run = some p) {start : Nat} (hp : p.start? = some start)
    (htimed : p.timed? t.history.studio.clock = none) {x : Stepped RunPoint} {q : RunPoint}
    (hx : p.step (.intervalometer c) t.history.function.folder t.history.function.life t.history.studio = x)
    (hstats : x.life.stats = t.history.function.life.stats) (hpoint : x.point = some q) (hq : q.start? = some start) :
    Keeps c (t.step .step) := by
  have hopens : p.opens (.intervalometer c) t.history.function.life = false := by
    cases p with
    | head => cases hp
    | _ => rfl
  refine keeps_of_quiet h hr hopens htimed hx hstats fun q' hq' ho hs => ?_
  obtain rfl : q = q' := Option.some.inj (hpoint.symm.trans hq')
  rw [placed_iff_of_start? hq, ho, hs]
  exact (placed_iff_of_start? hp).1 (h.placed p hr)

/-- the step that opens a period comes a period after the last one, or later -/
theorem keeps_of_head {taken : UInt32} (h : Keeps c t) (hr : t.history.function.run = some (.head taken))
    (hclock : (t.step .step).IsOrdered) : Keeps c (t.step .step) := by
  obtain ⟨hbefore, hafter⟩ := h.placed _ hr
  by_cases hopens : (RunPoint.head taken).opens (.intervalometer c) t.history.function.life = true
  · have hopenings : (t.step .step).openings = t.openings ++ [t.history.studio.clock] := by
      rw [h.step_of_run hr, if_pos hopens]
    have hreadings : (t.step .step).readings = t.readings ++ [t.history.studio.clock] := by
      rw [h.step_of_run hr, RunPoint.readsClock, if_pos hopens]
    have hshots : (t.step .step).shots = t.shots := by
      rw [h.step_of_run hr]
      exact List.append_nil _
    have hstarts : (t.step .step).starts = t.starts := congrArg (List.map TimedShot.start) hshots
    obtain ⟨hup, hallows⟩ : t.history.function.life.isAborted = false ∧ c.shots.allows taken = true := by
      simpa [RunPoint.opens, Plan.shots] using hopens
    have hx : (RunPoint.head taken).step (.intervalometer c) t.history.function.folder t.history.function.life
        t.history.studio = ⟨some (.aim taken t.history.studio.clock), t.history.function.life, t.history.studio⟩ := by
      simp only [RunPoint.step, hup, Plan.shots, hallows, Bool.false_eq_true, if_false, if_true]
    refine keeps_of_run h hr hx ?_ ?_ ?_ fun q hq => ?_
    · rw [hopenings, List.isChain_append]
      refine ⟨h.spaced, List.isChain_singleton _, fun a ha b hb => ?_⟩
      -- the wait before has read a time at which the last period was over
      obtain ⟨r, hmem, hle⟩ := hafter a ha
      rw [IsOrdered, hreadings, List.pairwise_append] at hclock
      cases hb
      exact hle.trans (hclock.2.2 r hmem _ (List.mem_singleton_self _))
    · rw [hstarts, hopenings]
      exact h.starts.trans (List.prefix_append _ _)
    · rw [samples, hshots]
      exact h.stats
    · cases hq
      rw [Placed, hopenings, hstarts, hbefore]
  · rw [Bool.not_eq_true] at hopens
    cases hup : t.history.function.life.isAborted with
    | true => exact keeps_of_leave h hr hopens rfl (by simp only [RunPoint.step, hup, if_true]; rfl) rfl rfl
    | false =>
      have hallows : c.shots.allows taken = false := by
        simpa [RunPoint.opens, Plan.shots, hup] using hopens
      exact keeps_of_leave h hr hopens rfl
        (by simp only [RunPoint.step, hup, Plan.shots, hallows, Bool.false_eq_true, if_false]; rfl) rfl rfl

/-- the step that ends a shot records its sample -/
theorem keeps_of_sample {taken : UInt32} {start : Nat} (h : Keeps c t)
    (hr : t.history.function.run = some (.sample taken start)) : Keeps c (t.step .step) := by
  have hbefore : t.openings = t.starts ++ [start] := h.placed _ hr
  have hopenings : (t.step .step).openings = t.openings := by
    rw [h.step_of_run hr]
    exact List.append_nil _
  have hshots : (t.step .step).shots = t.shots ++ [⟨start, t.history.studio.clock⟩] := by
    rw [h.step_of_run hr]
    rfl
  have hstarts : (t.step .step).starts = t.openings := by
    rw [starts, hshots, List.map_append, hbefore]
    rfl
  have hspaced : (t.step .step).openings.IsChain fun a b => a + (Plan.intervalometer c).period ≤ b := by
    rw [hopenings]
    exact h.spaced
  have hprefix : (t.step .step).starts <+: (t.step .step).openings := by
    rw [hstarts, hopenings]
  have hstats : (t.history.function.life.record
      ((Plan.intervalometer c).sample start t.history.studio.clock)).stats =
        TimingStats.recordAll {} ((t.step .step).samples (.intervalometer c)) := by
    rw [samples, hshots, List.map_append, List.map_singleton, TimingStats.recordAll_concat, Lifecycle.record, h.stats,
      samples]
  cases hallows : c.shots.allows taken with
  | true =>
    refine keeps_of_run h hr (by simp only [RunPoint.step, Plan.shots, hallows, if_true]; rfl) hspaced hprefix hstats
      fun q hq => ?_
    cases hq
    rw [Placed, hopenings, hstarts, hbefore]
    exact ⟨rfl, hallows, start, List.getLast?_concat, rfl⟩
  | false =>
    refine keeps_of_run h hr (by simp only [RunPoint.step, Plan.shots, hallows, Bool.false_eq_true, if_false]; rfl)
      hspaced hprefix hstats fun q hq => ?_
    cases hq
    exact hprefix

/-- a wait ends with a reading at the deadline or later, or with the signal -/
theorem keeps_of_wait {taken : UInt32} {deadline : Nat} (h : Keeps c t)
    (hr : t.history.function.run = some (.wait taken deadline)) : Keeps c (t.step .step) := by
  obtain ⟨hbefore, hallows, start, hlast, hdeadline⟩ := h.placed _ hr
  cases hup : t.history.function.life.isAborted with
  | true => exact keeps_of_leave h hr rfl rfl (by simp only [RunPoint.step, hup, if_true]; rfl) rfl rfl
  | false =>
    have hreadings : (t.step .step).readings = t.readings ++ [t.history.studio.clock] := by
      rw [h.step_of_run hr]
      simp only [RunPoint.readsClock, hup, Bool.not_false, if_true]
    by_cases hover : deadline ≤ t.history.studio.clock
    · refine keeps_of_quiet h hr rfl rfl
        (by simp only [RunPoint.step, hup, hover, Bool.false_eq_true, if_false, if_true]; rfl) rfl fun q hq ho hs => ?_
      cases hq
      rw [Placed, ho, hs, hreadings]
      refine ⟨hbefore, fun a ha => ⟨t.history.studio.clock, by simp, ?_⟩⟩
      obtain rfl : start = a := Option.some.inj (hlast.symm.trans ha)
      exact hdeadline ▸ hover
    · refine keeps_of_quiet h hr rfl rfl
        (by simp only [RunPoint.step, hup, hover, Bool.false_eq_true, if_false]; rfl) rfl fun q hq ho hs => ?_
      cases hq
      rw [Placed, ho, hs]
      exact ⟨hbefore, hallows, start, hlast, hdeadline⟩

/-- **A step of the run keeps the record**, if the clock does not go back. -/
theorem keeps_run (h : Keeps c t) (hr : t.history.function.run = some p) (hclock : (t.step .step).IsOrdered) :
    Keeps c (t.step .step) := by
  cases p with
  | head taken => exact keeps_of_head h hr hclock
  | aim taken start =>
    cases hmode : t.history.studio.camera.exposureMode with
    | ok mode => exact keeps_of_shot h hr rfl rfl (by simp only [RunPoint.step, hmode]; rfl) rfl rfl rfl
    | error e => exact keeps_of_leave h hr rfl rfl (by simp only [RunPoint.step, hmode]; rfl) rfl rfl
  | fire taken start mode =>
    rcases hfire : t.history.studio.fire c.exposure mode none with ⟨e | shot, after⟩
    · exact keeps_of_leave h hr rfl rfl (by simp only [RunPoint.step, Plan.exposure, hfire]; rfl) rfl rfl
    · exact keeps_of_shot h hr rfl rfl (by simp only [RunPoint.step, Plan.exposure, hfire]; rfl) rfl rfl rfl
  | note taken start shot => exact keeps_of_shot h hr rfl rfl rfl rfl rfl rfl
  | deliver taken start =>
    refine keeps_of_shot h hr rfl rfl rfl rfl rfl ?_
    split_ifs <;> rfl
  | fetch taken start => exact keeps_of_shot h hr rfl rfl rfl rfl rfl rfl
  | sample taken start => exact keeps_of_sample h hr
  | wait taken deadline => exact keeps_of_wait h hr
  | leave r => exact keeps_of_quiet h hr rfl rfl rfl rfl fun q hq => by cases hq

theorem keeps_step (h : Keeps c t) (e : RunHistory.Event) (hclock : (t.step e).IsOrdered) : Keeps c (t.step e) := by
  cases e with
  | step =>
    cases hr : t.history.function.run with
    | none =>
      have hsame : t.step .step = t := by
        simp only [step, hr, RunHistory.step]
      rwa [hsame]
    | some p => exact keeps_run h hr hclock
  | _ => exact ⟨h.plan, h.spaced, h.starts, h.stats, h.counted, h.placed⟩

/-- **Every run of an intervalometer keeps its record.** -/
theorem keeps_steps (h : Keeps c t) (es : List RunHistory.Event) (hclock : (t.steps es).IsOrdered) :
    Keeps c (t.steps es) := by
  -- from the right, because the clock is assumed of the whole run, and so of its beginnings
  induction es using List.reverseRecOn with
  | nil => exact h
  | append_singleton es e ih =>
    rw [steps_concat] at hclock ⊢
    exact keeps_step (ih hclock.of_step) e hclock

/-! ## Cadence -/

theorem le_getElem_of_isChain {l : List Nat} {period : Nat} (h : l.IsChain fun a b => a + period ≤ b) (k : Nat)
    (hk : k < l.length) : l[0] + k * period ≤ l[k] := by
  induction k with
  | zero => simp
  | succ k ih =>
    calc l[0] + (k + 1) * period
      _ = l[0] + k * period + period := by ring
      _ ≤ l[k] + period := Nat.add_le_add_right (ih (Nat.lt_of_succ_lt hk)) period
      _ ≤ l[k + 1] := List.isChain_iff_getElem.1 h k hk

/-- a sample is positive just if the shot is late -/
theorem sample_pos_iff (c : IntervalometerConfig) (s : TimedShot) :
    0 < (Plan.intervalometer c).sample s.start s.finish ↔ s.IsLate (Plan.intervalometer c).period := by
  have hvalue : ((Plan.intervalometer c).sample s.start s.finish).toInt =
      max (-(2 ^ 63 - 1)) (min (2 ^ 63 - 1) (s.delay (Plan.intervalometer c).period)) :=
    Int64.toInt_signedMicros _ _
  have hzero : (0 : Int64).toInt = 0 := rfl
  rw [← TimedShot.delay_pos_iff, Int64.lt_iff_toInt_lt, hvalue, hzero]
  omega

theorem countP_samples (t : Timetable) (c : IntervalometerConfig) :
    (t.samples (.intervalometer c)).countP (0 < ·) =
      t.shots.countP fun s => s.IsLate (Plan.intervalometer c).period := by
  rw [samples, List.countP_map]
  apply List.countP_congr
  intro s _
  rw [Function.comp_apply, decide_eq_true_iff, decide_eq_true_iff, sample_pos_iff]

theorem Keeps.late (h : Keeps c t) (hfew : t.shots.length < 2 ^ 32) : t.history.function.life.stats.late.toNat =
    t.shots.countP fun s => s.IsLate (Plan.intervalometer c).period := by
  have hlength : (t.samples (.intervalometer c)).length < 2 ^ 32 := by rwa [samples, List.length_map]
  rw [h.stats, TimingStats.late_of_lt hlength, countP_samples]

/-- while the run of a limited intervalometer waits, a shot is still to come -/
theorem length_lt_of_wait {h : RunHistory} {q : RunPoint} (hh : h.Holds q) {taken : UInt32} {deadline : Nat}
    (hr : h.function.run = some (.wait taken deadline)) {n : UInt32} (hn : h.function.plan.shots = .limited n) :
    h.shots.length < n.toNat := by
  rcases hh.place with hq | ⟨hnone, -⟩
  · obtain rfl : q = .wait taken deadline := Option.some.inj (hq.symm.trans hr)
    obtain ⟨hcounts, -, hallows⟩ := hh.standing
    rw [hn, ShotCount.allows, decide_eq_true_eq, UInt32.lt_iff_toNat_lt, hcounts.taken] at hallows
    exact hallows
  · rw [hnone] at hr
    cases hr

/-- **The cadence of an intervalometer.** Take a run from its start on, any sequence of its steps, of raised signals, of
changes of the download flag and of work of others on the camera, the files and the clock, so that only the readings of
the clock do not go back. A period is opened a period after the last one, or later. The shots that are over are those of
the first periods, in order, and each successful capture is one of them, but for the one in hand. The statistics are
those of their samples. A sample is the time from the end of the period to the end of the shot, in whole microseconds,
cut off toward zero, unless that does not fit 64 bits, so the late count is the number of shots that ended a microsecond
or more after their period. While the run waits another shot is due, so a limited run does not wait after its last. -/
theorem cadence (c : IntervalometerConfig) (folder : String) (downloads : Bool) (studio : Studio)
    (es : List RunHistory.Event)
    (hclock : ((start (.intervalometer c) folder downloads studio).steps es).IsOrdered) :
    let t := (start (.intervalometer c) folder downloads studio).steps es
    let period := (Plan.intervalometer c).period
    let f := t.history.function
    t.history = (RunHistory.start (.intervalometer c) folder downloads studio).steps es ∧
      (t.openings.IsChain fun a b => a + period ≤ b) ∧
      (∀ k (hk : k < t.openings.length), t.openings[0] + k * period ≤ t.openings[k]) ∧
      t.starts <+: t.openings ∧ t.history.shots.length = t.shots.length + (f.run.map RunPoint.unrecorded).getD 0 ∧
      f.life.stats = TimingStats.recordAll {} (t.samples f.plan) ∧
      (∀ s ∈ t.shots, (f.plan.sample s.start s.finish).toInt =
        max (-(2 ^ 63 - 1)) (min (2 ^ 63 - 1) (s.delay period))) ∧
      ((c.shots = .unbounded → t.shots.length < 2 ^ 32) →
        f.life.stats.late.toNat = t.shots.countP fun s => s.IsLate period) ∧
      ∀ taken deadline, f.run = some (.wait taken deadline) →
        c.shots.allows taken = true ∧ ∀ n, c.shots = .limited n → t.history.shots.length < n.toNat := by
  intro t period f
  have hhistory : t.history = (RunHistory.start (.intervalometer c) folder downloads studio).steps es :=
    history_steps _ es
  have hkeeps : Keeps c t := keeps_steps (keeps_start c folder downloads studio) es hclock
  have hplan : f.plan = .intervalometer c := hkeeps.plan
  -- a limit bounds the pictures, so that their account holds without any other bound
  have hholds : ∀ n, c.shots = .limited n → ∃ q, t.history.Holds q := by
    intro n hn
    rw [hhistory]
    apply RunHistory.holds_steps (RunHistory.holds_start _ _ _ _)
    intro hp
    rw [RunHistory.plan_steps] at hp
    exact absurd (hn.symm.trans hp) (by simp)
  refine ⟨hhistory, hkeeps.spaced, le_getElem_of_isChain hkeeps.spaced, hkeeps.starts, hkeeps.counted, ?_, ?_, ?_, ?_⟩
  · rw [hplan]
    exact hkeeps.stats
  · intro s _
    rw [hplan]
    exact Int64.toInt_signedMicros _ _
  · intro hfew
    apply hkeeps.late
    cases hn : c.shots with
    | unbounded => exact hfew hn
    | limited n =>
      obtain ⟨q, hq⟩ := hholds n hn
      have hwithin : t.history.shots.length ≤ n.toNat := hq.standing.within n (by rw [hkeeps.plan]; exact hn)
      have hcounted := hkeeps.counted
      have hsize := n.toNat_lt
      omega
  · intro taken deadline hr
    refine ⟨(hkeeps.placed _ hr).2.1, fun n hn => ?_⟩
    obtain ⟨q, hq⟩ := hholds n hn
    exact length_lt_of_wait hq hr (by rw [hkeeps.plan]; exact hn)

/-- two shots, the first of them more than a period late; a wake-up too early in the wait after the second -/
theorem cadence_overrun :
    let studio : Studio := { camera := { isConnected := true } }
    let shot := List.replicate 5 RunHistory.Event.step
    let es := shot ++ .elsewhere { studio with clock := 1200000000 } :: .step :: .step :: shot ++ [.step, .step]
    let t := (start (.intervalometer ⟨.limited 3, 1000, 500⟩) "pictures" false studio).steps es
    t.IsOrdered ∧ t.openings = [0, 1200000000] ∧ (t.openings.IsChain fun a b => a + 500000000 ≤ b) ∧
      t.history.function.run = some (.wait 2 1700000000) ∧ t.history.shots.length < 3 ∧
      t.history.function.life.stats.late.toNat = 1 := by
  intro studio shot es t
  have hclock : t.IsOrdered := by
    unfold IsOrdered
    decide +kernel
  have hopenings : t.openings = [0, 1200000000] := by decide +kernel
  have hrun : t.history.function.run = some (.wait 2 1700000000) := by decide +kernel
  have hcount : t.shots.countP (fun s => s.IsLate (Plan.intervalometer ⟨.limited 3, 1000, 500⟩).period) = 1 := by
    decide +kernel
  obtain ⟨-, hspaced, -, -, -, -, -, hlate, hwait⟩ :=
    cadence ⟨.limited 3, 1000, 500⟩ "pictures" false studio es (by with_reducible exact hclock)
  have hperiod : (Plan.intervalometer ⟨.limited 3, 1000, 500⟩).period = 500000000 := by decide
  rw [hperiod] at hspaced
  have hlimited := hlate fun hn => by cases hn
  obtain ⟨-, hlt⟩ := hwait 2 1700000000 (by with_reducible exact hrun)
  have hthree := hlt 3 rfl
  rw [UInt32.toNat_ofNat] at hthree
  with_reducible exact ⟨hclock, hopenings, hspaced, hrun, hthree, hlimited.trans hcount⟩

end Timetable

end RemoteShutter
