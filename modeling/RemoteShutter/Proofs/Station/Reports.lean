/-
Status reports.

A watch is a chronicle together with the reports on its active function. A report begins while no command is in
progress, and until it is complete no command begins or goes on; but threads, faults, settings, downloads and aborts
come between its three looks.
- `look_three_times`: with nothing in between it is the report of the function.
- `Seen`: what a report in progress has seen is still so.
- `holds_step`: every action keeps the account of the reports, as long as the number of exposures fits the counters.
- `reports_consistent`: what holds of all reports ever made.
-/
import Mathlib.Tactic
import RemoteShutter.Proofs.Station.Besides
import RemoteShutter.Proofs.Station.Conservation
import RemoteShutter.Proofs.Station.Statistics

namespace RemoteShutter

/-! ## Watches -/

/-- an action is a step of a command, or a whole one -/
def Chronicle.Action.isCommand : Action → Bool
  | .event e => e.isCommand
  | .dispatch _ => true
  | _ => false

structure Watch where
  chronicle : Chronicle
  /-- the number of the function that is being reported on, and how far the report has come -/
  report : Option (Nat × ReportPoint) := none
  /-- the reports that are complete, in order, each with the number of its function -/
  reports : List (Nat × FunctionReport) := []

namespace Watch

inductive Action where
  | act (a : Chronicle.Action)
  /-- a report on the active function begins, if there is one -/
  | ask
  /-- the report in progress makes its next look -/
  | look

def station (w : Watch) : Station :=
  w.chronicle.station

/-- the report in progress has come to `p` -/
def goOn (w : Watch) (i : Nat) : ReportPoint → Watch
  | .done r => { w with report := none, reports := w.reports ++ [(i, r)] }
  | p => { w with report := some (i, p) }

def step (w : Watch) : Action → Watch
  | .act a => if w.report.isSome && a.isCommand then w else { w with chronicle := w.chronicle.step a }
  | .ask =>
    if w.report.isNone && w.station.isFree && w.station.active?.isSome then
      { w with report := some (w.station.functions.length - 1, .lifecycle) }
    else w
  | .look =>
    match w.report with
    | none => w
    | some (i, p) =>
      match w.station.functions[i]? with
      | none => w
      | some f => w.goOn i (p.step f)

def steps (w : Watch) (as : List Action) : Watch :=
  as.foldl step w

/-- before the first command and the first report -/
def start (studio : Studio) (folder : String) (power : PowerHook) : Watch where
  chronicle := .start studio folder power

end Watch

/-! ## Consistency -/

/-- the parts of a report fit together -/
structure FunctionReport.Consistent (r : FunctionReport) : Prop where
  idle : r.lifecycle = .idle → r.stats = {}
  planned : 0 ≤ r.programmed → (r.stats.exposures.toNat : Int) ≤ r.programmed.toInt
  late : r.stats.late ≤ r.stats.exposures
  last : 0 < r.stats.exposures → r.stats.last ≤ r.stats.max
  max : 0 < r.stats.late ↔ 0 < r.stats.max

namespace ReportPoint

/-- what has been seen of the function is still so: one that is idle has no run, one that is finished stays finished -/
def Seen (f : CaptureFunction) : ReportPoint → Prop
  | lifecycle => True
  | download state | stats state _ =>
    (state = .idle → f.run = none ∧ f.life.stats = {}) ∧ (state = .finished → f.life.phase = .finished)
  | done _ => False

theorem Seen.mono {f g : CaptureFunction} {p : ReportPoint} (h : Seen f p)
    (hidle : f.run = none → f.life.stats = {} → g.run = none ∧ g.life.stats = {})
    (hfinished : f.life.phase = .finished → g.life.phase = .finished) : Seen g p := by
  cases p with
  | lifecycle => trivial
  | download | stats => exact ⟨fun hs => hidle (h.1 hs).1 (h.1 hs).2, fun hs => hfinished (h.2 hs)⟩
  | done => exact h

end ReportPoint

theorem ShotCount.toInt_limited (n : UInt32) : (ShotCount.limited n).toInt64.toInt = n.toNat := by
  have hlt := n.toNat_lt
  rw [toInt64, Nat.toInt64, Int64.toInt_ofNat_of_lt (by omega)]

namespace CaptureFunction

variable {f : CaptureFunction}

theorem Accounted.consistent (h : f.Accounted) {state : LifecycleState}
    (hidle : state = .idle → f.life.stats = {}) (download : Bool) :
    (f.reportOf state download f.life.stats).Consistent := by
  refine ⟨hidle, fun hlimit => ?_, h.sound.late, h.sound.last, h.sound.max⟩
  cases hshots : f.plan.shots with
  | limited n =>
    simp only [reportOf, hshots, ShotCount.toInt_limited]
    exact_mod_cast UInt32.le_iff_toNat_le.1 (h.planned n hshots)
  | unbounded =>
    simp only [reportOf, hshots] at hlimit
    exact absurd hlimit (by decide)

/-- what the first look sees of a function that has only as many runs as it tells -/
theorem seen_state (hacc : f.Accounted) (hrun : f.life.phase ≠ .started → f.run = none) :
    ReportPoint.Seen f (.download f.life.state) := by
  constructor
  · intro hidle
    have hphase : f.life.phase = .idle := by
      unfold Lifecycle.state at hidle
      split_ifs at hidle
      cases hp : f.life.phase <;> simp_all
    have hnone := hrun (by rw [hphase]; exact Phase.noConfusion)
    exact ⟨hnone, (hacc.fresh hnone (by rw [hphase]; exact Phase.noConfusion)).1⟩
  · intro hfinished
    unfold Lifecycle.state at hfinished
    split_ifs at hfinished
    cases hp : f.life.phase <;> simp_all

end CaptureFunction

/-! ## Actions -/

namespace Chronicle

variable {c : Chronicle} {s : Station}

/-- nothing but a command makes a function record anything that has no run -/
theorem exists_of_act {a : Action} (ha : a.isCommand = false) {i : Nat} {f : CaptureFunction}
    (hf : s.functions[i]? = some f) :
    ∃ g, (act s a).functions[i]? = some g ∧ (f.run = none → g.run = none ∧ g.life.stats = f.life.stats) := by
  cases a with
  | event e =>
    obtain ⟨g, hg, hprogress⟩ := (Station.advances_besides (s := s) (e := e) ha).progress i f hf
    refine ⟨g, hg, fun hr => ?_⟩
    obtain ⟨hnone, -, hstats, -⟩ := hprogress.untouched.withoutRun hr
    exact ⟨hnone, hstats⟩
  | dispatch => cases ha
  | abort =>
    obtain ⟨g, hg, hsame⟩ := Station.sameRun_abortActive hf
    exact ⟨g, hg, fun hr => ⟨hsame.run.trans hr, hsame.stats⟩⟩
  | set name value => exact ⟨f, hf, fun hr => ⟨hr, rfl⟩⟩
  | downloadLast folder =>
    simp only [act, Station.downloadLast]
    split <;> exact ⟨f, hf, fun hr => ⟨hr, rfl⟩⟩

theorem Balanced.owed_lt (h : Balanced c) (hfew : c.exposures.length < 2 ^ 32) : c.station.owed < 2 ^ 32 := by
  rw [h.owed hfew]
  exact Nat.lt_of_le_of_lt List.countP_le_length hfew

theorem onward_events (h : Balanced c) {es : List Station.Event}
    (hfew : (c.exposures ++ c.station.exposures es).length < 2 ^ 32) : c.station.Onward (c.station.steps es) := by
  induction es generalizing c with
  | nil => exact Station.onward_same rfl
  | cons e es ih =>
    have hbefore : c.exposures.length < 2 ^ 32 :=
      Nat.lt_of_le_of_lt (List.prefix_append c.exposures _).length_le hfew
    have hfirst := Station.onward_step h.inv (h.owed_lt hbefore) e
    exact hfirst.trans (ih (balanced_event h e) (by rwa [List.append_assoc]))

/-- **Every action leads onward**, as long as the number of exposures fits the counters. -/
theorem onward_act (h : Balanced c) {a : Action} (hfew : (c.step a).exposures.length < 2 ^ 32) :
    c.station.Onward (act c.station a) := by
  cases a with
  | event e =>
    have hbefore : c.exposures.length < 2 ^ 32 :=
      Nat.lt_of_le_of_lt (List.prefix_append c.exposures _).length_le hfew
    exact Station.onward_step h.inv (h.owed_lt hbefore) e
  | dispatch cmd =>
    simp only [act, Station.dispatch_snd]
    exact (onward_events h hfew).trans (Station.onward_same rfl)
  | abort => exact c.station.onward_abortActive
  | set name value => exact Station.onward_same rfl
  | downloadLast folder =>
    simp only [act, Station.downloadLast]
    split <;> exact Station.onward_same rfl

end Chronicle

namespace Watch

variable {w : Watch}

theorem steps_concat (w : Watch) (as : List Action) (a : Action) : w.steps (as ++ [a]) = (w.steps as).step a := by
  rw [steps, List.foldl_append, List.foldl_cons, List.foldl_nil, steps]

theorem getElem?_of_active {f : CaptureFunction} (h : w.station.active? = some f) :
    w.station.functions[w.station.functions.length - 1]? = some f := by
  rwa [← List.getLast?_eq_getElem?]

theorem step_look {i : Nat} {p : ReportPoint} {f : CaptureFunction} (hp : w.report = some (i, p))
    (hf : w.station.functions[i]? = some f) : w.step .look = w.goOn i (p.step f) := by
  simp only [step, hp, hf]

/-- a report with nothing in between is that of the function as it is -/
theorem look_three_times {r : FunctionReport} (hnone : w.report = none) (hfree : w.station.isFree = true)
    (hr : w.station.status = some r) :
    w.steps [.ask, .look, .look, .look] =
      { w with reports := w.reports ++ [(w.station.functions.length - 1, r)] } := by
  obtain ⟨f, hf, rfl⟩ := Option.map_eq_some_iff.1 hr
  have hget := getElem?_of_active hf
  have hask : w.step .ask = { w with report := some (w.station.functions.length - 1, .lifecycle) } := by
    simp only [step, hnone, hfree, hf, Option.isNone_none, Option.isSome_some, Bool.and_self, if_true]
  have hlook : ∀ p, step { w with report := some (w.station.functions.length - 1, p) } .look =
      { w with report := some (w.station.functions.length - 1, p) }.goOn (w.station.functions.length - 1) (p.step f) :=
    fun p => step_look rfl hget
  have hsteps : w.steps [.ask, .look, .look, .look] = (((w.step .ask).step .look).step .look).step .look := rfl
  rw [hsteps, hask, hlook]
  simp only [ReportPoint.step, goOn, hlook, hnone]
  rfl

/-! ## The account of the reports -/

/-- the functions are accounted for; what has been seen is so, and what has been reported is consistent and final -/
structure Holds (w : Watch) : Prop where
  balanced : w.chronicle.Balanced
  accounted : ∀ f ∈ w.station.functions, f.Accounted
  report : ∀ i p, w.report = some (i, p) → ∃ f, w.station.functions[i]? = some f ∧ p.Seen f
  reports : ∀ x ∈ w.reports, x.2.Consistent ∧ (x.2.lifecycle = .finished →
    ∃ f, w.station.functions[x.1]? = some f ∧ f.life.phase = .finished ∧ f.life.stats = x.2.stats)
  final : w.reports.Pairwise fun x y => x.1 = y.1 → x.2.lifecycle = .finished → y.2.stats = x.2.stats

theorem holds_start (studio : Studio) (folder : String) (power : PowerHook) : Holds (start studio folder power) where
  balanced := Chronicle.balanced_start studio folder power
  accounted f hf := by cases hf
  report i p hp := by cases hp
  reports x hx := by cases hx
  final := .nil

theorem holds_act (h : Holds w) {a : Chronicle.Action} (hfew : (w.chronicle.step a).exposures.length < 2 ^ 32)
    (ha : w.report.isSome = true → a.isCommand = false) : Holds { w with chronicle := w.chronicle.step a } := by
  have honward := Chronicle.onward_act h.balanced hfew
  refine ⟨Chronicle.balanced_step h.balanced a, honward.accounted h.accounted, fun i p hp => ?_, fun x hx => ?_,
    h.final⟩
  · obtain ⟨f, hf, hseen⟩ := h.report i p hp
    obtain ⟨g, hg, hidle⟩ := Chronicle.exists_of_act (ha (by rw [hp]; rfl)) hf
    have hfinished : f.life.phase = .finished → g.life.phase = .finished := by
      intro hphase
      obtain ⟨g', hg', hphase', -⟩ := honward.finished i f hf hphase
      rwa [Option.some.inj (hg.symm.trans hg')]
    exact ⟨g, hg, hseen.mono (fun hr hs => ⟨(hidle hr).1, (hidle hr).2.trans hs⟩) hfinished⟩
  · obtain ⟨hconsistent, hfinal⟩ := h.reports x hx
    refine ⟨hconsistent, fun hx => ?_⟩
    obtain ⟨f, hf, hphase, hstats⟩ := hfinal hx
    obtain ⟨g, hg, hphase', hstats'⟩ := honward.finished x.1 f hf hphase
    exact ⟨g, hg, hphase', hstats'.trans hstats⟩

theorem holds_ask (h : Holds w) (hactive : w.station.active?.isSome = true) :
    Holds { w with report := some (w.station.functions.length - 1, .lifecycle) } := by
  refine ⟨h.balanced, h.accounted, fun i p hp => ?_, h.reports, h.final⟩
  obtain ⟨f, hf⟩ := Option.isSome_iff_exists.1 hactive
  cases hp
  exact ⟨f, getElem?_of_active hf, trivial⟩

/-- the report is complete -/
theorem holds_done (h : Holds w) {i : Nat} {f : CaptureFunction} (hf : w.station.functions[i]? = some f)
    {state : LifecycleState} {b : Bool} (hseen : ReportPoint.Seen f (.stats state b)) :
    Holds (w.goOn i (.done (f.reportOf state b f.life.stats))) := by
  have hacc := h.accounted f (List.mem_of_getElem? hf)
  refine ⟨h.balanced, h.accounted, fun i p hp => (by cases hp), fun x hx => ?_, ?_⟩
  · rcases List.mem_append.1 hx with hx | hx
    · exact h.reports x hx
    · rw [List.mem_singleton.1 hx]
      exact ⟨hacc.consistent (fun hidle => (hseen.1 hidle).2) b, fun hfinished => ⟨f, hf, hseen.2 hfinished, rfl⟩⟩
  · refine List.pairwise_append.2 ⟨h.final, List.pairwise_singleton _ _, fun x hx y hy hsame hfinished => ?_⟩
    rw [List.mem_singleton.1 hy] at hsame ⊢
    -- the earlier report had the statistics that the function still has
    obtain ⟨g, hg, -, hstats⟩ := (h.reports x hx).2 hfinished
    rw [hsame] at hg
    obtain rfl : f = g := Option.some.inj (hf.symm.trans hg)
    exact hstats

theorem holds_look (h : Holds w) {i : Nat} {p : ReportPoint} (hp : w.report = some (i, p)) {f : CaptureFunction}
    (hf : w.station.functions[i]? = some f) : Holds (w.goOn i (p.step f)) := by
  obtain ⟨f', hf', hseen⟩ := h.report i p hp
  obtain rfl : f = f' := Option.some.inj (hf.symm.trans hf')
  have hgoes : ∀ q, ReportPoint.Seen f q → Holds { w with report := some (i, q) } := by
    refine fun q hq => ⟨h.balanced, h.accounted, fun j q' hq' => ?_, h.reports, h.final⟩
    cases hq'
    exact ⟨f, hf, hq⟩
  have hmem := List.mem_of_getElem? hf
  cases p with
  | lifecycle => exact hgoes _ (CaptureFunction.seen_state (h.accounted f hmem) (h.balanced.inv.run_eq_none hmem))
  | download state => exact hgoes _ hseen
  | stats state b => exact holds_done h hf hseen
  | done r => exact absurd hseen id

/-- **Every action keeps the account of the reports.** -/
theorem holds_step (h : Holds w) {a : Action} (hfew : (w.step a).chronicle.exposures.length < 2 ^ 32) :
    Holds (w.step a) := by
  cases a with
  | act a =>
    simp only [step] at hfew ⊢
    split_ifs at hfew ⊢ with hheld
    · exact h
    · refine holds_act h hfew fun hsome => ?_
      simpa [hsome] using hheld
  | ask =>
    simp only [step]
    split_ifs with hmay
    · exact holds_ask h (by simp_all)
    · exact h
  | look =>
    simp only [step]
    split
    · exact h
    · next i p hp =>
      split
      · exact h
      · next f hf => exact holds_look h hp hf

/-- the chronicle goes on by an action, or not at all -/
theorem chronicle_step (w : Watch) (a : Action) :
    (w.step a).chronicle = w.chronicle ∨ ∃ b, (w.step a).chronicle = w.chronicle.step b := by
  cases a with
  | act b =>
    simp only [step]
    split_ifs
    · exact .inl rfl
    · exact .inr ⟨b, rfl⟩
  | ask => simp only [step]; split_ifs <;> exact .inl rfl
  | look =>
    simp only [step]
    split
    · exact .inl rfl
    · split
      · exact .inl rfl
      · next p _ _ f _ => cases p <;> exact .inl rfl

theorem exposures_step (w : Watch) (a : Action) : w.chronicle.exposures <+: (w.step a).chronicle.exposures := by
  rcases w.chronicle_step a with hsame | ⟨b, hb⟩
  · rw [hsame]
  · rw [hb]
    exact List.prefix_append _ _

theorem holds_steps (h : Holds w) {as : List Action} (hfew : (w.steps as).chronicle.exposures.length < 2 ^ 32) :
    Holds (w.steps as) := by
  induction as using List.reverseRecOn with
  | nil => exact h
  | append_singleton as a ih =>
    rw [steps_concat] at hfew ⊢
    have hbefore := Nat.lt_of_le_of_lt ((w.steps as).exposures_step a).length_le hfew
    exact holds_step (ih hbefore) hfew

/-- **Status reports are consistent.** Take a station with a camera before its first exposure, and any history of
commands, steps of threads, faults, settings, downloads and aborts, with fewer than 2^32 exposures. Reports on the
active function begin at any time between two commands, and anything but a command may come between their three looks:
at the lifecycle, at the download flag and at the statistics. Then each report is consistent. If it says that the
function is finished, its statistics are those that the function has now, and every later report on the same function
has them too. -/
theorem reports_consistent (studio : Studio) (folder : String) (power : PowerHook) (as : List Action) :
    let w := (start studio folder power).steps as
    w.chronicle.exposures.length < 2 ^ 32 →
      (∀ i r, (i, r) ∈ w.reports → r.Consistent ∧ (r.lifecycle = .finished →
        ∃ f, w.station.functions[i]? = some f ∧ f.life.phase = .finished ∧ f.life.stats = r.stats)) ∧
      w.reports.Pairwise fun x y => x.1 = y.1 → x.2.lifecycle = .finished → y.2.stats = x.2.stats := by
  intro w hfew
  have hholds : Holds w := holds_steps (holds_start studio folder power) hfew
  exact ⟨fun i r hr => hholds.reports (i, r) hr, hholds.final⟩

/-- a report that overlaps with the end of a run, then one that is complete at once, and one during a test shot after a
stop and a start that is rejected -/
def lateReports : List Action := List.flatten [
  [.act (.dispatch (.sequencerSetup ⟨1, 0, false⟩)), .act (.dispatch .start), .ask, .look],
  List.replicate 6 (.act (.event (.run 0))), [.act (.dispatch .stop), .look],
  List.replicate 2 (.act (.event (.run 0))), [.look, .ask, .look, .look, .look],
  [.act (.dispatch .stop), .act (.dispatch .start), .act (.dispatch .testCapture), .ask, .look, .look, .look]]

/-- the function is seen started, finished, and with a test shot; the last two reports have the same statistics -/
theorem reports_consistent_after_the_end :
    let w := (start {} "pictures" .listening).steps lateReports
    w.reports.map (fun x => (x.1, x.2.lifecycle)) = [(0, .started), (0, .finished), (0, .testing)] ∧
      w.reports.map (fun x => x.2.stats.exposures) = [1, 1, 1] ∧ (∀ x ∈ w.reports, x.2.Consistent) ∧
      ∃ x y z, w.reports = [x, y, z] ∧ z.2.stats = y.2.stats := by
  intro w
  have hfew : w.chronicle.exposures.length < 2 ^ 32 := by decide +kernel
  obtain ⟨hall, hfinal⟩ := reports_consistent {} "pictures" .listening lateReports hfew
  have hstates : w.reports.map (fun x => (x.1, x.2.lifecycle)) = [(0, .started), (0, .finished), (0, .testing)] := by
    decide +kernel
  obtain ⟨x, y, z, hw⟩ : ∃ x y z, w.reports = [x, y, z] := by
    rw [← List.length_eq_three, ← List.length_map (f := fun x => (x.1, x.2.lifecycle)), hstates]
    rfl
  refine ⟨hstates, by decide +kernel, fun x hx => (hall x.1 x.2 hx).1, x, y, z, hw, ?_⟩
  change w.reports.Pairwise _ at hfinal
  rw [hw] at hfinal hstates
  simp only [List.map_cons, List.map_nil, List.cons.injEq, Prod.mk.injEq, and_true] at hstates
  obtain ⟨-, ⟨hy, hfinished⟩, hz, -⟩ := hstates
  have hlater := (List.pairwise_cons.1 (List.pairwise_cons.1 hfinal).2).1
  exact hlater z List.mem_cons_self (hy.trans hz.symm) hfinished

end Watch

end RemoteShutter
