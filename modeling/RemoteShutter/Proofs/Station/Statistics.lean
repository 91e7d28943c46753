/-
The statistics of the functions, whatever becomes of them.

- `TimingStats.Sound`: the counts and the samples that are kept fit together; `sound_record`: one sample more keeps
  that.
- `CaptureFunction.Accounted`: a function that has not run yet has recorded nothing, a run has recorded what it has
  taken, and in any case the statistics are sound and within the plan.
- `Orders`: what a step of a command may make of the functions; `orders_stepCall`: it makes nothing else of them.
- `Onward`: the functions are still accounted for, and what is finished stays finished, with the statistics it has.
- `onward_step`: every event leads onward.
-/
import Mathlib.Tactic
import RemoteShutter.Proofs.Station.Exposures

namespace RemoteShutter

/-! ## Samples -/

namespace TimingStats

/-- late shots are shots, the last sample is at most the largest, and that is positive just if a shot was late -/
structure Sound (s : TimingStats) : Prop where
  late : s.late ≤ s.exposures
  last : 0 < s.exposures → s.last ≤ s.max
  max : 0 < s.late ↔ 0 < s.max

theorem sound_empty : Sound {} :=
  ⟨UInt32.le_refl 0, fun h => absurd h (UInt32.lt_irrefl 0), by decide⟩

variable {s : TimingStats}

theorem sound_record (h : s.Sound) (hfew : s.exposures.toNat + 1 < 2 ^ 32) (sample : Int64) :
    (s.record sample).Sound := by
  have hlate : s.late.toNat ≤ s.exposures.toNat := UInt32.le_iff_toNat_le.1 h.late
  have hcount : (s.exposures + 1).toNat = s.exposures.toNat + 1 := toNat_add_one rfl hfew
  have hone : (s.late + 1).toNat = s.late.toNat + 1 := toNat_add_one rfl (by omega)
  have hmore : 0 < s.late + 1 := by rw [UInt32.lt_iff_toNat_lt, hone]; exact Nat.succ_pos _
  refine ⟨?_, fun _ => ?_, ?_⟩
  · simp only [record]
    rw [UInt32.le_iff_toNat_le, hcount]
    split_ifs <;> omega
  · simp only [record]
    split_ifs with hbig
    · exact Int64.le_refl sample
    · exact Int64.not_lt.1 fun hlt => hbig (.inr hlt)
  · have hempty : s.exposures = 0 → ¬ 0 < s.late := by
      intro hzero
      rw [UInt32.lt_iff_toNat_lt]
      simp only [hzero, UInt32.toNat_zero] at hlate ⊢
      omega
    simp only [record]
    split_ifs with hpos hbig hbig
    · exact ⟨fun _ => hpos, fun _ => hmore⟩
    · exact ⟨fun _ => Int64.lt_of_lt_of_le hpos (Int64.not_lt.1 fun hlt => hbig (.inr hlt)), fun _ => hmore⟩
    · -- a shot in time has the largest sample only if none was late
      refine ⟨fun hsome => ?_, fun hn => absurd hn hpos⟩
      rcases hbig with hzero | hbig
      · exact absurd hsome (hempty hzero)
      · exact Int64.lt_trans (h.max.1 hsome) hbig
    · exact h.max

end TimingStats

/-! ## Steps of a run -/

namespace RunPoint

variable {plan : Plan} {life : Lifecycle} {shots : List Shot}

/-- a step takes in the sample that was still to come, or leaves the statistics alone -/
theorem stats_step (plan : Plan) (folder : String) (life : Lifecycle) (studio : Studio) (p : RunPoint) :
    (p.step plan folder life studio).life.stats = life.stats ∨
      p.unrecorded = 1 ∧ ∃ sample, (p.step plan folder life studio).life.stats = life.stats.record sample := by
  cases p with
  | sample taken start =>
    refine .inr ⟨rfl, plan.sample start studio.clock, ?_⟩
    cases plan with
    | sequencer c => rfl
    | intervalometer c => simp only [step]; split_ifs <;> rfl
  | head => simp only [step]; split_ifs <;> exact .inl rfl
  | aim => simp only [step]; split <;> exact .inl rfl
  | fire => simp only [step]; split <;> exact .inl rfl
  | wait => simp only [step]; split_ifs <;> exact .inl rfl
  | note | deliver | fetch | leave => exact .inl rfl

theorem GoesOn.exists_standing {t : Stepped RunPoint} {o : Option (Except CameraError Shot)}
    (h : GoesOn plan shots t o) : ∃ q shots', t.point = some q ∧ Standing plan t.life shots' q := by
  cases h with
  | quiet hq _ hs => exact ⟨_, _, hq, hs⟩
  | success hq _ hs => exact ⟨_, _, hq, hs⟩
  | failure hq hs => exact ⟨_, _, hq, hs⟩

theorem Standing.exposures_le {p : RunPoint} (h : Standing plan life shots p) {n : UInt32}
    (hn : plan.shots = .limited n) : life.stats.exposures ≤ n := by
  have hwithin := h.within n hn
  have hlength := h.length_eq_exposures
  rw [UInt32.le_iff_toNat_le]
  omega

end RunPoint

namespace CaptureFunction

/-- what a function has recorded is what it has taken, and fits together -/
structure Accounted (f : CaptureFunction) : Prop where
  sound : f.life.stats.Sound
  planned : ∀ n, f.plan.shots = .limited n → f.life.stats.exposures ≤ n
  fresh : f.run = none → f.life.phase ≠ .finished → f.life.stats = {} ∧ f.life.lastShot = none
  standing : ∀ p, f.run = some p → ∃ shots, RunPoint.Standing f.plan f.life shots p

variable {f g : CaptureFunction}

theorem accounted_new (plan : Plan) (folder : String) (downloads : Bool) :
    Accounted { plan := plan, folder := folder, life := { downloads := downloads } } :=
  ⟨TimingStats.sound_empty, fun _ _ => UInt32.zero_le, fun _ _ => ⟨rfl, rfl⟩, fun _ hn => by cases hn⟩

theorem accounted_stepRun (h : f.Accounted) (hfew : f.owed < 2 ^ 32) (studio : Studio) :
    (f.stepRun studio).1.Accounted := by
  unfold stepRun
  cases hr : f.run with
  | none => exact h
  | some p =>
    obtain ⟨shots, hs⟩ := h.standing p hr
    have howed : f.owed = f.life.stats.exposures.toNat + p.unrecorded := by rw [owed, hr]; rfl
    by_cases hleave : ∃ r, p = .leave r
    · obtain ⟨r, rfl⟩ := hleave
      exact ⟨h.sound, h.planned, fun _ hne => absurd rfl hne, fun _ hn => by cases hn⟩
    · have hlength := hs.length_eq_exposures
      have hgoes : RunPoint.GoesOn f.plan shots (p.step f.plan f.folder f.life studio) (p.outcome? f.plan studio) :=
        RunPoint.goesOn_step hs (fun _ => by omega) fun r hn => hleave ⟨r, hn⟩
      obtain ⟨q, shots', hq, hs'⟩ := hgoes.exists_standing
      refine ⟨?_, fun n hn => hs'.exposures_le hn, fun hn => by simp [hq] at hn, fun p' hp' => ⟨shots', ?_⟩⟩
      · rcases p.stats_step f.plan f.folder f.life studio with hsame | ⟨hone, sample, hmore⟩
        · simp only [hsame]
          exact h.sound
        · simp only [hmore]
          exact TimingStats.sound_record h.sound (by omega) sample
      · obtain rfl : q = p' := Option.some.inj (hq.symm.trans hp')
        exact hs'

/-! ## Changes beside the run -/

/-- the run and what it has recorded are the same -/
structure SameRun (f g : CaptureFunction) : Prop where
  plan : g.plan = f.plan
  run : g.run = f.run
  stats : g.life.stats = f.life.stats
  lastShot : g.life.lastShot = f.life.lastShot
  isAborted : f.life.isAborted = true → g.life.isAborted = true
  finished_iff : g.life.phase = .finished ↔ f.life.phase = .finished

theorem SameRun.refl (f : CaptureFunction) : SameRun f f :=
  ⟨rfl, rfl, rfl, rfl, id, .rfl⟩

theorem SameRun.accounted (h : SameRun f g) (hf : f.Accounted) : g.Accounted := by
  refine ⟨h.stats ▸ hf.sound, fun n hn => ?_, fun hr hne => ?_, fun p hp => ?_⟩
  · rw [h.stats]
    exact hf.planned n (h.plan ▸ hn)
  · rw [h.stats, h.lastShot]
    exact hf.fresh (h.run ▸ hr) fun hn => hne (h.finished_iff.2 hn)
  · obtain ⟨shots, hs⟩ := hf.standing p (h.run ▸ hp)
    exact ⟨shots, h.plan ▸ hs.keeps h.stats h.lastShot h.isAborted⟩

theorem sameRun_stepTest (f : CaptureFunction) (studio : Studio) : SameRun f (f.stepTest studio).1 := by
  unfold stepTest
  cases ht : f.test with
  | none => exact .refl f
  | some p =>
    rcases p.step_life f.plan f.folder f.life studio with ⟨-, hl⟩ | ⟨_, -, hl⟩
    · simp only [hl]
      exact ⟨rfl, rfl, rfl, rfl, id, .rfl⟩
    · simp only [hl]
      exact ⟨rfl, rfl, rfl, rfl, id, .rfl⟩

/-- a piece of a call on a function leaves its run alone -/
theorem sameRun_called (f : CaptureFunction) (p : Caller) (camera : Camera) :
    SameRun f (Station.called f (p.step f.life camera)) := by
  have hsame : ∀ test, SameRun f { f with life := f.life, test := test } := fun _ => ⟨rfl, rfl, rfl, rfl, id, .rfl⟩
  cases p with
  | start | startReady | testReady | abort => simp only [Caller.step]; split <;> exact hsame _
  | startCommit =>
    simp only [Caller.step]
    split
    · exact hsame _
    · exact hsame _
    · next l hc =>
      obtain ⟨⟨hidle, -⟩, rfl⟩ := (f.life.commitStart_eq_ok_true_iff l).1 hc
      exact ⟨rfl, rfl, rfl, rfl, id, by simp [Station.called, hidle]⟩
  | test =>
    simp only [Caller.step]
    split
    · exact hsame _
    · next l hb =>
      obtain ⟨-, rfl⟩ := (f.life.beginTest_eq_ok_iff l).1 hb
      exact ⟨rfl, rfl, rfl, rfl, id, .rfl⟩
  | testWithdraw e => exact ⟨rfl, rfl, rfl, rfl, id, .rfl⟩
  | raise => exact ⟨rfl, rfl, rfl, rfl, fun _ => rfl, .rfl⟩
  | testLaunch | done => exact hsame _

/-- a run that is launched has nothing to its credit -/
theorem accounted_launch (h : f.Accounted) (hr : f.run = none) (hp : f.life.phase ≠ .finished) :
    f.launch.Accounted := by
  obtain ⟨hstats, hlast⟩ := h.fresh hr hp
  refine ⟨h.sound, h.planned, fun hn => (by cases hn), fun p hq => ⟨[], ?_⟩⟩
  obtain rfl : RunPoint.head 0 = p := Option.some.inj hq
  exact ⟨⟨rfl, fun _ _ => Nat.zero_le _⟩, by simp [launch, hstats], by simp [launch, hstats], by simp [launch, hlast]⟩

end CaptureFunction

namespace Station

variable {s t u : Station} {old : List CaptureFunction} {f g : CaptureFunction}

/-! ## Commands -/

/-- what a step of a command may make of the functions -/
inductive Orders (s t : Station) : Prop where
  | same (h : t.functions = s.functions)
  | active {old : List CaptureFunction} {f g : CaptureFunction} (hs : s.functions = old ++ [f])
      (ht : t.functions = old ++ [g]) (h : f.SameRun g)
  | launch {old : List CaptureFunction} {f : CaptureFunction} (hs : s.functions = old ++ [f])
      (ht : t.functions = old ++ [f.launch]) (hc : s.call = some .startLaunch)
  | new {plan : Plan} {folder : String} {downloads : Bool}
      (ht : t.functions = s.functions ++ [{ plan := plan, folder := folder, life := { downloads := downloads } }])

theorem orders_point (p : Caller) (hlaunch : p = .testLaunch → s.threadFault = none) :
    Orders s (s.stepCall p.point) := by
  rcases List.eq_nil_or_concat' s.functions with hnil | ⟨old, f, hs⟩
  · exact .same ((functions_stepCall_point hnil p).trans hnil.symm)
  · exact .active hs (stepCall_point hs p hlaunch).functions (f.sameRun_called p s.studio.camera)

theorem orders_testLaunch : Orders s (s.stepCall .testLaunch) := by
  cases hfault : s.threadFault with
  | none => exact orders_point .testLaunch fun _ => hfault
  | some reason =>
    rcases List.eq_nil_or_concat' s.functions with hnil | ⟨old, f, hs⟩
    · exact .same ((functions_stepCall_point hnil .testLaunch).trans hnil.symm)
    · exact .active hs (stepCall_testLaunch_of_fault hs hfault).functions ⟨rfl, rfl, rfl, rfl, id, .rfl⟩

theorem orders_setDownloads (b : Bool) : Orders s (s.stepCall (.begin (.downloadAfterExposure b))) := by
  rcases List.eq_nil_or_concat' s.functions with hnil | ⟨old, f, hs⟩
  · exact .same ((functions_withActive (s := s.say _) hnil _).trans hnil.symm)
  · simp only [stepCall, beginCall]
    rw [withActive_eq (s := s.say _) hs]
    exact .active hs (functions_updateActive (s := s.say _) hs _) ⟨rfl, rfl, rfl, rfl, id, .rfl⟩

/-- a function whose run is to be launched is started, and has no run yet -/
theorem started_of_startLaunch (h : Inv s) (hs : s.functions = old ++ [f]) (hc : s.call = some .startLaunch) :
    f.life.phase = .started ∧ f.run = none := by
  have hagrees := ((inv_concat hs).1 h).2.agrees
  rw [point_of_call hc] at hagrees
  have hle := hagrees.add_le_one
  refine ⟨hagrees.started_iff.2 (Nat.succ_pos _), ?_⟩
  rw [← Option.toList_eq_nil_iff, ← List.length_eq_zero_iff]
  simp only [CallPoint.launching] at hle
  omega

theorem orders_startLaunch (h : Inv s) (hc : s.call = some .startLaunch) : Orders s (s.stepCall .startLaunch) := by
  rcases List.eq_nil_or_concat' s.functions with hnil | ⟨old, f, hs⟩
  · exact .same ((functions_withActive hnil _).trans hnil.symm)
  · cases hfault : s.threadFault with
    | none => exact .launch hs (stepCall_startLaunch hs hfault).functions hc
    | some reason =>
      obtain ⟨hstarted, -⟩ := started_of_startLaunch h hs hc
      refine .active hs (stepCall_startLaunch_of_fault hs hfault).functions ⟨rfl, rfl, rfl, rfl, id, ?_⟩
      simp [Lifecycle.cancelStart, hstarted]

theorem orders_build {c : Telecommand} (h : Inv s) (hc : s.call = some (.build c)) :
    Orders s (s.stepCall (.build c)) := by
  simp only [stepCall]
  split
  · exact .same rfl
  · exact .same rfl
  · exact .new (functions_install h hc _ _)

/-- **What a step of a command makes of the functions.** -/
theorem orders_stepCall (h : Inv s) {p : CallPoint} (hc : s.call = some p) : Orders s (s.stepCall p) := by
  cases p with
  | begin c =>
    cases c with
    | sequencerSetup | intervalometerSetup => exact .same (stepCall_setup rfl).1
    | start => exact orders_point .start (by simp)
    | stop => exact orders_point .abort (by simp)
    | testCapture => exact orders_point .test (by simp)
    | downloadAfterExposure b => exact orders_setDownloads b
    | reconnect | testConnection => exact .same rfl
    | shutdown | reboot =>
      simp only [stepCall, beginCall, requestPower]
      split <;> exact .same rfl
  | build c => exact orders_build h hc
  | startReady => exact orders_point .startReady (by simp)
  | startCommit => exact orders_point .startCommit (by simp)
  | startLaunch => exact orders_startLaunch h hc
  | raise => exact orders_point .raise (by simp)
  | testReady => exact orders_point .testReady (by simp)
  | testLaunch => exact orders_testLaunch
  | testWithdraw e => exact orders_point (.testWithdraw e) (by simp)
  | reconnect =>
    simp only [stepCall]
    split <;> exact .same rfl
  | probe | identify | done => exact .same rfl

/-! ## Onward -/

/-- the functions are accounted for as before, and what is finished stays so, with the statistics it has -/
structure Onward (s t : Station) : Prop where
  accounted : (∀ f ∈ s.functions, f.Accounted) → ∀ f ∈ t.functions, f.Accounted
  finished : ∀ (i : Nat) (f : CaptureFunction), s.functions[i]? = some f → f.life.phase = .finished →
    ∃ g, t.functions[i]? = some g ∧ g.life.phase = .finished ∧ g.life.stats = f.life.stats

theorem onward_same (h : t.functions = s.functions) : Onward s t :=
  ⟨fun hall => h ▸ hall, fun _ f hf hp => ⟨f, h ▸ hf, hp, rfl⟩⟩

theorem Onward.trans (h : Onward s t) (h' : Onward t u) : Onward s u := by
  refine ⟨fun hall => h'.accounted (h.accounted hall), fun i f hf hp => ?_⟩
  obtain ⟨g, hg, hpg, hsg⟩ := h.finished i f hf hp
  obtain ⟨k, hk, hpk, hsk⟩ := h'.finished i g hg hpg
  exact ⟨k, hk, hpk, hsk.trans hsg⟩

/-- one function has changed -/
theorem onward_set {i : Nat} (hf : s.functions[i]? = some f) (ht : t.functions = s.functions.set i g)
    (haccounted : f.Accounted → g.Accounted)
    (hfinished : f.life.phase = .finished → g.life.phase = .finished ∧ g.life.stats = f.life.stats) : Onward s t := by
  refine ⟨fun hall k hk => ?_, fun j k hk hp => ?_⟩
  · rw [ht] at hk
    rcases List.mem_or_eq_of_mem_set hk with hk | rfl
    · exact hall k hk
    · exact haccounted (hall f (List.mem_of_getElem? hf))
  · rw [ht, List.getElem?_set]
    split_ifs with hij hlt
    · subst hij
      obtain rfl : f = k := Option.some.inj (hf.symm.trans hk)
      exact ⟨g, rfl, hfinished hp⟩
    · exact absurd (List.getElem?_eq_some_iff.1 hf).1 hlt
    · exact ⟨k, hk, hp, rfl⟩

/-- the active function has changed -/
theorem onward_active (hs : s.functions = old ++ [f]) (ht : t.functions = old ++ [g])
    (haccounted : f.Accounted → g.Accounted)
    (hfinished : f.life.phase = .finished → g.life.phase = .finished ∧ g.life.stats = f.life.stats) : Onward s t := by
  have hf : s.functions[old.length]? = some f := by rw [hs, List.getElem?_concat_length]
  exact onward_set hf (by simp [hs, ht]) haccounted hfinished

theorem onward_sameRun (hs : s.functions = old ++ [f]) (ht : t.functions = old ++ [g]) (h : f.SameRun g) :
    Onward s t :=
  onward_active hs ht h.accounted fun hp => ⟨h.finished_iff.2 hp, h.stats⟩

/-- only a function that is started has a run -/
theorem Inv.run_eq_none (h : Inv s) (hf : f ∈ s.functions) (hp : f.life.phase ≠ .started) : f.run = none := by
  rcases List.eq_nil_or_concat' s.functions with hnil | ⟨old, g, hs⟩
  · rw [hnil] at hf
    cases hf
  · obtain ⟨hold, hserved⟩ := (inv_concat hs).1 h
    rw [hs, List.mem_append, List.mem_singleton] at hf
    rcases hf with hf | rfl
    · exact (hold f hf).run
    · have hruns := hserved.agrees.runs_eq
      rw [if_neg hp] at hruns
      rw [← Option.toList_eq_nil_iff, ← List.length_eq_zero_iff]
      omega

theorem Orders.onward (h : Orders s t) (hi : Inv s) : Onward s t := by
  cases h with
  | same h => exact onward_same h
  | active hs ht h => exact onward_sameRun hs ht h
  | @launch old f hs ht hc =>
    obtain ⟨hstarted, hnone⟩ := started_of_startLaunch hi hs hc
    have hne : f.life.phase ≠ .finished := by rw [hstarted]; exact Phase.noConfusion
    exact onward_active hs ht (fun hf => CaptureFunction.accounted_launch hf hnone hne) fun hp => absurd hp hne
  | new ht =>
    refine ⟨fun hall f hf => ?_, fun i f hf hp => ⟨f, ?_, hp, rfl⟩⟩
    · rw [ht, List.mem_append, List.mem_singleton] at hf
      rcases hf with hf | rfl
      · exact hall f hf
      · exact CaptureFunction.accounted_new _ _ _
    · rw [ht, List.getElem?_append_left (List.getElem?_eq_some_iff.1 hf).1, hf]

theorem onward_stepFunction (i : Nat) {act : CaptureFunction → Studio → CaptureFunction × Studio}
    (haccounted : ∀ f ∈ s.functions, f.Accounted → (act f s.studio).1.Accounted)
    (hfinished : ∀ f ∈ s.functions, f.life.phase = .finished →
      (act f s.studio).1.life.phase = .finished ∧ (act f s.studio).1.life.stats = f.life.stats) :
    Onward s (s.stepFunction i act) := by
  unfold stepFunction
  split
  · exact onward_same rfl
  · next f hf =>
    have hmem := List.mem_of_getElem? hf
    exact onward_set hf rfl (haccounted f hmem) (hfinished f hmem)

theorem owed_le (hf : f ∈ s.functions) : f.owed ≤ s.owed :=
  List.single_le_sum (fun _ _ => Nat.zero_le _) _ (List.mem_map_of_mem hf)

/-- **Every event leads onward.** -/
theorem onward_step (h : Inv s) (hfew : s.owed < 2 ^ 32) (e : Event) : Onward s (s.step e) := by
  cases e with
  | call c =>
    simp only [step]
    split_ifs <;> exact onward_same rfl
  | proceed =>
    simp only [step]
    split
    · exact onward_same rfl
    · next p hc =>
      split_ifs
      · exact (orders_stepCall h hc).onward h
      · exact onward_same rfl
  | run i =>
    simp only [step]
    split_ifs
    · refine onward_stepFunction i (fun f hf hacc => ?_) fun f hf hp => ?_
      · exact CaptureFunction.accounted_stepRun hacc (Nat.lt_of_le_of_lt (owed_le hf) hfew) s.studio
      · have hnone := h.run_eq_none hf (by rw [hp]; exact Phase.noConfusion)
        rw [CaptureFunction.stepRun, hnone]
        exact ⟨hp, rfl⟩
    · exact onward_same rfl
  | test i =>
    simp only [step]
    split_ifs
    · refine onward_stepFunction i (fun f _ => (f.sameRun_stepTest s.studio).accounted) fun f _ hp => ?_
      have hsame := f.sameRun_stepTest s.studio
      exact ⟨hsame.finished_iff.2 hp, hsame.stats⟩
    · exact onward_same rfl
  | pass | fault | threads => exact onward_same rfl
  | set | download =>
    simp only [step]
    split_ifs <;> exact onward_same rfl

/-! ## The signal to stop -/

/-- the active function is told to stop, or nothing happens -/
theorem abortActive_cases (s : Station) : s.abortActive.functions = s.functions ∨
    ∃ old f, s.functions = old ++ [f] ∧ s.abortActive.functions = old ++ [{ f with life := f.life.raiseAbort }] := by
  unfold abortActive abort
  split_ifs
  · split
    · next f hf =>
      obtain ⟨old, hs⟩ := List.getLast?_eq_some_iff.1 hf
      split_ifs
      · exact .inr ⟨old, f, hs, functions_updateActive (s := s.say _) hs _⟩
      · exact .inl rfl
    · exact .inl rfl
  · exact .inl rfl

theorem onward_abortActive (s : Station) : Onward s s.abortActive := by
  rcases s.abortActive_cases with hsame | ⟨old, f, hs, ht⟩
  · exact onward_same hsame
  · exact onward_sameRun hs ht ⟨rfl, rfl, rfl, rfl, fun _ => rfl, .rfl⟩

/-- each function has its run as before -/
theorem sameRun_abortActive {i : Nat} (hf : s.functions[i]? = some f) :
    ∃ g, s.abortActive.functions[i]? = some g ∧ f.SameRun g := by
  rcases s.abortActive_cases with hsame | ⟨old, k, hs, ht⟩
  · exact ⟨f, hsame ▸ hf, .refl f⟩
  · rw [hs] at hf
    rw [ht]
    rcases Nat.lt_or_ge i old.length with hi | hi
    · rw [List.getElem?_append_left hi] at hf ⊢
      exact ⟨f, hf, .refl f⟩
    · rw [List.getElem?_append_right hi, List.getElem?_singleton] at hf ⊢
      split_ifs at hf ⊢
      obtain rfl := Option.some.inj hf
      exact ⟨_, rfl, rfl, rfl, rfl, rfl, fun _ => rfl, .rfl⟩

end Station

end RemoteShutter
