/-
Which setups are accepted, and what the report says then.

A setup brings signed numbers of 32 bits. They are read as a number of exposures, an exposure time and a period, and come
back in the report as numbers of three other types.
- `SetupRequest.IsValid`: what a setup may ask for; `SetupRequest.Faults`: which fault is reported if it asks for more.
- `ShotCount.toInt64_ofInt32`, `exposureOfInt32_of_nonneg`, `toNat_period`: no conversion changes a valid number.
- `planOf_cases`: a plan is made of a valid request, and of no other.
- `dispatch_request`: a setup is accepted just if it is valid; then it is what the report says, otherwise nothing is new.
-/
import RemoteShutter.Proofs.Station.Answers

namespace RemoteShutter

/-! ## Requests -/

/-- what a setup asks for -/
structure SetupRequest where
  /-- -1 if there is no limit -/
  exposures : Int32
  /-- microseconds -/
  exposureTime : Int32
  /-- milliseconds, for the intervalometer only -/
  interval : Option Int32
  download : Bool
  deriving DecidableEq, Repr

/-- what the command asks for, if it is a setup -/
def Telecommand.request? : Telecommand → Option SetupRequest
  | sequencerSetup s => some ⟨s.exposures, s.exposureTime, none, s.download⟩
  | intervalometerSetup s => some ⟨s.exposures, s.exposureTime, some s.interval, s.download⟩
  | _ => none

theorem Telecommand.isSetup_of_request? {c : Telecommand} {r : SetupRequest} (h : c.request? = some r) :
    c.isSetup = true := by
  cases c with
  | sequencerSetup | intervalometerSetup => rfl
  | _ => cases h

namespace SetupRequest

variable {r : SetupRequest} {e : SetupError}

def kind (r : SetupRequest) : FunctionKind :=
  if r.interval.isSome then .intervalometer else .sequencer

/-- a period, if there is one, is positive -/
def IsSpaced (r : SetupRequest) : Prop :=
  ∀ t ∈ r.interval, 0 < t.toInt

structure IsValid (r : SetupRequest) : Prop where
  spaced : r.IsSpaced
  exposures : -1 ≤ r.exposures.toInt
  exposureTime : 0 ≤ r.exposureTime.toInt

/-- the fault that is reported: the period before the number of exposures, and that before the exposure time -/
inductive Faults (r : SetupRequest) : SetupError → Prop
  | interval (t : Int32) (there : r.interval = some t) (bad : t.toInt ≤ 0) : Faults r (.timing (.interval t))
  | shotCount (spaced : r.IsSpaced) (bad : r.exposures.toInt < -1) : Faults r (.shotCount r.exposures)
  | exposureTime (spaced : r.IsSpaced) (counted : -1 ≤ r.exposures.toInt) (bad : r.exposureTime.toInt < 0) :
      Faults r (.timing (.negativeExposure r.exposureTime))

theorem Faults.not_isValid (h : r.Faults e) : ¬ r.IsValid := by
  rintro ⟨hspaced, hexposures, htime⟩
  cases h with
  | interval t there bad => exact absurd (hspaced t there) (Int.not_lt.2 bad)
  | shotCount _ bad => exact absurd hexposures (Int.not_le.2 bad)
  | exposureTime _ _ bad => exact absurd htime (Int.not_le.2 bad)

end SetupRequest

/-- the report says what was asked for, and that nothing has been done yet -/
structure FunctionReport.Echoes (f : FunctionReport) (r : SetupRequest) : Prop where
  kind : f.kind = r.kind
  lifecycle : f.lifecycle = .idle
  download : f.download = r.download
  programmed : f.programmed.toInt = r.exposures.toInt
  exposureTime : (f.exposureTime.toNat : Int) = r.exposureTime.toInt
  interval : f.interval.map (fun t => (t.toNat : Int)) = r.interval.map Int32.toInt
  stats : f.stats = {}

/-! ## Numbers -/

theorem Int32.toNat_toUInt32 {n : Int32} (h : 0 ≤ n.toInt) : (n.toUInt32.toNat : Int) = n.toInt := by
  have hn : (0 : Int32) ≤ n := Int32.le_iff_toInt_le.2 h
  rw [Int32.toNat_toUInt32_of_le hn, ← Int32.toNat_toInt, Int.toNat_of_nonneg h]

/-- a limit, and -1, come back as they were -/
theorem ShotCount.toInt64_ofInt32 {n : Int32} (h : -1 ≤ n.toInt) :
    ∃ shots, ofInt32 n = .ok shots ∧ shots.toInt64.toInt = n.toInt := by
  by_cases hone : n = -1
  · exact ⟨unbounded, if_pos hone, by rw [hone]; rfl⟩
  · have hne : n.toInt ≠ -1 := fun heq => hone (Int32.toInt_inj.1 heq)
    have hnonneg : 0 ≤ n.toInt := by omega
    have hnot : ¬ n < 0 := fun hlt => absurd (Int32.lt_iff_toInt_lt.1 hlt) (Int.not_lt.2 hnonneg)
    refine ⟨limited n.toUInt32, by rw [ofInt32, if_neg hone, if_neg hnot], ?_⟩
    have hsmall : n.toUInt32.toNat < 2 ^ 63 := Nat.lt_trans n.toUInt32.toNat_lt (by norm_num)
    calc (limited n.toUInt32).toInt64.toInt
      _ = n.toUInt32.toNat := Int64.toInt_ofNat_of_lt hsmall
      _ = n.toInt := Int32.toNat_toUInt32 hnonneg

theorem ShotCount.ofInt32_of_lt {n : Int32} (h : n.toInt < -1) : ofInt32 n = .error (.shotCount n) := by
  have hone : n ≠ -1 := by
    rintro rfl
    exact absurd h (by decide)
  have hneg : n < 0 := Int32.lt_iff_toInt_lt.2 (Int.lt_trans h (by decide))
  rw [ofInt32, if_neg hone, if_pos hneg]

theorem exposureOfInt32_of_nonneg {t : Int32} (h : 0 ≤ t.toInt) : exposureOfInt32 t = .ok t.toUInt32 :=
  if_neg fun hlt : t < 0 => absurd (Int32.lt_iff_toInt_lt.1 hlt) (Int.not_lt.2 h)

theorem exposureOfInt32_of_neg {t : Int32} (h : t.toInt < 0) :
    exposureOfInt32 t = .error (.timing (.negativeExposure t)) :=
  if_pos (Int32.lt_iff_toInt_lt.2 h)

/-- milliseconds come back as they were -/
theorem toNat_period {t : Int32} (h : 0 < t.toInt) : (t.toInt.toNat.toUInt64.toNat : Int) = t.toInt := by
  have hsmall : t.toInt.toNat < 2 ^ 64 := by
    have := t.toInt_lt
    omega
  calc (t.toInt.toNat.toUInt64.toNat : Int)
    _ = t.toInt.toNat := by rw [Nat.toUInt64, UInt64.toNat_ofNat_of_lt' hsmall]
    _ = t.toInt := Int.toNat_of_nonneg (Int.le_of_lt h)

/-! ## Plans -/

namespace SetupRequest

variable {r : SetupRequest}

/-- the first check -/
def checkInterval (r : SetupRequest) : Except SetupError Unit :=
  match r.interval with
  | none => .ok ()
  | some t => if t ≤ 0 then .error (.timing (.interval t)) else .ok ()

/-- the plan for a request, once its numbers have been read -/
def planWith (r : SetupRequest) (shots : ShotCount) (exposure : UInt32) : Plan :=
  match r.interval with
  | none => .sequencer ⟨shots, exposure⟩
  | some t => .intervalometer ⟨shots, exposure, t.toInt.toNat.toUInt64⟩

theorem checkInterval_of_isSpaced (h : r.IsSpaced) : r.checkInterval = .ok () := by
  unfold checkInterval
  cases ht : r.interval with
  | none => rfl
  | some t => exact if_neg fun hle : t ≤ 0 => absurd (Int32.le_iff_toInt_le.1 hle) (Int.not_le.2 (h t ht))

theorem checkInterval_of_le {t : Int32} (ht : r.interval = some t) (h : t.toInt ≤ 0) :
    r.checkInterval = .error (.timing (.interval t)) := by
  have hle : t ≤ 0 := Int32.le_iff_toInt_le.2 h
  rw [checkInterval, ht]
  exact if_pos hle

/-- a function with this plan reports the request -/
theorem echoes_report {shots : ShotCount} (folder : String) (h : r.IsValid)
    (hshots : shots.toInt64.toInt = r.exposures.toInt) :
    FunctionReport.Echoes (CaptureFunction.report
      { plan := r.planWith shots r.exposureTime.toUInt32, folder := folder, life := { downloads := r.download } }) r := by
  have htime := Int32.toNat_toUInt32 h.exposureTime
  obtain ⟨exposures, exposureTime, interval, download⟩ := r
  cases interval with
  | none => exact ⟨rfl, rfl, rfl, hshots, htime, rfl, rfl⟩
  | some t => exact ⟨rfl, rfl, rfl, hshots, htime, congrArg some (toNat_period (h.spaced t rfl)), rfl⟩

end SetupRequest

namespace Station

variable {s : Station} {c : Telecommand} {r : SetupRequest}

/-- the order in which a request is checked -/
theorem planOf_eq (hc : c.request? = some r) : planOf c = (do
    r.checkInterval
    let shots ← ShotCount.ofInt32 r.exposures
    let exposure ← exposureOfInt32 r.exposureTime
    return some (r.planWith shots exposure, r.download)) := by
  cases c with
  | sequencerSetup setup =>
    cases hc
    simp only [planOf, SequencerConfig.ofSetup, bind_assoc, pure_bind]
    rfl
  | intervalometerSetup setup =>
    cases hc
    simp only [planOf, IntervalometerConfig.ofSetup, SetupRequest.checkInterval]
    split_ifs
    · rfl
    · simp only [bind_assoc, pure_bind]
      rfl
  | _ => cases hc

/-- a plan is made of a valid request, and of no other -/
theorem planOf_cases (hc : c.request? = some r) :
    (r.IsValid ∧ ∃ shots : ShotCount, shots.toInt64.toInt = r.exposures.toInt ∧
      planOf c = .ok (some (r.planWith shots r.exposureTime.toUInt32, r.download))) ∨
    ∃ e, r.Faults e ∧ planOf c = .error e := by
  rw [planOf_eq hc]
  by_cases hspaced : r.IsSpaced
  · rw [SetupRequest.checkInterval_of_isSpaced hspaced]
    rcases Int.lt_or_le r.exposures.toInt (-1) with hcount | hcount
    · exact .inr ⟨_, .shotCount hspaced hcount, by rw [ShotCount.ofInt32_of_lt hcount]; rfl⟩
    · obtain ⟨shots, hshots, hvalue⟩ := ShotCount.toInt64_ofInt32 hcount
      rw [hshots]
      rcases Int.lt_or_le r.exposureTime.toInt 0 with htime | htime
      · exact .inr ⟨_, .exposureTime hspaced hcount htime, by rw [exposureOfInt32_of_neg htime]; rfl⟩
      · exact .inl ⟨⟨hspaced, hcount, htime⟩, shots, hvalue, by rw [exposureOfInt32_of_nonneg htime]; rfl⟩
  · obtain ⟨t, ht, hbad⟩ : ∃ t, r.interval = some t ∧ t.toInt ≤ 0 := by
      simpa [SetupRequest.IsSpaced] using hspaced
    exact .inr ⟨_, .interval t ht hbad, by rw [SetupRequest.checkInterval_of_le ht hbad]; rfl⟩

/-! ## Dispatching -/

/-- a new function becomes the active one -/
theorem active?_install (s : Station) (plan : Plan) (download : Bool) :
    ∃ folder, (s.install plan download).active? =
      some { plan := plan, folder := folder, life := { downloads := download } } :=
  ⟨_, List.getLast?_concat⟩

/-- **A setup is accepted just if it is valid, and then the report says what was asked for.** While no function operates,
whatever function was set up before, a setup is answered: it succeeds just if the number of exposures is -1 or more, the
exposure time not negative, and the period, if there is one, positive. Then the report gives the kind, the download flag
and these numbers as they were sent, an idle function, and empty statistics. Otherwise the answer is the first fault, of
the period, the number of exposures and the exposure time in this order, and the report is what it was. -/
theorem dispatch_request (hfree : s.isFree = true) (hidle : s.active?.any CaptureFunction.isOperating = false)
    (hc : c.request? = some r) :
    ((s.dispatch c).1 = some (.ok ()) ↔ r.IsValid) ∧
      (r.IsValid → ∃ f, (s.dispatch c).2.status = some f ∧ f.Echoes r) ∧
      (¬ r.IsValid → ∃ e, r.Faults e ∧ (s.dispatch c).1 = some (.error (.setup e)) ∧
        (s.dispatch c).2.functions = s.functions ∧ (s.dispatch c).2.status = s.status) := by
  obtain ⟨t, o, hfunctions, ho, -, hd⟩ := dispatch_setup_idle hfree hidle (Telecommand.isSetup_of_request? hc)
  rcases planOf_cases hc with ⟨hvalid, shots, hshots, hplan⟩ | ⟨e, he, hplan⟩
  · have hstep : t.stepCall (.build c) =
        (t.install (r.planWith shots r.exposureTime.toUInt32) r.download).finishCall (.ok ()) := by
      simp only [stepCall, hplan]
    obtain rfl : o = .ok () := by
      rw [hstep] at ho
      cases ho
      rfl
    obtain ⟨folder, hactive⟩ := active?_install t (r.planWith shots r.exposureTime.toUInt32) r.download
    refine ⟨by simp [hd, hvalid], fun _ => ⟨_, ?_, SetupRequest.echoes_report folder hvalid hshots⟩,
      fun hnot => absurd hvalid hnot⟩
    rw [hd, hstep]
    exact congrArg (Option.map CaptureFunction.report) hactive
  · have hstep : t.stepCall (.build c) = t.finishCall (.error (.setup e)) := by
      simp only [stepCall, hplan]
    obtain rfl : o = .error (.setup e) := by
      rw [hstep] at ho
      cases ho
      rfl
    have hnot := he.not_isValid
    have hsame : (s.dispatch c).2.functions = s.functions := by
      rw [hd, hstep]
      exact hfunctions
    refine ⟨by simp [hd, hnot], fun hvalid => absurd hvalid hnot, fun _ => ⟨e, he, by rw [hd], hsame, ?_⟩⟩
    rw [status, active?, hsame]
    rfl

/-- an intervalometer without limit in the place of a sequencer that is over, and one with three faults -/
theorem dispatch_request_after_finish :
    let past : CaptureFunction := {
      plan := .sequencer ⟨.limited 1, 1000⟩
      folder := "a"
      life := { phase := .finished, stats := ({} : TimingStats).record 7 } }
    let s : Station := { folder := "a", functions := [past] }
    let good : Telecommand := .intervalometerSetup ⟨-1, 2000000, 5000, true⟩
    let bad : Telecommand := .intervalometerSetup ⟨-2, -1, 0, true⟩
    (s.isFree = true ∧ s.active?.any CaptureFunction.isOperating = false ∧
      good.request? = some ⟨-1, 2000000, some 5000, true⟩ ∧ bad.request? = some ⟨-2, -1, some 0, true⟩) ∧
      (s.dispatch good).1 = some (.ok ()) ∧
      (∃ f, (s.dispatch good).2.status = some f ∧ f.Echoes ⟨-1, 2000000, some 5000, true⟩) ∧
      (s.dispatch bad).1 = some (.error (.setup (.timing (.interval 0)))) ∧ (s.dispatch bad).2.status = s.status := by
  intro past s good bad
  have hvalid : SetupRequest.IsValid ⟨-1, 2000000, some 5000, true⟩ := by
    refine ⟨fun t ht => ?_, by decide, by decide⟩
    cases ht
    decide
  have hnot : ¬ SetupRequest.IsValid ⟨-2, -1, some 0, true⟩ := fun h => absurd h.exposures (by decide)
  obtain ⟨haccepted, hechoes, -⟩ := dispatch_request (s := s) (c := good) rfl rfl rfl
  obtain ⟨-, -, hrefused⟩ := dispatch_request (s := s) (c := bad) rfl rfl rfl
  obtain ⟨e, he, herror, -, hsame⟩ := hrefused hnot
  refine ⟨⟨rfl, rfl, rfl, rfl⟩, haccepted.2 hvalid, hechoes hvalid, ?_, hsame⟩
  cases he with
  | interval t there _ =>
    cases there
    exact herror
  | shotCount spaced _ => exact absurd (spaced 0 rfl) (by decide)
  | exposureTime spaced _ _ => exact absurd (spaced 0 rfl) (by decide)

end Station

end RemoteShutter
