/-
Shots are conserved.

A chronicle is a station with the record of all exposures ever made there. Commands, threads, faults, settings,
downloads and aborts come in any order, each command step by step or carried out at once; a command that is carried out
may have to wait for a capture, which is an exposure then.
- `Balanced`: the camera counts what was exposed and names the pictures in order, and the statistics of the functions
  count the pictures of the runs, up to those whose samples are still to come.
- `balanced_event`, `balanced_events`: an event keeps that, and so do all events of a command.
- `balanced_step`, `balanced_steps`: every action, and so every history, keeps it.
- `shots_conserved`: while no function is operating, the counts of all functions and the test shots make up what the
  camera has counted.
-/
import RemoteShutter.Proofs.Camera.Names
import RemoteShutter.Proofs.Station.Exposures

namespace RemoteShutter

/-- the camera before its first exposure -/
def Camera.unused (c : Camera) : Camera :=
  { c with shots := 0, captures := 0, remoteCaptures := 0 }

structure Chronicle where
  station : Station
  exposures : List Exposure := []

/-- the exposures that events make, in order -/
def Station.exposures (s : Station) : List Station.Event → List Exposure
  | [] => []
  | e :: es => (s.exposure? e).toList ++ (s.step e).exposures es

namespace Chronicle

/-- what may happen at a station -/
inductive Action where
  | event (e : Station.Event)
  /-- a command is carried out -/
  | dispatch (c : Telecommand)
  /-- the active function is told to stop -/
  | abort
  | set (name value : String)
  | downloadLast (folder : String)

def act (s : Station) : Action → Station
  | .event e => s.step e
  | .dispatch c => (s.dispatch c).2
  | .abort => s.abortActive
  | .set name value => (s.set name value).2
  | .downloadLast folder => (s.downloadLast folder).2

/-- the exposures that an action makes, in order -/
def exposuresOf (s : Station) : Action → List Exposure
  | .event e => (s.exposure? e).toList
  | .dispatch c => s.exposures (s.eventsOf c)
  | _ => []

def step (c : Chronicle) (a : Action) : Chronicle where
  station := act c.station a
  exposures := c.exposures ++ exposuresOf c.station a

def steps (c : Chronicle) (as : List Action) : Chronicle :=
  as.foldl step c

/-- a station before its first command, with a camera before its first exposure -/
def start (studio : Studio) (folder : String) (power : PowerHook) : Chronicle where
  station := .fresh { studio with camera := studio.camera.unused } folder power

variable {c : Chronicle} {t : Station}

theorem steps_concat (c : Chronicle) (as : List Action) (a : Action) : c.steps (as ++ [a]) = (c.steps as).step a := by
  rw [steps, List.foldl_append, List.foldl_cons, List.foldl_nil, steps]

/-! ## Actions -/

theorem inv_act {s : Station} (h : s.Inv) (a : Action) : (act s a).Inv := by
  have hsame : ∀ {t : Station}, t.functions = s.functions → t.call = s.call → t.Inv := by
    intro t hf hc
    have hpoint : t.point = s.point := by rw [Station.point, Station.point, hc]
    exact (Station.follows_same h hf fun _ hserved _ => hpoint ▸ hserved).inv
  cases a with
  | event e => exact (Station.follows_step h e).inv
  | dispatch c => exact (Station.follows_dispatch h c).inv
  | abort => exact (Station.follows_abortActive h).inv
  | set name value => exact hsame rfl rfl
  | downloadLast folder =>
    simp only [act, Station.downloadLast]
    split
    · exact h
    · exact hsame rfl rfl

/-! ## The balance -/

/-- the camera has exposed the pictures on record, and the statistics count those of the runs -/
structure Balanced (c : Chronicle) : Prop where
  inv : c.station.Inv
  exposed : c.station.studio.camera.HasExposed (c.exposures.map Exposure.shot)
  owed : c.exposures.length < 2 ^ 32 → c.station.owed = c.exposures.countP (!·.isTest)

theorem balanced_start (studio : Studio) (folder : String) (power : PowerHook) :
    Balanced (start studio folder power) where
  inv := Station.inv_nil rfl
  exposed := ⟨rfl, ⟨0, 0, rfl, rfl, rfl⟩, fun _ _ h => by cases h⟩
  owed _ := rfl

/-- one exposure more on the record, or none -/
theorem balanced_append (h : Balanced c) (hinv : t.Inv) {new : Option Exposure} (ha : c.station.Accounts t new) :
    Balanced ⟨t, c.exposures ++ new.toList⟩ := by
  obtain ⟨htakes, howed⟩ := ha
  refine ⟨hinv, ?_, fun hfew => ?_⟩
  · have hmore : (c.exposures ++ new.toList).map Exposure.shot =
        c.exposures.map Exposure.shot ++ (new.map Exposure.shot).toList := by
      cases new <;> simp
    rw [hmore]
    exact h.exposed.append htakes
  · rw [List.length_append] at hfew
    have hbefore := h.owed (by omega)
    have hle : c.exposures.countP (!·.isTest) ≤ c.exposures.length := List.countP_le_length
    have hafter := howed (by omega)
    rw [hbefore] at hafter
    exact hafter.trans List.countP_append.symm

/-- nothing was exposed -/
theorem balanced_quiet (h : Balanced c) (hinv : t.Inv) (hq : c.station.Quiet t) : Balanced ⟨t, c.exposures ++ []⟩ :=
  balanced_append h hinv hq.accounts

theorem balanced_event (h : Balanced c) (e : Station.Event) :
    Balanced ⟨c.station.step e, c.exposures ++ (c.station.exposure? e).toList⟩ :=
  balanced_append h (Station.follows_step h.inv e).inv (Station.accounts_step h.inv e)

theorem balanced_events (h : Balanced c) (es : List Station.Event) :
    Balanced ⟨c.station.steps es, c.exposures ++ c.station.exposures es⟩ := by
  induction es generalizing c with
  | nil =>
    rw [Station.exposures, List.append_nil]
    exact h
  | cons e es ih =>
    have hlater := ih (balanced_event h e)
    rwa [List.append_assoc] at hlater

/-- the events of a command that is carried out, with its answer taken away -/
theorem balanced_dispatch (h : Balanced c) (cmd : Telecommand) : Balanced (c.step (.dispatch cmd)) := by
  have hevents := balanced_events h (c.station.eventsOf cmd)
  have hinv := (Station.follows_dispatch h.inv cmd).inv
  rw [Station.dispatch_snd] at hinv
  have hend := balanced_quiet hevents hinv (Station.quiet_same rfl (.refl _))
  rw [List.append_nil] at hend
  simpa only [step, act, exposuresOf, Station.dispatch_snd] using hend

theorem balanced_step (h : Balanced c) (a : Action) : Balanced (c.step a) := by
  cases a with
  | event e => exact balanced_event h e
  | dispatch cmd => exact balanced_dispatch h cmd
  | abort => exact balanced_quiet h (inv_act h.inv .abort) c.station.quiet_abortActive
  | set name value =>
    have htakes := c.station.studio.camera.takes_set name value
    exact balanced_quiet h (inv_act h.inv (.set name value)) (Station.quiet_same rfl htakes)
  | downloadLast folder =>
    refine balanced_quiet h (inv_act h.inv (.downloadLast folder)) ?_
    simp only [act, Station.downloadLast]
    split
    · exact .refl _
    · next f _ => exact Station.quiet_same rfl (c.station.studio.takes_fetch f.life.lastShot folder)

theorem balanced_steps (h : Balanced c) (as : List Action) : Balanced (c.steps as) := by
  induction as using List.reverseRecOn with
  | nil => exact h
  | append_singleton as a ih =>
    rw [steps_concat]
    exact balanced_step ih a

/-- what was exposed stays on record -/
theorem prefix_steps (c : Chronicle) (as : List Action) : c.exposures <+: (c.steps as).exposures := by
  induction as using List.reverseRecOn with
  | nil => exact List.prefix_rfl
  | append_singleton as a ih =>
    rw [steps_concat]
    exact ih.trans (List.prefix_append _ _)

/-! ## Functions that are not operating -/

/-- with no thread there is no sample to come -/
theorem owed_of_not_operating {s : Station} (h : s.Inv) (hidle : ∀ f ∈ s.functions, f.isOperating = false) :
    s.owed = (s.functions.map fun f => f.life.stats.exposures.toNat).sum := by
  have hrun : ∀ f ∈ s.functions, f.run = none := by
    intro f hf
    rcases List.eq_nil_or_concat' s.functions with hnil | ⟨old, g, hs⟩
    · rw [hnil] at hf
      cases hf
    · obtain ⟨hold, hserved⟩ := (Station.inv_concat hs).1 h
      rw [hs, List.mem_append, List.mem_singleton] at hf
      rcases hf with hf | rfl
      · exact (hold f hf).run
      · cases hr : f.run with
        | none => rfl
        | some p =>
          have hon := hserved.isOperating_of_thread (by simp [hr])
          rw [hidle f (by simp [hs])] at hon
          cases hon
  unfold Station.owed
  congr 1
  apply List.map_congr_left
  intro f hf
  rw [CaptureFunction.owed, hrun f hf]
  rfl

/-- **Shots are conserved.** Take a station with a camera before its first exposure, and any history of commands, steps
of threads, faults, settings, downloads and aborts, with fewer than 2^32 exposures. Whenever none of the functions ever
set up is operating, the number of pictures on the camera is what its two counters of captures make up, and it is the
sum of the exposures in the statistics of all functions and of the test shots that were exposed, whatever became of
their downloads. The next capture that goes through, now or later, gives its picture that number plus one, as long as
that fits 32 bits, and a name that says so. -/
theorem shots_conserved (studio : Studio) (folder : String) (power : PowerHook) (as : List Action) :
    let c := (start studio folder power).steps as
    let camera := c.station.studio.camera
    c.exposures.length < 2 ^ 32 → (∀ f ∈ c.station.functions, f.isOperating = false) →
      camera.shots.toNat = c.exposures.length ∧
      camera.captures.toNat + camera.remoteCaptures.toNat = camera.shots.toNat ∧
      (c.station.functions.map fun f => f.life.stats.exposures.toNat).sum + c.exposures.countP Exposure.isTest =
        camera.shots.toNat ∧
      (camera.shots.toNat + 1 < 2 ^ 32 →
        (∀ shot after, camera.expose = (.ok shot, after) → shot.IsPicture (camera.shots.toNat + 1)) ∧
        ∀ bs, ∃ more, (c.steps bs).exposures = c.exposures ++ more ∧
          ∀ e, more.head? = some e → e.shot.IsPicture (camera.shots.toNat + 1)) := by
  intro c camera hfew hidle
  have hbalanced : Balanced c := balanced_steps (balanced_start studio folder power) as
  have hfew' : (c.exposures.map Exposure.shot).length < 2 ^ 32 := by rwa [List.length_map]
  have hlength : camera.shots.toNat = c.exposures.length := by
    rw [hbalanced.exposed.toNat_shots hfew', List.length_map]
  refine ⟨hlength, ?_, ?_, fun hfits => ⟨?_, ?_⟩⟩
  · rw [hbalanced.exposed.toNat_counted hfew', List.length_map, hlength]
  · rw [← owed_of_not_operating hbalanced.inv hidle, hbalanced.owed hfew, hlength, Nat.add_comm]
    have hkinds : c.exposures.length = c.exposures.countP Exposure.isTest + c.exposures.countP (!·.isTest) := by
      simpa using List.length_eq_countP_add_countP Exposure.isTest (l := c.exposures)
    exact hkinds.symm
  · intro shot after hexpose
    have hnumber : (camera.shots + 1).toNat = camera.shots.toNat + 1 := by
      rw [UInt32.toNat_add]
      exact Nat.mod_eq_of_lt hfits
    rcases camera.expose_cases with ⟨e, he⟩ | he
    · rw [he] at hexpose
      cases hexpose
    · rw [he, hnumber] at hexpose
      cases hexpose
      exact Shot.isPicture_ofNumber _
  · intro bs
    obtain ⟨more, hmore⟩ := prefix_steps c bs
    refine ⟨more, hmore.symm, fun e he => ?_⟩
    have hnext : ((c.steps bs).exposures.map Exposure.shot)[c.exposures.length]? = some e.shot := by
      rw [← hmore, List.getElem?_map, List.getElem?_append_right le_rfl, Nat.sub_self, ← List.head?_eq_getElem?, he]
      rfl
    rw [hlength, Shot.isPicture_iff]
    exact (balanced_steps hbalanced bs).exposed.eq_ofNumber (hlength ▸ hfits) hnext

/-- a test shot, a run in bulb mode that is aborted, and another function in its place after the cable was pulled -/
def twoFunctions : List Action := List.flatten [
  [.dispatch (.intervalometerSetup ⟨5, 0, 1, true⟩), .dispatch .testCapture], List.replicate 4 (.event (.test 0)),
  [.event (.set "shutterspeed" "BULB"), .dispatch .start], List.replicate 3 (.event (.run 0)),
  [.abort], List.replicate 6 (.event (.run 0)),
  [.event (.fault .unplug), .dispatch (.sequencerSetup ⟨1, 0, false⟩), .dispatch .start],
  List.replicate 8 (.event (.run 1))]

/-- the folder for downloads has no name that a file system takes, so all of them fail -/
theorem shots_conserved_over_two_functions :
    let c := (start {} "\x00" .listening).steps twoFunctions
    c.station.studio.camera.shots = 3 ∧ c.station.studio.camera.downloads = 0 ∧
      c.station.functions.map CaptureFunction.isOperating = [false, false] ∧
      (c.station.functions.map fun f => f.life.stats.exposures.toNat).sum + c.exposures.countP Exposure.isTest = 3 := by
  have hshots : ((start {} "\x00" .listening).steps twoFunctions).station.studio.camera.shots = 3 := by decide +kernel
  have hdownloads : ((start {} "\x00" .listening).steps twoFunctions).station.studio.camera.downloads = 0 := by
    decide +kernel
  have hidle : ((start {} "\x00" .listening).steps twoFunctions).station.functions.map CaptureFunction.isOperating =
      [false, false] := by decide +kernel
  have hfew : ((start {} "\x00" .listening).steps twoFunctions).exposures.length < 2 ^ 32 := by decide +kernel
  have hnone : ∀ f ∈ ((start {} "\x00" .listening).steps twoFunctions).station.functions, f.isOperating = false := by
    intro f hf
    have hmem := List.mem_map_of_mem (f := CaptureFunction.isOperating) hf
    rw [hidle] at hmem
    simpa using hmem
  obtain ⟨-, -, hsum, -⟩ := shots_conserved {} "\x00" .listening twoFunctions hfew hnone
  rw [hshots] at hsum
  exact ⟨hshots, hdownloads, hidle, hsum⟩

end Chronicle

end RemoteShutter
