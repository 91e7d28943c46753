/-
Downloads do not interfere with exposures.

Two runs of one plan start from the same camera. Whatever becomes of their downloads, the files and the clock, the
attempts of one are those of the other as long as the same ones fail.
- `outcome_cases`: a capture takes the picture with the next number, or the run has failed with it.
- `comparable`: so one of two runs has made the attempts of the other, and perhaps more.
- `length_le`: it has made no more if both are over and were stopped at the same check.
- `downloads_do_not_interfere`: then everything is the same but the downloads.
-/
import Mathlib.Tactic
import RemoteShutter.Proofs.Run.Logbook

namespace RemoteShutter

namespace RunHistory

/-- what went wrong with a capture, if anything did -/
def fault? : Except CameraError Shot → Option CameraError
  | .ok _ => none
  | .error e => some e

/-- of two runs, the captures that both have made fail alike -/
def SameFaults (h h' : RunHistory) : Prop :=
  ∀ (k : Nat) (a b : Except CameraError Shot), h.outcomes[k]? = some a → h'.outcomes[k]? = some b → fault? a = fault? b

theorem SameFaults.symm {h h' : RunHistory} (hs : SameFaults h h') : SameFaults h' h :=
  fun k a b ha hb => (hs k b a hb ha).symm

end RunHistory

namespace Logbook

variable {plan : Plan} {folder folder' : String} {camera : Camera} {t u : Logbook} {p q : RunPoint}

/-! ## One run -/

theorem length_outcomes (h : Keeps plan folder camera t p) :
    t.history.outcomes.length = (pictures t.attempts).length + p.failures.length := by
  rw [outcomes_eq h, List.length_append, List.length_map, List.length_map]

/-- the pictures bear the numbers that come next -/
theorem outcome_of_picture (h : Keeps plan folder camera t p) {k : Nat} (hk : k < (pictures t.attempts).length) :
    t.history.outcomes[k]? = some (.ok (camera.shotAfter k)) := by
  have hnamed := congrArg (fun shots => shots[k]?) h.shows.named
  simp only [List.getElem?_map, List.getElem?_range hk, Option.map_some] at hnamed
  rw [outcomes_eq h, List.getElem?_append_left (by rwa [List.length_map]), List.getElem?_map]
  simpa using hnamed

/-- a run that has failed has done so behind its last picture -/
theorem outcome_of_failed {e : CameraError} (h : Keeps plan folder camera t (.leave (.failed e))) :
    t.history.outcomes.length = (pictures t.attempts).length + 1 ∧
      t.history.outcomes[(pictures t.attempts).length]? = some (.error e) := by
  refine ⟨length_outcomes h, ?_⟩
  rw [outcomes_eq h, List.getElem?_append_right (by rw [List.length_map]), List.length_map, Nat.sub_self]
  rfl

/-- **A capture takes the picture with the next number, or it is the last and the run has failed with it.** -/
theorem outcome_cases (h : Keeps plan folder camera t p) {k : Nat} (hk : k < t.history.outcomes.length) :
    t.history.outcomes[k]? = some (.ok (camera.shotAfter k)) ∨
      ∃ e, t.history.outcomes[k]? = some (.error e) ∧ t.history.outcomes.length = k + 1 := by
  rcases Nat.lt_or_ge k (pictures t.attempts).length with hlt | hge
  · exact .inl (outcome_of_picture h hlt)
  · rw [length_outcomes h] at hk
    have hnone : p.failures ≠ [] := fun hp => by
      rw [hp, List.length_nil] at hk
      omega
    obtain ⟨e, rfl⟩ : ∃ e, p = .leave (.failed e) := by
      cases p with
      | leave r =>
        cases r with
        | failed e => exact ⟨e, rfl⟩
        | _ => exact absurd rfl hnone
      | _ => exact absurd rfl hnone
    obtain ⟨hlength, hlast⟩ := outcome_of_failed h
    obtain rfl : k = (pictures t.attempts).length := Nat.le_antisymm (Nat.lt_succ_iff.1 hk) hge
    exact .inr ⟨e, hlast, hlength⟩

/-! ## Two runs -/

/-- captures that both have made went alike -/
theorem outcome_eq (ht : Keeps plan folder camera t p) (hu : Keeps plan folder' camera u q)
    (hfaults : t.history.SameFaults u.history) {k : Nat} (hkt : k < t.history.outcomes.length)
    (hku : k < u.history.outcomes.length) : t.history.outcomes[k]? = u.history.outcomes[k]? := by
  rcases outcome_cases ht hkt with hok | ⟨e, he, -⟩
  · rcases outcome_cases hu hku with hok' | ⟨e', he', -⟩
    · rw [hok, hok']
    · cases hfaults k _ _ hok he'
  · rcases outcome_cases hu hku with hok' | ⟨e', he', -⟩
    · cases hfaults k _ _ he hok'
    · rw [he, he', Option.some.inj (hfaults k _ _ he he')]

theorem comparable (ht : Keeps plan folder camera t p) (hu : Keeps plan folder' camera u q)
    (hfaults : t.history.SameFaults u.history) (hle : t.history.outcomes.length ≤ u.history.outcomes.length) :
    t.history.outcomes <+: u.history.outcomes := by
  rw [List.prefix_iff_getElem?]
  intro k hk
  rw [← outcome_eq ht hu hfaults hk (hk.trans_le hle), List.getElem?_eq_getElem hk]

/-- **A run that is over has made as many captures as any other that was stopped at the same check.** -/
theorem length_le {r : RunEnd} (ht : Keeps plan folder camera t (.leave r)) (hu : Keeps plan folder' camera u q)
    (hfaults : t.history.SameFaults u.history) (hstopped : t.stopped = u.stopped) :
    u.history.outcomes.length ≤ t.history.outcomes.length := by
  by_contra hlt
  rw [Nat.not_le] at hlt
  cases r with
  | complete =>
    -- another capture was due in the one run, and none in the other
    have hlength : t.history.outcomes.length = (pictures t.attempts).length := length_outcomes ht
    have hdone := ht.course.complete rfl
    have hdue := hu.course.due t.history.outcomes.length (by
      rw [hu.outcomes, List.length_map] at hlt
      omega)
    rw [hlength, hdone] at hdue
    cases hdue
  | aborted =>
    -- the other run has seen the signal too, and no attempt came after that
    have hseen := ht.stopped
    rw [if_pos rfl, hstopped, hu.stopped] at hseen
    split_ifs at hseen
    have hsame := Option.some.inj hseen
    rw [ht.outcomes, hu.outcomes, List.length_map, List.length_map] at hlt
    omega
  | failed e =>
    -- the failure would be in the middle of the other run
    obtain ⟨hlength, hlast⟩ := outcome_of_failed ht
    have hk : (pictures t.attempts).length < t.history.outcomes.length := by omega
    rw [outcome_eq ht hu hfaults hk (hk.trans hlt)] at hlast
    rcases outcome_cases hu (hk.trans hlt) with hok | ⟨-, -, hend⟩
    · rw [hok] at hlast
      cases hlast
    · omega

theorem outcomes_same {r r' : RunEnd} (ht : Keeps plan folder camera t (.leave r))
    (hu : Keeps plan folder' camera u (.leave r')) (hfaults : t.history.SameFaults u.history)
    (hstopped : t.stopped = u.stopped) : t.history.outcomes = u.history.outcomes := by
  have hle := length_le hu ht hfaults.symm hstopped.symm
  have hge := length_le ht hu hfaults hstopped
  exact (comparable ht hu hfaults hle).eq_of_length (Nat.le_antisymm hle hge)

theorem attempt_of_picture (h : Keeps plan folder camera t p) {k : Nat} {picture : Picture}
    (hk : (pictures t.attempts)[k]? = some picture) : t.attempts[k]? = some (.ok picture) := by
  have hlt := (List.getElem?_eq_some_iff.1 hk).1
  have hall := congrArg (fun as => as[k]?) h.course.attempts
  rw [List.getElem?_append_left (by rwa [List.length_map]), List.getElem?_map, hk] at hall
  exact hall

/-- what was taken and what was done to the camera tells the pictures, with their modes -/
theorem pictures_eq (h : Keeps plan folder camera t p) : pictures t.attempts =
    (List.range (pictures t.attempts).length).map fun k =>
      ⟨camera.shotAfter k, camera.modeAfter t.handled k⟩ := by
  apply List.ext_getElem
  · rw [List.length_map, List.length_range]
  · intro k hk _
    have hmode := h.shows.modes k _ (attempt_of_picture h (List.getElem?_eq_getElem hk))
    have hshot := congrArg (fun shots => shots[k]?) h.shows.named
    simp only [List.getElem?_map, List.getElem?_range hk, List.getElem?_eq_getElem hk, Option.map_some,
      Option.some.injEq] at hshot
    rw [List.getElem_map, List.getElem_range, ← hmode, ← hshot]

/-- the failures and the check that saw the signal tell why a run has ended -/
theorem reason_unique {r r' : RunEnd} (hfailures : (RunPoint.leave r).failures = (RunPoint.leave r').failures)
    (haborted : r = .aborted ↔ r' = .aborted) : r = r' := by
  cases r <;> cases r' <;> simp_all [RunPoint.failures]

/-- **Downloads have no part in the exposures.** Two functions with one plan are started with equal cameras. Their runs
may differ in the download flag and its changes, in the folder, in the files and the clock, so in which downloads are
made and which of them fail. Let captures that both have made fail alike. Then one of them has the captures of the
other and perhaps more. If both are over, and the signal was seen by the same check or by none, they have made the same
captures with the same outcomes and have ended for the same reason, with the same count and the same last shot. And if
others have done the same to the cameras, these are the same too but for their counts of downloads. -/
theorem downloads_do_not_interfere (plan : Plan) (camera : Camera) (folder folder' : String) (downloads downloads' : Bool)
    (files files' : FileTree) (clock clock' : Nat) (es es' : List Event)
    (hfaults : ((start plan folder downloads ⟨camera, files, clock⟩).steps es).history.SameFaults
      ((start plan folder' downloads' ⟨camera, files', clock'⟩).steps es').history) :
    let t := (start plan folder downloads ⟨camera, files, clock⟩).steps es
    let u := (start plan folder' downloads' ⟨camera, files', clock'⟩).steps es'
    (t.history.outcomes <+: u.history.outcomes ∨ u.history.outcomes <+: t.history.outcomes) ∧
      (t.history.function.run = none → u.history.function.run = none → t.stopped = u.stopped →
        t.history.outcomes = u.history.outcomes ∧ t.history.begun = u.history.begun ∧
          (∃ r, t.ended = some r ∧ u.ended = some r) ∧
          t.history.function.life.stats.exposures = u.history.function.life.stats.exposures ∧
          t.history.function.life.lastShot = u.history.function.life.lastShot ∧
          (t.handled = u.handled → t.attempts = u.attempts ∧
            t.history.studio.camera = u.history.studio.camera.withDownloads t.history.studio.camera.downloads)) := by
  intro t u
  obtain ⟨p, ht⟩ := keeps_steps plan folder downloads ⟨camera, files, clock⟩ es
  obtain ⟨q, hu⟩ := keeps_steps plan folder' downloads' ⟨camera, files', clock'⟩ es'
  refine ⟨?_, ?_⟩
  · rcases Nat.le_total t.history.outcomes.length u.history.outcomes.length with hle | hle
    · exact .inl (comparable ht hu hfaults hle)
    · exact .inr (comparable hu ht hfaults.symm hle)
  · intro hover hover' hstopped
    obtain ⟨r, rfl, hended⟩ := ht.over hover
    obtain ⟨r', rfl, hended'⟩ := hu.over hover'
    have houtcomes := outcomes_same ht hu hfaults hstopped
    have hshots : t.history.shots = u.history.shots := by rw [RunHistory.shots, houtcomes, RunHistory.shots]
    have hlength : (pictures t.attempts).length = (pictures u.attempts).length := by
      have hlengths := congrArg List.length hshots
      rwa [shots_eq ht, shots_eq hu, List.length_map, List.length_map] at hlengths
    have hfailures : (RunPoint.leave r).failures = (RunPoint.leave r').failures := by
      have hall := houtcomes
      rw [outcomes_eq ht, outcomes_eq hu] at hall
      have hbehind := (List.append_inj hall (by rw [List.length_map, List.length_map, hlength])).2
      exact List.map_injective_iff.2 (fun _ _ h => Except.error.inj h) hbehind
    have haborted : r = .aborted ↔ r' = .aborted := by
      have hseen := ht.stopped
      rw [hstopped, hu.stopped] at hseen
      by_cases hr : r = .aborted <;> by_cases hr' : r' = .aborted <;> simp [hr, hr'] at hseen ⊢
    obtain rfl := reason_unique hfailures haborted
    refine ⟨houtcomes, ?_, ⟨r, hended, hended'⟩, ?_, ?_, ?_⟩
    · have hattempts := congrArg List.length houtcomes
      rw [ht.outcomes, hu.outcomes, List.length_map, List.length_map] at hattempts
      rw [ht.begun, hu.begun, hattempts]
    · have hcount := ht.course.exposures
      rw [hlength, ← hu.course.exposures] at hcount
      exact (UInt32.add_left_inj _).1 hcount
    · have hlast := ht.course.lastShot
      rw [← shots_eq ht, hshots, shots_eq hu, ← hu.course.lastShot] at hlast
      exact hlast
    · intro hhandled
      have hpictures : pictures t.attempts = pictures u.attempts := by
        rw [pictures_eq ht, pictures_eq hu, hlength, hhandled]
      obtain ⟨n, hn⟩ := ht.shows.after
      obtain ⟨n', hn'⟩ := hu.shows.after
      refine ⟨?_, ?_⟩
      · rw [ht.course.attempts, hu.course.attempts, hpictures]
      · rw [hn, hn', hpictures, hhandled]
        rfl

/-- a run of two pictures whose downloads both fail -/
def thwarted : Logbook :=
  (start (.sequencer ⟨.limited 2, 1000⟩) "\x00" true ⟨{ isConnected := true }, {}, 0⟩).steps (List.replicate 16 .step)

/-- the same with downloads from the second picture on, and a folder for them -/
def toggled : Logbook :=
  (start (.sequencer ⟨.limited 2, 1000⟩) "" false ⟨{ isConnected := true }, {}, 500⟩).steps
    (List.replicate 6 .step ++ .setDownloads true :: List.replicate 9 .step)

theorem downloads_do_not_interfere_toggled :
    thwarted.history.SameFaults toggled.history ∧ thwarted.fetches.map (fun f => f.2.toOption) = [none, none] ∧
      toggled.fetches.map (fun f => f.2.toOption) = [some ()] ∧
      (∃ r, thwarted.ended = some r ∧ toggled.ended = some r) ∧ thwarted.attempts = toggled.attempts ∧
      thwarted.history.studio.camera =
        toggled.history.studio.camera.withDownloads thwarted.history.studio.camera.downloads := by
  have houtcomes : thwarted.history.outcomes = toggled.history.outcomes := by decide +kernel
  have hfaults : thwarted.history.SameFaults toggled.history := by
    intro k a b ha hb
    rw [houtcomes, hb] at ha
    rw [Option.some.inj ha]
  have hover : thwarted.history.function.run = none := by decide +kernel
  have hover' : toggled.history.function.run = none := by decide +kernel
  have hsame : thwarted.stopped = toggled.stopped ∧ thwarted.handled = toggled.handled := by decide +kernel
  have hfetches : thwarted.fetches.map (fun f => f.2.toOption) = [none, none] ∧
      toggled.fetches.map (fun f => f.2.toOption) = [some ()] := by decide +kernel
  unfold thwarted toggled at *
  obtain ⟨-, hboth⟩ := downloads_do_not_interfere _ _ _ _ _ _ _ _ _ _ _ _ hfaults
  obtain ⟨-, -, hended, -, -, hcamera⟩ := hboth hover hover' hsame.1
  obtain ⟨hattempts, hcamera⟩ := hcamera hsame.2
  exact ⟨hfaults, hfetches.1, hfetches.2, hended, hattempts, hcamera⟩

end Logbook

end RemoteShutter
