/-
What the camera counts.

`Takes c c' new` compares the counters of a camera before and after: `new` is the picture exposed meanwhile, if any. It
has the number after the last one, and one of the two kinds of captures counts it.
- `expose_cases`, `takes_fire`: a capture exposes one picture or leaves the camera as it was, and that in either mode
  and whatever becomes of the download.
- `takes_ensureReady`, `takes_reconnect`, `takes_suffer`, `takes_set`, `takes_downloadTo`: nothing else exposes.

`HasExposed c pictures` is what follows for a camera that was new at first: these are its pictures, numbered from one and
counted. The counts begin again after 2 ^ 32 pictures, and so do the numbers.
- `HasExposed.append`: a picture more is numbered and counted with the others.
- `HasExposed.toNat_shots`, `HasExposed.toNat_counted`, `HasExposed.eq_ofNumber`: while there are fewer, the camera counts
  them all, and each has its own number.
-/
import Mathlib.Tactic
import RemoteShutter.Shooting.Run

namespace RemoteShutter.Camera

/-- the picture that was exposed on the way from c to c', if any, has the next number and is counted once -/
structure Takes (c c' : Camera) (new : Option Shot) : Prop where
  shots : c'.shots = c.shots + .ofNat new.toList.length
  counted : ∃ m n, m + n = new.toList.length ∧ c'.captures = c.captures + .ofNat m ∧
    c'.remoteCaptures = c.remoteCaptures + .ofNat n
  named : ∀ shot, new = some shot → shot = Shot.ofNumber (c.shots + 1).toNat

variable {c c' : Camera} {shot : Shot}

theorem takes_none (hs : c'.shots = c.shots) (hc : c'.captures = c.captures) (hr : c'.remoteCaptures = c.remoteCaptures) :
    Takes c c' none :=
  ⟨by simp [hs], ⟨0, 0, rfl, by simp [hc], by simp [hr]⟩, fun _ h => by cases h⟩

theorem takes_none_iff : Takes c c' none ↔
    c'.shots = c.shots ∧ c'.captures = c.captures ∧ c'.remoteCaptures = c.remoteCaptures := by
  refine ⟨fun h => ?_, fun ⟨hs, hc, hr⟩ => takes_none hs hc hr⟩
  obtain ⟨m, n, hsum, hc, hr⟩ := h.counted
  obtain ⟨rfl, rfl⟩ : m = 0 ∧ n = 0 := Nat.add_eq_zero_iff.1 hsum
  exact ⟨by simpa using h.shots, by simpa using hc, by simpa using hr⟩

theorem Takes.refl (c : Camera) : Takes c c none :=
  takes_none rfl rfl rfl

theorem Takes.trans {c'' : Camera} (h : Takes c c' none) (h' : Takes c' c'' none) : Takes c c'' none := by
  obtain ⟨hs, hc, hr⟩ := takes_none_iff.1 h
  obtain ⟨hs', hc', hr'⟩ := takes_none_iff.1 h'
  exact takes_none (hs'.trans hs) (hc'.trans hc) (hr'.trans hr)

/-! ## Captures -/

/-- what a capture exposes if it goes through -/
def exposure? (c : Camera) : Option Shot :=
  c.expose.1.toOption

theorem expose_cases (c : Camera) : (∃ e, c.expose = (.error e, c)) ∨
    c.expose = (.ok (Shot.ofNumber (c.shots + 1).toNat), { c with shots := c.shots + 1 }) := by
  unfold expose
  split_ifs
  · exact .inl ⟨_, rfl⟩
  · exact .inl ⟨_, rfl⟩
  · exact .inr rfl

theorem exposure?_of_disconnected {c : Camera} (h : c.isConnected = false) : c.exposure? = none := by
  rw [exposure?, expose, if_pos (by rw [h]; rfl)]
  rfl

/-- a download changes the files and its own counter only -/
theorem takes_downloadTo (c : Camera) (files : FileTree) (s : Shot) (destination : String) :
    Takes c (c.downloadTo files s destination).2.1 none := by
  unfold downloadTo
  split_ifs
  · exact .refl c
  · exact .refl c
  · split
    · exact .refl c
    · exact takes_none rfl rfl rfl

/-- a delivery leaves what the download leaves -/
theorem delivered_some (c : Camera) (files : FileTree) (s : Shot) (folder : String) :
    (c.delivered files s (some folder)).2 = (c.download files s folder).2 := by
  simp only [delivered]
  rcases c.download files s folder with ⟨_ | _, c', files'⟩ <;> rfl

theorem takes_delivered (c : Camera) (files : FileTree) (s : Shot) (folder : Option String) :
    Takes c (c.delivered files s folder).2.1 none := by
  cases folder with
  | none => exact .refl c
  | some folder =>
    rw [delivered_some]
    exact takes_downloadTo c files s (Path.join folder s.name)

/-- **A capture exposes one picture or leaves the camera as it was**, in either mode. Without a folder it succeeds if it
exposes. -/
theorem takes_fire (c : Camera) (files : FileTree) (mode : ExposureMode) (folder : Option String) :
    Takes c (c.fire files mode folder).2.1 c.exposure? ∧
      (folder = none → (c.fire files mode folder).1.toOption = c.exposure?) := by
  have hcounted : ∀ {c₁ c₂ : Camera} {m n : Nat}, c₁.shots = c.shots + 1 → m + n = 1 →
      c₁.captures = c.captures + .ofNat m → c₁.remoteCaptures = c.remoteCaptures + .ofNat n → Takes c₁ c₂ none →
      Takes c c₂ (some (Shot.ofNumber (c.shots + 1).toNat)) := by
    intro c₁ c₂ m n hshots hone hcaptures hremote htakes
    obtain ⟨hs, hc, hr⟩ := takes_none_iff.1 htakes
    exact ⟨hs.trans hshots, ⟨m, n, hone, hc.trans hcaptures, hr.trans hremote⟩, fun s h => (Option.some.inj h).symm⟩
  unfold exposure?
  rcases c.expose_cases with ⟨e, he⟩ | he
  · cases mode with
    | bulb =>
      simp only [fire, remoteCapture, he]
      exact ⟨.refl c, fun _ => trivial⟩
    | fixed time =>
      simp only [fire, capture, he]
      exact ⟨.refl c, fun _ => trivial⟩
  · cases mode with
    | bulb =>
      simp only [fire, remoteCapture, he]
      refine ⟨hcounted (m := 0) (n := 1) rfl rfl (by simp) rfl (takes_delivered _ files _ folder), ?_⟩
      rintro rfl
      rfl
    | fixed time =>
      simp only [fire, capture, he]
      refine ⟨hcounted (m := 1) (n := 0) rfl rfl rfl (by simp) (takes_delivered _ files _ folder), ?_⟩
      rintro rfl
      rfl

/-! ## Everything else -/

theorem takes_connect (c : Camera) : Takes c c.connect.2.1 none := by
  unfold connect
  split_ifs
  · exact .refl c
  · exact takes_none rfl rfl rfl

theorem takes_disconnect (c : Camera) : Takes c c.disconnect none := by
  unfold disconnect
  split_ifs
  · exact takes_none rfl rfl rfl
  · exact .refl c

theorem takes_reconnect (c : Camera) : Takes c c.reconnect.2.1 none :=
  c.takes_disconnect.trans c.disconnect.takes_connect

/-- a check connects a camera that is not connected, and does nothing else to it -/
theorem ensureReady_camera (c : Camera) : c.ensureReady.2.1 = if c.isConnected then c else c.connect.2.1 := by
  unfold ensureReady
  cases c.isConnected with
  | false =>
    simp only [Bool.not_false, if_true, Bool.false_eq_true, if_false]
    rcases c.connect with ⟨_ | _, c', log⟩ <;> rfl
  | true => cases c.isResponsive <;> rfl

theorem takes_ensureReady (c : Camera) : Takes c c.ensureReady.2.1 none := by
  rw [ensureReady_camera]
  split_ifs
  · exact .refl c
  · exact c.takes_connect

theorem takes_suffer (c : Camera) (f : Fault) : Takes c (c.suffer f) none := by
  cases f <;> exact takes_none rfl rfl rfl

theorem takes_set (c : Camera) (name value : String) : Takes c (c.set name value).2.1 none := by
  unfold set
  split_ifs
  · exact .refl c
  · exact takes_none rfl rfl rfl
  · exact .refl c

/-! ## Whole histories -/

/-- these are all pictures that the camera has exposed, in their order -/
structure HasExposed (c : Camera) (pictures : List Shot) : Prop where
  shots : c.shots = .ofNat pictures.length
  counted : ∃ m n, m + n = pictures.length ∧ c.captures = .ofNat m ∧ c.remoteCaptures = .ofNat n
  named : ∀ i s, pictures[i]? = some s → s = Shot.ofNumber (UInt32.ofNat (i + 1)).toNat

variable {pictures : List Shot} {new : Option Shot}

theorem HasExposed.append (h : HasExposed c pictures) (ht : Takes c c' new) : HasExposed c' (pictures ++ new.toList) := by
  refine ⟨?_, ?_, fun i s hi => ?_⟩
  · rw [ht.shots, h.shots, List.length_append, UInt32.ofNat_add]
  · obtain ⟨m, n, hsum, hcaptures, hremote⟩ := h.counted
    obtain ⟨m', n', hmore, hcaptures', hremote'⟩ := ht.counted
    refine ⟨m + m', n + n', by rw [List.length_append]; omega, ?_, ?_⟩
    · rw [hcaptures', hcaptures, UInt32.ofNat_add]
    · rw [hremote', hremote, UInt32.ofNat_add]
  · rcases Nat.lt_or_ge i pictures.length with hlt | hge
    · rw [List.getElem?_append_left hlt] at hi
      exact h.named i s hi
    · rw [List.getElem?_append_right hge] at hi
      cases new with
      | none => simp at hi
      | some new =>
        rw [Option.toList_some, List.getElem?_singleton] at hi
        split_ifs at hi with hlast
        obtain rfl := Option.some.inj hi
        rw [ht.named new rfl, h.shots, show i = pictures.length by omega, UInt32.ofNat_add]
        rfl

/-- what exposes nothing changes nothing in that -/
theorem HasExposed.of_takes (h : HasExposed c pictures) (ht : Takes c c' none) : HasExposed c' pictures := by
  have hsame := h.append ht
  rwa [Option.toList_none, List.append_nil] at hsame

theorem HasExposed.toNat_shots (h : HasExposed c pictures) (hfew : pictures.length < 2 ^ 32) :
    c.shots.toNat = pictures.length := by
  rw [h.shots]
  exact UInt32.toNat_ofNat_of_lt' hfew

/-- each picture is counted among those of its kind -/
theorem HasExposed.toNat_counted (h : HasExposed c pictures) (hfew : pictures.length < 2 ^ 32) :
    c.captures.toNat + c.remoteCaptures.toNat = pictures.length := by
  obtain ⟨m, n, hsum, hcaptures, hremote⟩ := h.counted
  have hm : (UInt32.ofNat m).toNat = m := UInt32.toNat_ofNat_of_lt' (by simp only [UInt32.size]; omega)
  have hn : (UInt32.ofNat n).toNat = n := UInt32.toNat_ofNat_of_lt' (by simp only [UInt32.size]; omega)
  rw [hcaptures, hremote, hm, hn, hsum]

theorem HasExposed.eq_ofNumber (h : HasExposed c pictures) {i : Nat} (hfew : i + 1 < 2 ^ 32) (hi : pictures[i]? = some shot) :
    shot = Shot.ofNumber (i + 1) := by
  rw [h.named i shot hi, UInt32.toNat_ofNat_of_lt' hfew]

end RemoteShutter.Camera

namespace RemoteShutter.Studio

theorem takes_fetch (s : Studio) (shot : Option Shot) (folder : String) :
    s.camera.Takes (s.fetch shot folder).2.camera none := by
  cases shot with
  | none => exact .refl _
  | some shot =>
    have hdownload := s.camera.takes_downloadTo s.files shot (Path.join folder shot.name)
    unfold fetch Camera.download
    dsimp only
    split
    · next h => rw [h] at hdownload; exact hdownload
    · next h => rw [h] at hdownload; exact hdownload

theorem takes_fire (s : Studio) (exposure : UInt32) (mode : ExposureMode) (folder : Option String) :
    s.camera.Takes (s.fire exposure mode folder).2.camera s.camera.exposure? ∧
      (folder = none → (s.fire exposure mode folder).1.toOption = s.camera.exposure?) :=
  s.camera.takes_fire s.files mode folder

end RemoteShutter.Studio
