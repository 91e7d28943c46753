/-
The names of pictures.

A name is made from the number of its picture, and is read back as this number, however many digits it has. Only what
stands between its fixed ends counts, and that may be any spelling of the number.
- `number?_eq_some_iff`: the names that stand for a number are its spellings, and no others.
- `number?_ofNumber`: so the names of pictures are read back; `name_injective`: different pictures have different names.
- `spelled_eq_ofNumber_iff`: of all spellings the camera uses one.
- `number32?_eq_some_iff`: it does not matter if numbers are read into 32 bits.
- `isPicture_iff`, `pictureText_eq`: how a name reads, and what a file of the picture says.
- `isName_of_number?`: a name is a single part of a path, and none that has a meaning of its own.
- `number_of_placeIn`: so different pictures go to different places, whatever the folders.
- `has_ofNumber`: the camera has the pictures it has counted. `has_iff`: these it has under any spelling, and nothing else.
-/
import Mathlib.Tactic
import RemoteShutter.Camera.Basic
import RemoteShutter.Proofs.Files.Writes
import RemoteShutter.Proofs.Text.Numerals
import RemoteShutter.Proofs.Text.Utf8

namespace RemoteShutter

namespace Shot

/-! ## The ends of a name -/

theorem dropPrefix?_eq_some_iff {ps cs rest : List Char} : dropPrefix? ps cs = some rest ↔ cs = ps ++ rest := by
  induction ps generalizing cs with
  | nil => exact Option.some_inj
  | cons p ps ih =>
    cases cs with
    | nil => exact ⟨nofun, nofun⟩
    | cons c cs =>
      rw [dropPrefix?, List.cons_append, List.cons.injEq]
      split_ifs with hc
      · exact ih.trans ⟨fun h => ⟨hc.symm, h⟩, And.right⟩
      · exact ⟨nofun, fun h => absurd h.1.symm hc⟩

theorem dropSuffix?_eq_some_iff {suffix cs rest : List Char} :
    dropSuffix? suffix cs = some rest ↔ cs = rest ++ suffix := by
  rw [dropSuffix?, Option.map_eq_some_iff]
  constructor
  · rintro ⟨back, hback, rfl⟩
    rw [dropPrefix?_eq_some_iff] at hback
    rw [← List.reverse_reverse cs, hback, List.reverse_append, List.reverse_reverse]
  · rintro rfl
    exact ⟨rest.reverse, dropPrefix?_eq_some_iff.2 List.reverse_append, List.reverse_reverse rest⟩

/-- what stands in a name for the number -/
def middle? (s : Shot) : Option (List Char) :=
  if s.folder = cameraFolder then (dropPrefix? namePrefix s.name.toList).bind (dropSuffix? nameSuffix) else none

/-- the shot in the camera's folder whose name has `cs` between its ends -/
def around (cs : List Char) : Shot where
  folder := cameraFolder
  name := String.ofList (namePrefix ++ cs ++ nameSuffix)

theorem middle?_eq_some_iff {s : Shot} {cs : List Char} : s.middle? = some cs ↔ s = around cs := by
  unfold middle?
  split_ifs with hfolder
  · rw [Option.bind_eq_some_iff]
    constructor
    · rintro ⟨rest, hfront, hback⟩
      rw [dropPrefix?_eq_some_iff] at hfront
      rw [dropSuffix?_eq_some_iff] at hback
      have hname : s.name = String.ofList (namePrefix ++ cs ++ nameSuffix) := by
        rw [List.append_assoc, ← hback, ← hfront, String.ofList_toList]
      exact congrArg₂ Shot.mk hfolder hname
    · rintro rfl
      refine ⟨cs ++ nameSuffix, dropPrefix?_eq_some_iff.2 ?_, dropSuffix?_eq_some_iff.2 rfl⟩
      rw [around, String.toList_ofList, List.append_assoc]
  · constructor
    · nofun
    · rintro rfl
      exact absurd rfl hfolder

theorem number?_eq (s : Shot) : s.number? = s.middle?.bind Numeral.toNat? := by
  unfold number? middle?
  split_ifs
  · exact (Option.bind_assoc _ _ _).symm
  · rfl

/-! ## Spellings -/

/-- a picture under a name that spells its number in some way -/
def spelled (hasPlus : Bool) (zeros n : Nat) : Shot :=
  around (Numeral.spelled hasPlus zeros n)

theorem middle?_spelled (hasPlus : Bool) (zeros n : Nat) :
    (spelled hasPlus zeros n).middle? = some (Numeral.spelled hasPlus zeros n) :=
  middle?_eq_some_iff.2 rfl

/-- **A name stands for a number if it spells it.** -/
theorem number?_eq_some_iff {s : Shot} {n : Nat} : s.number? = some n ↔ ∃ hasPlus zeros, s = spelled hasPlus zeros n := by
  rw [number?_eq, Option.bind_eq_some_iff]
  constructor
  · rintro ⟨cs, hcs, hn⟩
    obtain ⟨hasPlus, zeros, rfl⟩ := Numeral.toNat?_eq_some_iff.1 hn
    exact ⟨hasPlus, zeros, middle?_eq_some_iff.1 hcs⟩
  · rintro ⟨hasPlus, zeros, rfl⟩
    exact ⟨_, middle?_spelled hasPlus zeros n, Numeral.toNat?_eq_some_iff.2 ⟨hasPlus, zeros, rfl⟩⟩

/-- the camera fills up with zeros to four digits -/
theorem ofNumber_eq (n : Nat) : ofNumber n = spelled false (4 - (Numeral.digits n).length) n := rfl

/-- **A picture is recognised by its name.** -/
theorem number?_ofNumber (n : Nat) : (ofNumber n).number? = some n :=
  number?_eq_some_iff.2 ⟨_, _, ofNumber_eq n⟩

theorem ofNumber_injective : Function.Injective ofNumber := by
  intro m n h
  have hnumber := congrArg number? h
  rw [number?_ofNumber, number?_ofNumber] at hnumber
  exact Option.some.inj hnumber

theorem name_injective {m n : Nat} (h : (ofNumber m).name = (ofNumber n).name) : m = n :=
  ofNumber_injective (congrArg (Shot.mk cameraFolder) h)

/-- the picture with a number lies in the camera's folder, under a name that says the number in four digits or more -/
structure IsPicture (s : Shot) (n : Nat) : Prop where
  folder : s.folder = "/store_00010001/DCIM/100CAMCT"
  name : s.name = "IMG_" ++ String.ofList (List.replicate (4 - (toString n).length) '0') ++ toString n ++ ".JPG"
  number : s.number? = some n

theorem isPicture_ofNumber (n : Nat) : (ofNumber n).IsPicture n where
  folder := rfl
  name := by
    apply String.toList_inj.1
    simp only [ofNumber, Numeral.padded, Numeral.digits_eq, String.toList_append, String.toList_ofList, String.length_toList,
      namePrefix, nameSuffix]
    simp
  number := number?_ofNumber n

theorem isPicture_iff {s : Shot} {n : Nat} : s.IsPicture n ↔ s = ofNumber n := by
  constructor
  · intro h
    have hthat := isPicture_ofNumber n
    exact congrArg₂ mk (h.folder.trans hthat.folder.symm) (h.name.trans hthat.name.symm)
  · rintro rfl
    exact isPicture_ofNumber n

/-- **The camera itself uses one spelling of each number.** -/
theorem spelled_eq_ofNumber_iff {hasPlus : Bool} {zeros m n : Nat} :
    spelled hasPlus zeros n = ofNumber m ↔ n = m ∧ hasPlus = false ∧ zeros = 4 - (Numeral.digits n).length := by
  constructor
  · intro h
    have hnumber : (spelled hasPlus zeros n).number? = some m := h ▸ number?_ofNumber m
    rw [number?_eq_some_iff.2 ⟨hasPlus, zeros, rfl⟩] at hnumber
    obtain rfl := Option.some.inj hnumber
    have hmiddle : (spelled hasPlus zeros n).middle? = some (Numeral.padded 4 n) := middle?_eq_some_iff.2 h
    rw [middle?_spelled, Numeral.padded_eq] at hmiddle
    exact ⟨rfl, Numeral.spelled_inj.1 (Option.some.inj hmiddle)⟩
  · rintro ⟨rfl, rfl, rfl⟩
    exact (ofNumber_eq n).symm

/-- the number of a picture as 32 bits can hold it -/
def number32? (s : Shot) : Option UInt32 :=
  s.middle?.bind Numeral.toUInt32?

theorem number32?_eq_some_iff {s : Shot} {w : UInt32} : s.number32? = some w ↔ s.number? = some w.toNat := by
  rw [number32?, number?_eq, Option.bind_eq_some_iff, Option.bind_eq_some_iff]
  simp only [Numeral.toUInt32?_eq_some_iff]

variable {s : Shot} {n : Nat}

/-- its text is its folder and its name with a slash between them -/
theorem text_eq (h : s.number? = some n) : s.text = s.folder ++ "/" ++ s.name := by
  have hslash : String.ofList (cameraFolder.toList.reverse.dropWhile (· = '/')).reverse = cameraFolder := by
    decide +kernel
  obtain ⟨hasPlus, zeros, rfl⟩ := number?_eq_some_iff.1 h
  exact congrArg (· ++ "/" ++ (spelled hasPlus zeros n).name) hslash

/-! ## Names as parts of paths -/

theorem toList_name_spelled (hasPlus : Bool) (zeros n : Nat) :
    (spelled hasPlus zeros n).name.toList = namePrefix ++ Numeral.spelled hasPlus zeros n ++ nameSuffix :=
  String.toList_ofList

/-- a name is one part of a path -/
theorem slash_notMem_name (h : s.number? = some n) : '/' ∉ s.name.toList := by
  obtain ⟨hasPlus, zeros, rfl⟩ := number?_eq_some_iff.1 h
  rw [toList_name_spelled, List.mem_append, List.mem_append]
  rintro ((hc | hc) | hc)
  · exact absurd hc (by decide)
  · rcases Numeral.mem_spelled hc with hplus | hdigit
    · exact absurd hplus (by decide)
    · exact absurd hdigit (by decide)
  · exact absurd hc (by decide)

/-- a name is not one that begins in another way -/
theorem name_ne (h : s.number? = some n) {other : String} (hother : other.toList.head? ≠ some 'I') : s.name ≠ other := by
  obtain ⟨hasPlus, zeros, rfl⟩ := number?_eq_some_iff.1 h
  rintro rfl
  rw [toList_name_spelled] at hother
  exact hother rfl

theorem isName_of_number? (h : s.number? = some n) : Path.IsName s.name where
  single := slash_notMem_name h
  named := by
    rw [FileTree.isUnnamed, Path.isIdle, decide_eq_false (name_ne h (by decide)), decide_eq_false (name_ne h (by decide)),
      decide_eq_false (name_ne h (by decide))]
    rfl

/-! ## Places -/

/-- where a picture is downloaded to -/
def placeIn (folder : String) (s : Shot) : Place :=
  FileTree.destination (Path.join folder s.name)

theorem last_placeIn (folder : String) (h : s.number? = some n) : (s.placeIn folder).parts.getLast? = some s.name :=
  FileTree.last_destination_join folder (isName_of_number? h)

theorem placeIn_ne_null_of_number? (folder : String) (h : s.number? = some n) : s.placeIn folder ≠ FileTree.nullDevice := by
  intro hnull
  have hlast := last_placeIn folder h
  rw [hnull] at hlast
  exact name_ne h (by decide) (Option.some.inj hlast).symm

theorem placeIn_ne_null (folder : String) (n : Nat) : (ofNumber n).placeIn folder ≠ FileTree.nullDevice :=
  placeIn_ne_null_of_number? folder (number?_ofNumber n)

/-- **Different pictures have different places**, in whatever folders. -/
theorem number_of_placeIn {folder folder' : String} {m n : Nat}
    (h : (ofNumber m).placeIn folder = (ofNumber n).placeIn folder') : m = n := by
  have hlast := last_placeIn folder (number?_ofNumber m)
  rw [h, last_placeIn folder' (number?_ofNumber n)] at hlast
  exact (name_injective (Option.some.inj hlast)).symm

end Shot

/-! ## What the camera has -/

/-- **The camera has what is a spelling of a number that it has counted.** -/
theorem Camera.has_iff {c : Camera} {s : Shot} :
    c.has s = true ↔ ∃ hasPlus zeros n, s = Shot.spelled hasPlus zeros n ∧ 1 ≤ n ∧ n ≤ c.shots.toNat := by
  rw [Camera.has]
  constructor
  · intro h
    split at h
    · next n hn =>
      obtain ⟨hasPlus, zeros, rfl⟩ := Shot.number?_eq_some_iff.1 hn
      rw [Bool.and_eq_true, decide_eq_true_eq, decide_eq_true_eq] at h
      exact ⟨hasPlus, zeros, n, rfl, h⟩
    · cases h
  · rintro ⟨hasPlus, zeros, n, rfl, hrange⟩
    rw [Shot.number?_eq_some_iff.2 ⟨hasPlus, zeros, rfl⟩]
    simpa only [Bool.and_eq_true, decide_eq_true_eq] using hrange

/-- **A downloaded picture is a line of text that says which it is.** -/
theorem Camera.pictureText_eq {s : Shot} {n : Nat} (h : s.number? = some n) :
    pictureText s = ("simulated picture " ++ s.folder ++ "/" ++ s.name ++ "\n").toUTF8.data.toList := by
  have htext : "simulated picture " ++ s.folder ++ "/" ++ s.name = "simulated picture " ++ s.text := by
    rw [Shot.text_eq h, String.append_assoc, String.append_assoc, String.append_assoc]
  rw [pictureText, Utf8.encode_toList, htext]
  rfl

theorem Camera.has_ofNumber {c : Camera} {n : Nat} (hpos : 1 ≤ n) (hle : n ≤ c.shots.toNat) :
    c.has (Shot.ofNumber n) = true :=
  Camera.has_iff.2 ⟨_, _, n, Shot.ofNumber_eq n, hpos, hle⟩

end RemoteShutter
