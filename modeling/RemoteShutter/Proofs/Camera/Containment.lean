/-
Where a download may write.

A download is asked for by a name that anyone can make up, and the path to write to is made from it before the name is
looked at. What keeps the write in its folder is that the camera has no picture under a name that leads anywhere else.
- `isName_of_has`: a name under which the camera has a picture is one part of a path.
- `written_below`: so a write to it creates or replaces the file of that name in the folder, and changes nothing else.
- `download_stays_in_folder`: a download does just that, or fails for one of three reasons and changes nothing at all.
-/
import Mathlib.Tactic
import RemoteShutter.Proofs.Camera.Handling
import RemoteShutter.Proofs.Camera.Names

namespace RemoteShutter

namespace FileTree

variable {t t' : FileTree} {name : String} {content : Bytes}

/-- what a write to a name in a folder changes: the file of that name, which is created or replaced -/
structure WrittenBelow (t t' : FileTree) (folder : Place) (name : String) (content : Bytes) (isPrivate : Bool) : Prop where
  inFolder : t.entry? folder = some .folder
  before : t.entry? (folder.below name) = none ∧ isPrivate = false ∨
    ∃ old, t.entry? (folder.below name) = some (.file old isPrivate)
  after : t'.entry? (folder.below name) = some (.file content isPrivate)
  others : ∀ q ≠ folder.below name, t'.entry? q = t.entry? q

/-- **A write to a name in a folder changes the file of that name.** -/
theorem written_below {up : String} (hname : Path.IsName name) (hnull : (destination up).below name ≠ nullDevice)
    (h : t.write (Path.join up name) content = .ok t') :
    ∃ isPrivate, WrittenBelow t t' (destination up) name content isPrivate := by
  obtain ⟨folder, last, isPrivate, hlocate, -, -, hbefore, hput⟩ := write_cases h
  rw [destination_join up hname] at hbefore hput
  have hnofolder : t.entry? ((destination up).below name) ≠ some .folder := by
    rcases hbefore with ⟨hnone, -⟩ | ⟨old, hold⟩
    · rw [hnone]
      nofun
    · rw [hold]
      nofun
  refine ⟨isPrivate, (folder_of_locate hname hlocate).2, hbefore, ?_, ?_⟩
  · rw [hput, entry_put hnofolder hnull, if_pos rfl]
  · intro q hq
    rw [hput, entry_put hnofolder hnull, if_neg hq]

end FileTree

namespace Camera

variable {c : Camera} {s : Shot}

theorem number?_of_has (h : c.has s = true) : ∃ n, s.number? = some n := by
  obtain ⟨hasPlus, zeros, n, hs, -⟩ := has_iff.1 h
  exact ⟨n, Shot.number?_eq_some_iff.2 ⟨hasPlus, zeros, hs⟩⟩

/-- a name that the camera knows is one part of a path -/
theorem isName_of_has (h : c.has s = true) : Path.IsName s.name := by
  obtain ⟨n, hn⟩ := number?_of_has h
  exact Shot.isName_of_number? hn

/-- a name that the camera knows is not that of a device -/
theorem below_ne_null (h : c.has s = true) (up : String) : (FileTree.destination up).below s.name ≠ FileTree.nullDevice := by
  obtain ⟨n, hn⟩ := number?_of_has h
  rw [← FileTree.destination_join up (isName_of_has h)]
  exact Shot.placeIn_ne_null_of_number? up hn

/-- **A download touches one file, and that in its folder.** Take any camera, any files, any shot and any folder; the name
of the shot may have slashes in it, lead upwards or begin at the root. Either the download succeeds. Then the name has no
slash; the folder is there, and the file of this name directly in it is created, or replaced if there was one, and can be
read back; nothing is changed in any other place; and the camera has counted one download more and is otherwise as it was.
Or it fails: the camera is not connected, has no such picture, or the file cannot be written. Then the camera and all files
are as they were. -/
theorem download_stays_in_folder (c : Camera) (files : FileTree) (s : Shot) (up : String) :
    (∃ files' isPrivate,
        c.download files s up = (.ok (), c.withDownloads (c.downloads + 1), files') ∧ '/' ∉ s.name.toList ∧
          FileTree.WrittenBelow files files' (FileTree.destination up) s.name (pictureText s) isPrivate ∧
          files'.read (Path.join up s.name) = .ok (pictureText s)) ∨
      ∃ e, c.download files s up = (.error e, c, files) ∧
        (c.isConnected = false ∧ e = .notConnected ∨
          c.isConnected = true ∧ c.has s = false ∧ e = .download s.text (Path.join up s.name) .unknownPicture ∨
          c.isConnected = true ∧ c.has s = true ∧ ∃ fault,
            files.write (Path.join up s.name) (pictureText s) = .error fault ∧
              e = .download s.text (Path.join up s.name) (.file fault)) := by
  unfold download
  cases hconnected : c.isConnected with
  | false => exact .inr ⟨_, downloadTo_of_disconnected hconnected files s _, .inl ⟨rfl, rfl⟩⟩
  | true =>
    cases hhas : c.has s with
    | false => exact .inr ⟨_, downloadTo_of_unknown hconnected hhas files _, .inr (.inl ⟨rfl, rfl, rfl⟩)⟩
    | true =>
      rw [downloadTo_of_has hconnected hhas]
      cases hwrite : files.write (Path.join up s.name) (pictureText s) with
      | error fault => exact .inr ⟨_, rfl, .inr (.inr ⟨rfl, rfl, fault, rfl, rfl⟩)⟩
      | ok files' =>
        have hname := isName_of_has hhas
        have hnull := below_ne_null hhas up
        obtain ⟨isPrivate, hwritten⟩ := FileTree.written_below hname hnull hwrite
        rw [← FileTree.destination_join up hname] at hnull
        exact .inl ⟨files', isPrivate, rfl, hname.single, hwritten, FileTree.read_of_write hwrite hnull⟩

example : (Camera.has { shots := 1 } ⟨Shot.cameraFolder, "../IMG_0001.JPG"⟩, Camera.has { shots := 1 } (.ofNumber 1)) =
    (false, true) := by decide +kernel

end Camera

end RemoteShutter
