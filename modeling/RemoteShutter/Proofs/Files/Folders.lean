/-
What making folders changes, and what leaving a file to its owner does.

- `keepsFiles_createFolders`: whether all folders of a path can be made or not, no file is lost, changed or made.
- `write_of_write`: whether a file can be written does not depend on what is written.
- `read_keepPrivate`: a file that is left to its owner is read as before.
-/
import RemoteShutter.Proofs.Files.Writes

namespace RemoteShutter.FileTree

variable {t t' u : FileTree} {path : String} {content content' : Bytes} {p q : Place}

/-- two trees have the same files -/
def KeepsFiles (t t' : FileTree) : Prop :=
  ∀ q content isPrivate, t'.entry? q = some (.file content isPrivate) ↔ t.entry? q = some (.file content isPrivate)

theorem KeepsFiles.refl (t : FileTree) : KeepsFiles t t :=
  fun _ _ _ => Iff.rfl

theorem KeepsFiles.trans (h : KeepsFiles t t') (h' : KeepsFiles t' u) : KeepsFiles t u :=
  fun q content isPrivate => (h' q content isPrivate).trans (h q content isPrivate)

/-- a folder in a free place is no file -/
theorem keepsFiles_put (hfree : t.entry? p = none) : KeepsFiles t (t.put p .folder) := by
  intro q content isPrivate
  have hnull : p ≠ nullDevice := by
    rintro rfl
    cases hfree
  rw [entry_put (by rw [hfree]; nofun) hnull]
  split_ifs with hq
  · rw [hq, hfree]
    exact ⟨nofun, nofun⟩
  · exact Iff.rfl

theorem keepsFiles_makeFolder (h : t.makeFolder path = .ok t') : KeepsFiles t t' := by
  unfold makeFolder at h
  cases hlocate : t.locate path with
  | error e =>
    rw [hlocate] at h
    cases h
  | ok found =>
    rw [hlocate] at h
    simp only [bind, Except.bind, pure, Except.pure, throw, throwThe, MonadExceptOf.throw, place] at h
    split_ifs at h
    dsimp only at h
    split at h
    · cases h
    · next hfree =>
      obtain rfl := Except.ok.inj h
      exact keepsFiles_put hfree

theorem keepsFiles_ensureFolder (h : t.ensureFolder path = .ok t') : KeepsFiles t t' := by
  unfold ensureFolder at h
  split at h
  · split_ifs at h
    obtain rfl := Except.ok.inj h
    exact .refl t
  · exact keepsFiles_makeFolder h

theorem keepsFiles_ensureHighest {left left' paths : List String} (h : t.ensureHighest left paths = .ok (t', left')) :
    KeepsFiles t t' := by
  induction paths generalizing left with
  | nil =>
    obtain ⟨rfl, -⟩ := Prod.mk.inj (Except.ok.inj h)
    exact .refl t
  | cons path above ih =>
    rw [ensureHighest] at h
    split at h
    · next hmade =>
      obtain ⟨rfl, -⟩ := Prod.mk.inj (Except.ok.inj h)
      exact keepsFiles_ensureFolder hmade
    · exact ih h
    · cases h

theorem keepsFiles_ensureAll (t : FileTree) (paths : List String) : KeepsFiles t (t.ensureAll paths).2 := by
  induction paths generalizing t with
  | nil => exact .refl t
  | cons path rest ih =>
    rw [ensureAll]
    split
    · next made hmade => exact (keepsFiles_ensureFolder hmade).trans (ih made)
    · exact .refl t

/-- **Making folders changes no file**, whether all of them can be made or not. -/
theorem keepsFiles_createFolders (t : FileTree) (path : String) : KeepsFiles t (t.createFolders path).2 := by
  rw [createFolders]
  split
  · next made left hmade => exact (keepsFiles_ensureHighest hmade).trans (keepsFiles_ensureAll made left)
  · exact .refl t

/-! ## Files -/

/-- a file can be written at a path, once the folders above it have been made -/
def IsWritable (t : FileTree) (path : String) : Prop :=
  ∃ made content t', t.createFolders ((Path.parent? path).getD "") = (.ok (), made) ∧ made.write path content = .ok t'

/-- whether a file can be written does not depend on what is written -/
theorem write_of_write (h : t.write path content = .ok t') (content' : Bytes) : ∃ u, t.write path content' = .ok u := by
  unfold write at h ⊢
  cases hlocate : t.locate path with
  | error e =>
    rw [hlocate] at h
    cases h
  | ok found =>
    rw [hlocate] at h
    simp only [bind, Except.bind, pure, Except.pure, throw, throwThe, MonadExceptOf.throw, place] at h ⊢
    split_ifs at h ⊢ with hplain hlong
    dsimp only at h ⊢
    split at h
    · cases h
    · exact ⟨_, rfl⟩
    · exact ⟨_, rfl⟩

/-- a file that can be read is found where the path leads -/
theorem find_of_read (h : t.read path = .ok content) :
    ∃ isPrivate, t.find path = .ok (destination path, .file content isPrivate) := by
  obtain ⟨folder, last, isPrivate, hlocate, hends, hshort, hentry⟩ := read_eq_ok_iff.1 h
  refine ⟨isPrivate, ?_⟩
  have hplace : place folder last = .ok (destination path) := by
    rw [place, if_neg (Nat.not_lt.2 hshort), follow_of_locate hlocate]
  simp only [find, hlocate, hplace, hentry, hends, bind, Except.bind, Bool.false_and]
  rfl

theorem contains_of_read (h : t.read path = .ok content) : t.contains path = true := by
  obtain ⟨isPrivate, hfind⟩ := find_of_read h
  rw [contains, hfind]
  rfl

/-- **A file that is left to its owner is read as before.** -/
theorem read_keepPrivate (h : t.read path = .ok content) : (t.keepPrivate path).read path = .ok content := by
  obtain ⟨isPrivate, hfind⟩ := find_of_read h
  obtain ⟨folder, last, isPrivate, hlocate, hends, hshort, hentry⟩ := read_eq_ok_iff.1 h
  have hkeep : t.keepPrivate path = t.put (destination path) (.file content true) := by
    rw [keepPrivate, hfind]
  rw [hkeep]
  by_cases hnull : destination path = nullDevice
  · rw [put, if_pos hnull]
    exact h
  · have hfile : t.entry? (destination path) ≠ some .folder := by
      rw [hentry]
      intro hfolder
      cases hfolder
    refine read_eq_ok_iff.2 ⟨folder, last, true, (keepsFolders_put hfile hnull _).locate hlocate, hends, hshort, ?_⟩
    rw [entry_put hfile hnull, if_pos rfl]

end RemoteShutter.FileTree
