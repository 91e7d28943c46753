/-
What a write changes.

A path says by itself where it leads; the tree only decides whether one gets there.
- `destination`: where a path leads. `follow_of_locate`: a path that can be walked leads there.
- `destination_join`: a name in a folder leads directly below where the folder leads. `folder_of_locate`: and one gets
  there only if that is a folder.
- `write_cases`: a write that goes through puts a file where the path leads, a new one or in the place of a file.
- `read_of_write`, `read_of_write_other`, `entry_of_write_other`: it is read back, and all else stays as it was.
- `last_destination_join`: a name below a folder is the last part of where it leads, so different names lead to
  different places, whatever the folders.
-/
import Mathlib.Tactic
import RemoteShutter.Files.Tree

namespace RemoteShutter

/-! ## Where paths lead -/

namespace Path

/-- a name that is one part of a path, and no other word for a folder -/
structure IsName (name : String) : Prop where
  single : '/' ∉ name.toList
  named : FileTree.isUnnamed name = false

variable {name : String}

theorem IsName.toList_ne_nil (h : IsName name) : name.toList ≠ [] := by
  intro hnil
  obtain rfl : name = "" := String.toList_eq_nil_iff.1 hnil
  cases h.named

/-- a path that ends in a name, with nothing or a slash in front of it; that slash ends the folder or is put in -/
theorem join_eq (folder : String) (h : IsName name) : folder = "" ∧ join folder name = name ∨
    ∃ up, (join folder name).toList = up ++ '/' :: name.toList ∧
      (folder.toList = up ++ ['/'] ∨ folder.toList = up ∧ up ≠ []) := by
  have hrelative : name.startsWith "/" = false := by
    rw [String.startsWith_string_eq_false_iff]
    intro hbegins
    exact h.single (hbegins.subset List.mem_cons_self)
  rw [join, if_neg (by rw [hrelative]; exact Bool.false_ne_true)]
  split_ifs with hfolder
  · rcases Bool.or_eq_true _ _ ▸ hfolder with hempty | hslash
    · obtain rfl : folder = "" := String.isEmpty_iff.1 hempty
      exact .inl ⟨rfl, String.empty_append⟩
    · refine .inr ?_
      rw [← String.endsWith_toSlice, String.Slice.endsWith_string_iff, String.copy_toSlice] at hslash
      obtain ⟨up, hup⟩ := hslash
      refine ⟨up, ?_, .inl hup.symm⟩
      rw [String.toList_append, ← hup, List.append_assoc]
      rfl
  · refine .inr ⟨folder.toList, ?_, .inr ⟨rfl, ?_⟩⟩
    · rw [String.toList_append, String.toList_append, List.append_assoc]
      rfl
    · intro hnil
      obtain rfl : folder = "" := String.toList_eq_nil_iff.1 hnil
      exact hfolder rfl

/-- a path that ends in a name has no slash to be taken off -/
theorem trimmed_eq {path : String} (up : List Char) (h : IsName name) (hpath : path.toList = up ++ name.toList) :
    FileTree.trimmed path = path := by
  obtain ⟨front, c, hc⟩ := (List.eq_nil_or_concat name.toList).resolve_left h.toList_ne_nil
  rw [List.concat_eq_append] at hc
  have hslash : c ≠ '/' := by
    rintro rfl
    exact h.single (hc ▸ List.mem_concat_self)
  have hlast : path.toList.reverse = c :: (up ++ front).reverse := by
    rw [hpath, hc, ← List.append_assoc, List.reverse_append]
    rfl
  rw [FileTree.trimmed, hlast, List.dropWhile_cons_of_neg (by simpa using hslash), ← hlast, List.reverse_reverse,
    String.ofList_toList]

/-- the last part of such a path is the name -/
theorem parts_of_name (h : IsName name) : parts (FileTree.trimmed name) = [name] := by
  rw [trimmed_eq [] h rfl, parts, List.splitOn_eq_singleton h.single, List.map_singleton, String.ofList_toList]

/-- the parts in front of it are those of what is in front of the slash -/
theorem parts_of_slash {path : String} {up : List Char} (h : IsName name)
    (hpath : path.toList = up ++ '/' :: name.toList) :
    parts (FileTree.trimmed path) = parts (String.ofList up) ++ [name] := by
  have hsplit : name.toList.splitOn '/' = [name.toList] := List.splitOn_eq_singleton h.single
  rw [trimmed_eq (up ++ ['/']) h (by rw [hpath, List.append_assoc]; rfl), parts, parts, hpath,
    List.splitOn_append_cons_self, hsplit, List.map_append, List.map_singleton, String.ofList_toList,
    String.toList_ofList]

theorem parts_join (folder : String) (h : IsName name) :
    ∃ above, parts (FileTree.trimmed (join folder name)) = above ++ [name] := by
  rcases join_eq folder h with ⟨-, hjoin⟩ | ⟨up, hjoin, -⟩
  · exact ⟨[], by rw [hjoin, parts_of_name h, List.nil_append]⟩
  · exact ⟨_, parts_of_slash h hjoin⟩

/-- a path begins with a slash if its first character is one -/
theorem startsWith_slash_iff (path : String) : path.startsWith "/" = true ↔ path.toList.head? = some '/' := by
  rw [String.startsWith_string_iff]
  cases path.toList with
  | nil => exact ⟨nofun, nofun⟩
  | cons c cs =>
    rw [List.head?_cons, Option.some.injEq]
    constructor
    · intro hbegins
      exact (List.cons_prefix_cons.1 hbegins).1.symm
    · rintro rfl
      exact List.cons_prefix_cons.2 ⟨rfl, List.nil_prefix⟩

end Path

namespace Place

/-- the parts of the folder a place is in, with its own name as the last -/
def parts : Place → List String
  | .inside parts | .outside parts => parts

/-- the place of a name directly in a folder -/
def below : Place → String → Place
  | .inside parts, name => .inside (parts ++ [name])
  | .outside parts, name => .outside (parts ++ [name])

theorem parts_below (p : Place) (name : String) : (p.below name).parts = p.parts ++ [name] := by
  cases p <;> rfl

theorem below_left_inj {p q : Place} {name : String} : p.below name = q.below name ↔ p = q := by
  cases p <;> cases q <;> simp [below]

end Place

namespace FileTree

variable {t t' : FileTree} {path path' : String} {content content' : Bytes} {p q folder : Place} {last name : String}

/-- where a path leads -/
def destination (path : String) : Place :=
  (Path.parts (trimmed path)).foldl follow (if path.startsWith "/" then .outside [] else .inside [])

/-- a walk ends in a folder, with one part left -/
theorem walk_cases {parts : List String} (h : t.walk p parts = .ok (folder, last)) : parts = [] ∧ folder = p ∧ last = "" ∨
    ∃ above, parts = above ++ [last] ∧ folder = above.foldl follow p ∧ t.entry? folder = some .folder := by
  induction parts generalizing p with
  | nil =>
    cases h
    exact .inl ⟨rfl, rfl, rfl⟩
  | cons part rest ih =>
    refine .inr ?_
    simp only [walk] at h
    split at h
    · cases h
    · cases h
    · next hfolder =>
      cases rest with
      | nil =>
        cases h
        exact ⟨[], rfl, rfl, hfolder⟩
      | cons next rest =>
        dsimp only at h
        split_ifs at h
        rcases ih h with ⟨hnil, -⟩ | ⟨above, hparts, hup, hentry⟩
        · cases hnil
        · exact ⟨part :: above, congrArg (part :: ·) hparts, hup, hentry⟩

/-- a walk leads where its parts say -/
theorem follow_of_walk {parts : List String} (h : t.walk p parts = .ok (folder, last)) :
    follow folder last = parts.foldl follow p := by
  rcases walk_cases h with ⟨rfl, rfl, rfl⟩ | ⟨above, rfl, rfl, -⟩
  · rfl
  · rw [List.foldl_append]
    rfl

/-- what a path is walked from, and by which parts -/
theorem walk_of_locate (h : t.locate path = .ok (folder, last)) :
    t.walk (if path.startsWith "/" then .outside [] else .inside []) (Path.parts (trimmed path)) = .ok (folder, last) := by
  unfold locate at h
  split_ifs at h with _ _ _ hroot
  · rw [if_pos hroot]
    exact h
  · rw [if_neg hroot]
    exact h

/-- a path that can be walked leads where it says -/
theorem follow_of_locate (h : t.locate path = .ok (folder, last)) : follow folder last = destination path :=
  follow_of_walk (walk_of_locate h)

/-- a name leads directly below a folder -/
theorem follow_eq_below (h : Path.IsName name) (p : Place) : follow p name = p.below name := by
  have hnamed := h.named
  rw [isUnnamed, Bool.or_eq_false_iff, decide_eq_false_iff_not] at hnamed
  unfold follow
  rw [if_neg (by rw [hnamed.1]; exact Bool.false_ne_true), if_neg hnamed.2]
  cases p <;> rfl

/-! ### Names in folders -/

/-- a slash at the end leads nowhere -/
theorem foldl_follow_slash (p : Place) (up : List Char) :
    (Path.parts (String.ofList (up ++ ['/']))).foldl follow p = (Path.parts (String.ofList up)).foldl follow p := by
  have hparts : Path.parts (String.ofList (up ++ ['/'])) = Path.parts (String.ofList up) ++ [""] := by
    rw [Path.parts, Path.parts, String.toList_ofList, String.toList_ofList, List.splitOn_append_cons_self,
      List.map_append]
    rfl
  rw [hparts, List.foldl_append]
  rfl

/-- so does any number of them -/
theorem foldl_follow_trimmed (p : Place) (path : String) :
    (Path.parts (trimmed path)).foldl follow p = (Path.parts path).foldl follow p := by
  obtain ⟨cs, rfl⟩ : ∃ cs, path = String.ofList cs := ⟨path.toList, String.ofList_toList.symm⟩
  induction cs using List.reverseRecOn with
  | nil => rfl
  | append_singleton cs c ih =>
    rw [trimmed, String.toList_ofList] at ih ⊢
    rw [List.reverse_append, List.reverse_singleton, List.singleton_append]
    rcases eq_or_ne c '/' with rfl | hc
    · rw [List.dropWhile_cons_of_pos (by decide), ih, foldl_follow_slash]
    · rw [List.dropWhile_cons_of_neg (by simpa using hc), List.reverse_cons, List.reverse_reverse]

/-- **A name in a folder leads directly below where the folder leads.** -/
theorem destination_join (up : String) (h : Path.IsName name) :
    destination (Path.join up name) = (destination up).below name := by
  rw [← follow_eq_below h]
  rcases Path.join_eq up h with ⟨rfl, hjoin⟩ | ⟨above, hjoin, hup⟩
  · -- a name that stands alone is walked from the working folder
    have hstart : ¬ name.startsWith "/" = true := by
      rw [Path.startsWith_slash_iff]
      intro hhead
      exact h.single (List.mem_of_mem_head? hhead)
    rw [hjoin, destination, if_neg hstart, Path.parts_of_name h]
    rfl
  · have hstart : (Path.join up name).startsWith "/" = true ↔ up.startsWith "/" = true := by
      rw [Path.startsWith_slash_iff, Path.startsWith_slash_iff, hjoin]
      rcases hup with hup | ⟨hup, hne⟩
      · rw [hup]
        cases above <;> rfl
      · rw [hup, List.head?_append_of_ne_nil _ hne]
    have hlead : ∀ p, (Path.parts (String.ofList above)).foldl follow p = (Path.parts (trimmed up)).foldl follow p := by
      intro p
      rw [foldl_follow_trimmed, ← String.ofList_toList (s := up)]
      rcases hup with hup | ⟨hup, -⟩
      · rw [hup, foldl_follow_slash]
      · rw [hup]
    rw [destination, destination, Path.parts_of_slash h hjoin, List.foldl_append, hlead]
    simp only [hstart]
    rfl

/-- one gets to a name in a folder only if there is a folder -/
theorem folder_of_locate {up : String} (h : Path.IsName name) (hl : t.locate (Path.join up name) = .ok (folder, last)) :
    folder = destination up ∧ t.entry? (destination up) = some .folder := by
  obtain ⟨front, hfront⟩ := Path.parts_join up h
  have hwalk := walk_of_locate hl
  rw [hfront] at hwalk
  rcases walk_cases hwalk with ⟨hnil, -⟩ | ⟨above, hparts, hfolder, hentry⟩
  · exact absurd hnil (List.append_ne_nil_of_right_ne_nil _ (List.cons_ne_nil _ _))
  · have hlast : name = last := by simpa using (List.append_inj' hparts rfl).2
    have hplace : folder.below name = (destination up).below name :=
      calc folder.below name = follow folder last := by rw [← hlast, follow_eq_below h]
        _ = destination (Path.join up name) := follow_of_locate hl
        _ = (destination up).below name := destination_join up h
    have hsame : folder = destination up := Place.below_left_inj.1 hplace
    exact ⟨hsame, hsame ▸ hentry⟩

/-- **A name below a folder is the last part of where it leads.** -/
theorem last_destination_join (up : String) (h : Path.IsName name) :
    (destination (Path.join up name)).parts.getLast? = some name := by
  rw [destination_join up h, Place.parts_below]
  exact List.getLast?_concat

/-! ## Folders -/

/-- all folders of a tree are folders of another -/
def KeepsFolders (t t' : FileTree) : Prop :=
  ∀ q, t.entry? q = some .folder → t'.entry? q = some .folder

/-- a path can still be walked when no folder is lost -/
theorem KeepsFolders.walk (hk : KeepsFolders t t') {parts : List String} (h : t.walk p parts = .ok (folder, last)) :
    t'.walk p parts = .ok (folder, last) := by
  induction parts generalizing p with
  | nil => exact h
  | cons part rest ih =>
    simp only [FileTree.walk] at h ⊢
    split at h
    · cases h
    · cases h
    · next hfolder =>
      rw [hk p hfolder]
      cases rest with
      | nil => exact h
      | cons next rest =>
        dsimp only at h ⊢
        split_ifs at h ⊢ with hlong
        exact ih h

theorem KeepsFolders.locate (hk : KeepsFolders t t') (h : t.locate path = .ok (folder, last)) :
    t'.locate path = .ok (folder, last) := by
  unfold FileTree.locate at h ⊢
  split_ifs at h ⊢
  · exact hk.walk h
  · exact hk.walk h

/-! ## Writes -/

theorem lookup_filter_ne {p q : Place} (h : q ≠ p) (es : List (Place × FileEntry)) :
    (es.filter fun (r, _) => r ≠ p).lookup q = es.lookup q := by
  induction es with
  | nil => rfl
  | cons e es ih =>
    obtain ⟨r, e⟩ := e
    by_cases hr : r = p
    · have hq : (q == r) = false := beq_eq_false_iff_ne.2 (hr ▸ h)
      rw [List.filter_cons_of_neg (by simpa using hr), List.lookup_cons, hq]
      exact ih
    · rw [List.filter_cons_of_pos (by simpa using hr), List.lookup_cons, List.lookup_cons, ih]

/-- an entry is put where no folder is, and changes nothing elsewhere -/
theorem entry_put (hp : t.entry? p ≠ some .folder) (hnull : p ≠ nullDevice) (e : FileEntry) (q : Place) :
    FileTree.entry? (t.put p e) q = if q = p then some e else t.entry? q := by
  have hworld : ¬ (p = .inside [] ∨ p = .outside [] ∨ p = .outside ["dev"]) := fun hp' => hp (if_pos hp')
  rw [put, if_neg hnull]
  by_cases hq : q = p
  · rw [if_pos hq, hq, entry?, if_neg hworld, if_neg hnull]
    exact List.lookup_cons_self
  · have hlookup : ((p, e) :: t.entries.filter fun (r, _) => r ≠ p).lookup q = t.entries.lookup q := by
      rw [List.lookup_cons, beq_eq_false_iff_ne.2 hq]
      exact lookup_filter_ne hq t.entries
    rw [if_neg hq, entry?, entry?, hlookup]

/-- **A write that goes through puts a file where the path leads**: a new one that anyone may read, or one in the place of
a file, which may be read by those who could before. -/
theorem write_cases (h : t.write path content = .ok t') : ∃ folder last isPrivate, t.locate path = .ok (folder, last) ∧
    path.endsWith "/" = false ∧ last.utf8ByteSize ≤ Path.maxPart ∧
      (t.entry? (destination path) = none ∧ isPrivate = false ∨
        ∃ old, t.entry? (destination path) = some (.file old isPrivate)) ∧
      t' = t.put (destination path) (.file content isPrivate) := by
  unfold write at h
  cases hlocate : t.locate path with
  | error e => rw [hlocate] at h; cases h
  | ok found =>
    obtain ⟨folder, last⟩ := found
    rw [hlocate] at h
    simp only [bind, Except.bind, pure, Except.pure, throw, throwThe, MonadExceptOf.throw, place] at h
    split_ifs at h with hplain hlong
    have hends : path.endsWith "/" = false := by
      rw [Bool.not_eq_true, Bool.or_eq_false_iff] at hplain
      exact hplain.1
    simp only [follow_of_locate hlocate] at h
    split at h
    · cases h
    · next old isPrivate hentry =>
      exact ⟨folder, last, isPrivate, rfl, hends, Nat.le_of_not_lt hlong, .inr ⟨old, hentry⟩, (Except.ok.inj h).symm⟩
    · next hentry =>
      exact ⟨folder, last, false, rfl, hends, Nat.le_of_not_lt hlong, .inl ⟨hentry, rfl⟩, (Except.ok.inj h).symm⟩

/-- a write that goes through found no folder where the path leads -/
theorem write_eq (h : t.write path content = .ok t') : ∃ folder last isPrivate, t.locate path = .ok (folder, last) ∧
    path.endsWith "/" = false ∧ last.utf8ByteSize ≤ Path.maxPart ∧ t.entry? (destination path) ≠ some .folder ∧
      t' = t.put (destination path) (.file content isPrivate) := by
  obtain ⟨folder, last, isPrivate, hlocate, hends, hshort, hfound, hput⟩ := write_cases h
  refine ⟨folder, last, isPrivate, hlocate, hends, hshort, ?_, hput⟩
  rcases hfound with ⟨hnone, -⟩ | ⟨old, hold⟩
  · rw [hnone]
    nofun
  · rw [hold]
    nofun

/-- a file can be read if one gets to where the path leads -/
theorem read_eq_ok_iff : t.read path = .ok content ↔ ∃ folder last isPrivate, t.locate path = .ok (folder, last) ∧
    path.endsWith "/" = false ∧ last.utf8ByteSize ≤ Path.maxPart ∧
      t.entry? (destination path) = some (.file content isPrivate) := by
  unfold read find
  cases hlocate : t.locate path with
  | error e => simp [bind, Except.bind]
  | ok found =>
    obtain ⟨folder, last⟩ := found
    simp only [bind, Except.bind, pure, Except.pure, throw, throwThe, MonadExceptOf.throw, place, Except.ok.injEq,
      Prod.mk.injEq]
    by_cases hlong : Path.maxPart < last.utf8ByteSize
    · rw [if_pos hlong]
      constructor
      · nofun
      · rintro ⟨_, _, _, ⟨-, rfl⟩, -, hshort, -⟩
        omega
    · simp only [if_neg hlong, follow_of_locate hlocate]
      rcases hentry : t.entry? (destination path) with _ | (_ | ⟨found, isPrivate⟩)
      · simp
      · simp
      · cases path.endsWith "/" <;> simp [Nat.le_of_not_lt hlong]

theorem entry_of_write_other (h : t.write path content = .ok t') (hnull : destination path ≠ nullDevice)
    (hq : q ≠ destination path) : t'.entry? q = t.entry? q := by
  obtain ⟨folder, last, isPrivate, -, -, -, hfolder, hput⟩ := write_eq h
  rw [hput, entry_put hfolder hnull, if_neg hq]

/-- what is put where there is no folder takes none away -/
theorem keepsFolders_put (hfile : t.entry? p ≠ some .folder) (hnull : p ≠ nullDevice) (e : FileEntry) :
    KeepsFolders t (t.put p e) := by
  intro q hq
  have hne : q ≠ p := by
    rintro rfl
    exact hfile hq
  rw [entry_put hfile hnull, if_neg hne, hq]

/-- folders are kept -/
theorem keepsFolders_write (h : t.write path content = .ok t') (hnull : destination path ≠ nullDevice) :
    KeepsFolders t t' := by
  obtain ⟨folder, last, isPrivate, -, -, -, hfolder, hput⟩ := write_eq h
  rw [hput]
  exact keepsFolders_put hfolder hnull _

/-- **What was written is read back.** -/
theorem read_of_write (h : t.write path content = .ok t') (hnull : destination path ≠ nullDevice) :
    t'.read path = .ok content := by
  obtain ⟨folder, last, isPrivate, hlocate, hends, hshort, hfolder, hput⟩ := write_eq h
  have hentry : t'.entry? (destination path) = some (.file content isPrivate) := by
    rw [hput, entry_put hfolder hnull, if_pos rfl]
  exact read_eq_ok_iff.2
    ⟨folder, last, isPrivate, (keepsFolders_write h hnull).locate hlocate, hends, hshort, hentry⟩

/-- **Other files are read as before.** -/
theorem read_of_write_other (h : t.write path content = .ok t') (hnull : destination path ≠ nullDevice)
    (hother : destination path' ≠ destination path) (hread : t.read path' = .ok content') :
    t'.read path' = .ok content' := by
  obtain ⟨folder, last, isPrivate, hlocate, hends, hshort, hfile⟩ := read_eq_ok_iff.1 hread
  exact read_eq_ok_iff.2 ⟨folder, last, isPrivate, (keepsFolders_write h hnull).locate hlocate, hends, hshort,
    (entry_of_write_other h hnull hother).trans hfile⟩

end FileTree

end RemoteShutter
