import AddonRegistry.Proofs.FileTree.Entries
import AddonRegistry.RegistryFile

/-!
# The registry file, read and written

A registry that can be read can be written: its folder is there, nothing has to be made, and the new
text takes the place of the old one.  So a run that finds a registry never fails while it writes.

* `readRegistry_eq_present`, `readRegistry_eq_absent` — what is found at the place of the registry.
* **`writeRegistry_of_readText`** — writing a registry that is there.
* `readText_writeRegistry` — what was written is read back.
* `Replaced` — that a registry was written, and nothing else changed but missing folders above it.
* **`replaced_writeRegistry`** — what writing the registry leaves, and `grownBy_or_eq_of_writeRegistry` — what
  a failure to write it leaves.
* `Failure.FromWriting` — the failures of writing; nothing else fails in these ways.
-/

namespace AddonRegistry

variable {tree after : FileTree} {p : Path} {text : String}

/-! ## What is found -/

lemma readRegistry_eq_present :
    readRegistry tree p = .ok (.present text) ↔ tree.readText p = .ok text := by
  rw [readRegistry]
  rcases tree.readText p with (_ | _ | _ | _ | _ | _ | _) | found <;> simp

lemma readRegistry_eq_absent :
    readRegistry tree p = .ok .absent ↔ tree.readText p = .error .notFound := by
  rw [readRegistry]
  rcases tree.readText p with (_ | _ | _ | _ | _ | _ | _) | found <;> simp

/-! ## What can fail -/

/-- Whether something went wrong while the registry was written. -/
def Failure.FromWriting : Failure → Prop
  | .newFolder _ _ => True
  | .newRegistry _ _ => True
  | _ => False

lemma fromWriting_of_writeInFolder {failure : Failure}
    (h : (writeInFolder tree p text).2 = .error failure) : failure.FromWriting := by
  rw [writeInFolder] at h
  cases hw : tree.writeText p text with
  | ok written => simp [hw] at h
  | error fault =>
      rw [hw] at h
      cases h
      trivial

/-- Writing fails in its own ways. -/
lemma fromWriting_of_writeRegistry {failure : Failure}
    (h : (writeRegistry tree p text).2 = .error failure) : failure.FromWriting := by
  rw [writeRegistry] at h
  split at h
  · exact fromWriting_of_writeInFolder h
  · split_ifs at h
    · exact fromWriting_of_writeInFolder h
    · split at h
      · exact fromWriting_of_writeInFolder h
      · cases h
        trivial

lemma not_fromWriting_of_readRegistry {failure : Failure} (h : readRegistry tree p = .error failure) :
    ¬ failure.FromWriting := by
  rw [readRegistry] at h
  split at h <;> cases h
  exact id

lemma not_fromWriting_of_readPackageName {failure : Failure}
    (h : readPackageName tree p = .error failure) : ¬ failure.FromWriting := by
  unfold readPackageName at h
  dsimp only at h
  split at h
  · cases h
    exact id
  · split at h <;> cases h
    exact id

/-! ## Writing what is there -/

/-- Where a path leads, the folder that holds its last name is there. -/
lemma makeFolders_parent {folder : Path} {place : List String} (hparent : p.parent? = some folder)
    (hne : folder.text ≠ "") (hw : tree.follow p p.steps = .ok place) :
    tree.makeFolders folder = (tree, .ok ()) :=
  FileTree.makeFolders_of_isFolder (FileTree.isFolder_of_above (.of_parent? hparent) hne hw)

/-- **A registry that is there is overwritten at its place.** -/
theorem writeRegistry_of_readText {old : String} (h : tree.readText p = .ok old) :
    ∃ place, tree.locate p = .ok place ∧ tree.root.get? place = some (.file old.toUTF8) ∧
      ∀ text, writeRegistry tree p text = (tree.put place (.file text.toUTF8), .ok ()) := by
  obtain ⟨place, hl, hg⟩ := FileTree.readBytes_eq_ok.mp (FileTree.readText_eq_ok.mp h)
  refine ⟨place, hl, hg, fun text => ?_⟩
  have hwrite : writeInFolder tree p text = (tree.put place (.file text.toUTF8), .ok ()) := by
    rw [writeInFolder, FileTree.writeText, FileTree.writeBytes_of_readBytes hl hg]
  rw [writeRegistry]
  split
  · exact hwrite
  · next folder hparent =>
      split_ifs with hempty
      · exact hwrite
      · rw [makeFolders_parent hparent (by simpa using hempty) (FileTree.locate_file hl hg).2]
        exact hwrite

/-! ## Reading back -/

lemma readText_writeInFolder (h : writeInFolder tree p text = (after, .ok ())) :
    after.readText p = .ok text := by
  rw [writeInFolder] at h
  cases hw : tree.writeText p text with
  | error fault => simp [hw] at h
  | ok written =>
      rw [hw] at h
      cases h
      exact FileTree.readText_writeText hw

/-- **The registry holds what was written.** -/
theorem readText_writeRegistry (h : writeRegistry tree p text = (after, .ok ())) :
    after.readText p = .ok text := by
  rw [writeRegistry] at h
  split at h
  · exact readText_writeInFolder h
  · split_ifs at h
    · exact readText_writeInFolder h
    · split at h
      · exact readText_writeInFolder h
      · simp at h

/-! ## What is left -/

/-- That the registry was given a text, at a place where no folder was.  Everything else that was there
is still there, and what is new are folders on the way to the registry that were missing. -/
structure Replaced (registry : Path) (text : String) (place : List String)
    (tree after : FileTree) : Prop where
  here : after.here = tree.here
  located : after.locate registry = .ok place
  written : after.stored? place = some (.file text.toUTF8)
  notFolder : ¬ tree.FolderAt place
  /-- Every other file has the bytes that it had, and there are no new ones. -/
  files : ∀ other ≠ place, ∀ content,
    after.stored? other = some (.file content) ↔ tree.stored? other = some (.file content)
  /-- No folder is removed. -/
  folders : ∀ other, tree.FolderAt other → after.FolderAt other
  /-- A new folder is one that a beginning of the path asks for, and that was missing. -/
  made : ∀ other, after.FolderAt other → ¬ tree.FolderAt other → tree.stored? other = none ∧
    ∃ folder : Path, folder.Above registry ∧ tree.find folder = .error .notFound ∧
      after.locate folder = .ok other

open FileTree in
/-- A text is written where the folder of its file is. -/
lemma replaced_writeText {made : FileTree} (hgrown : GrownBy (·.Above p) tree made)
    (h : made.writeText p text = .ok after) : ∃ place, Replaced p text place tree after := by
  obtain ⟨place, hslash, hw, hno, rfl⟩ := writeBytes_eq_ok.mp h
  have habove := folderAt_above_of_follow hslash hw
  have hself : (made.put place (.file text.toUTF8)).stored? place = some (.file text.toUTF8) :=
    stored?_put_self habove
  have hother : ∀ other ≠ place,
      (made.put place (.file text.toUTF8)).stored? other = made.stored? other :=
    fun other hne => stored?_put_of_ne (Node.isLeaf_file _) hno habove hne
  have hne {other : List String} {found : FileTree}
      (hf : found.FolderAt other) (hnone : ¬ found.FolderAt place) : other ≠ place := by
    rintro rfl
    exact hnone hf
  have hold : ¬ tree.FolderAt place := fun hf => hno (hgrown.folderAt hf)
  have hfollow {q : Path} {steps : List Step} {other : List String}
      (hf : made.follow q steps = .ok other) :
      (made.put place (.file text.toUTF8)).follow q steps = .ok other := by
    obtain ⟨hs, hwalk⟩ := follow_eq_ok.mp hf
    exact follow_eq_ok.mpr ⟨hs, walk_mono (folderAt_put_file hno) hwalk⟩
  have hall : p.allSteps = p.steps := by simp [Path.allSteps, hslash]
  have hlocated : (made.put place (.file text.toUTF8)).locate p = .ok place := by
    rw [locate, hall]
    exact hfollow hw
  refine ⟨place, hgrown.here, hlocated, hself, hold, fun other ho content => ?_, fun other hf => ?_,
    fun other hf hnone => ?_⟩
  · rw [hother other ho]
    exact hgrown.file_iff
  · rw [folderAt_iff, hother other (hne hf hold)]
    exact folderAt_iff.mp (hgrown.folderAt hf)
  · have ho : other ≠ place := by
      rintro rfl
      rw [folderAt_iff, hself] at hf
      cases hf
    rw [folderAt_iff, hother other ho, ← folderAt_iff] at hf
    obtain ⟨hmissing, folder, habove', hfind, hlocate⟩ := hgrown.of_folderAt hf hnone
    exact ⟨hmissing, folder, habove', hfind, hfollow hlocate⟩

/-- The folders above the registry are made if they are missing, and then the registry is written or nothing
is. -/
lemma exists_grownBy_of_writeRegistry (tree : FileTree) (p : Path) (text : String) :
    ∃ made, FileTree.GrownBy (·.Above p) tree made ∧ (made = tree ∨ FileTree.Gained tree made) ∧
      (writeRegistry tree p text = writeInFolder made p text ∨
        ∃ failure, writeRegistry tree p text = (made, .error failure)) := by
  rw [writeRegistry]
  split
  · exact ⟨tree, .refl _ tree, .inl rfl, .inl rfl⟩
  · next folder hparent =>
      split_ifs with hempty
      · exact ⟨tree, .refl _ tree, .inl rfl, .inl rfl⟩
      · have hgrown : FileTree.GrownBy (·.Above p) tree (tree.makeFolders folder).1 :=
          (FileTree.grownBy_makeFirst folder.ancestors tree).mono fun other ho =>
            Path.above_of_mem_ancestors hparent ho
        have hgained := FileTree.eq_or_gained_makeFirst folder.ancestors tree
        rw [← FileTree.makeFolders] at hgained
        split
        · next made hmake =>
            rw [hmake] at hgrown hgained
            exact ⟨made, hgrown, hgained, .inl rfl⟩
        · next made fault hmake =>
            rw [hmake] at hgrown hgained
            exact ⟨made, hgrown, hgained, .inr ⟨_, rfl⟩⟩

/-- What a failure to write the registry leaves is what was made for it. -/
lemma eq_of_writeInFolder_eq_error {made : FileTree} {failure : Failure}
    (h : writeInFolder made p text = (after, .error failure)) : after = made := by
  rw [writeInFolder] at h
  cases hwrite : made.writeText p text with
  | ok written => simp [hwrite] at h
  | error fault =>
      rw [hwrite] at h
      cases h
      rfl

/-- **Writing the registry** changes nothing else, but for folders above it that were missing. -/
theorem replaced_writeRegistry (h : writeRegistry tree p text = (after, .ok ())) :
    ∃ place, Replaced p text place tree after := by
  obtain ⟨made, hgrown, -, hw | ⟨failure, hw⟩⟩ := exists_grownBy_of_writeRegistry tree p text
  · rw [h, writeInFolder] at hw
    cases hwrite : made.writeText p text with
    | error fault => simp [hwrite] at hw
    | ok written =>
        rw [hwrite] at hw
        cases hw
        exact replaced_writeText hgrown hwrite
  · rw [h] at hw
    cases hw

/-- **A failure to write the registry** leaves at most new folders above it, and everything as it was if
there are none. -/
theorem grownBy_or_eq_of_writeRegistry {failure : Failure}
    (h : writeRegistry tree p text = (after, .error failure)) :
    FileTree.GrownBy (·.Above p) tree after ∧ (after = tree ∨ FileTree.Gained tree after) := by
  obtain ⟨made, hgrown, hgained, hw | ⟨other, hw⟩⟩ := exists_grownBy_of_writeRegistry tree p text
  · rw [h] at hw
    rw [eq_of_writeInFolder_eq_error hw.symm]
    exact ⟨hgrown, hgained⟩
  · rw [h] at hw
    cases hw
    exact ⟨hgrown, hgained⟩

/-- A failure to write the registry leaves at most new folders above it. -/
theorem grownBy_writeRegistry {failure : Failure}
    (h : writeRegistry tree p text = (after, .error failure)) :
    FileTree.GrownBy (·.Above p) tree after :=
  (grownBy_or_eq_of_writeRegistry h).1

end AddonRegistry
