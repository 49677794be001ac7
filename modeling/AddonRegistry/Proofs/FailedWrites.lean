import AddonRegistry.Proofs.RegistryFile
import AddonRegistry.Template

/-!
# What a failure to write leaves

The folders above a registry are made before it is written, and they are not taken away again if it cannot
be.  So a failure can leave a trace, but no other one than these folders: no file is touched, nothing is
gone, and all that is new are folders on the path that were missing.

* `exists_missing_of_gained` — what is new after a failure.
* **`failed_write_leaves_folders`** — what is as it was, and what is not.
* `failed_write_leaves_a_trace` — a path that asks for a file where only a folder can be.
-/

namespace AddonRegistry

open FileTree

variable {tree after : FileTree} {p : Path}

/-- Whatever is new among the folders that a path asks for is one of them, and it was missing. -/
lemma exists_missing_of_gained (hgrown : GrownBy (·.Above p) tree after) (hgained : Gained tree after) :
    ∃ folder : Path, folder.Above p ∧ tree.find folder = .error .notFound ∧
      after.isFolder folder = true := by
  obtain ⟨place, entry, hnone, hentry⟩ := hgained
  obtain ⟨rfl, folder, habove, hfind, hlocate⟩ := hgrown.made hentry hnone
  exact ⟨folder, habove, hfind, isFolder_iff.mpr ⟨place, hlocate, folderAt_iff.mpr hentry⟩⟩

/-- A folder that was missing and is there now has changed something. -/
lemma ne_of_made {folder : Path} (hfind : tree.find folder = .error .notFound)
    (hfolder : after.isFolder folder = true) : after ≠ tree := by
  rintro rfl
  obtain ⟨place, hlocate, entries, hentry⟩ := isFolder_iff.mp hfolder
  rw [find_eq_ok.mpr ⟨place, hlocate, hentry⟩] at hfind
  cases hfind

/-- **A failure to write leaves the files alone.**  There are the same files with the same bytes, and every
folder that was there.  A new folder is one that a beginning of the path asks for and that was missing.
And if there is none of these, everything is exactly as it was. -/
theorem failed_write_leaves_folders {text : String} {failure : Failure}
    (h : writeRegistry tree p text = (after, .error failure)) :
    (∀ place content, after.stored? place = some (.file content) ↔
      tree.stored? place = some (.file content)) ∧
    (∀ place, tree.FolderAt place → after.FolderAt place) ∧
    (∀ place, after.FolderAt place → ¬ tree.FolderAt place → tree.stored? place = none ∧
      ∃ folder : Path, folder.Above p ∧ tree.find folder = .error .notFound ∧
        after.locate folder = .ok place) ∧
    (after ≠ tree ↔ ∃ folder : Path, folder.Above p ∧ tree.find folder = .error .notFound ∧
      after.isFolder folder = true) := by
  obtain ⟨hgrown, hsame⟩ := grownBy_or_eq_of_writeRegistry h
  refine ⟨fun place content => hgrown.file_iff, fun place hf => hgrown.folderAt hf,
    fun place hf hnone => hgrown.of_folderAt hf hnone, fun hne => ?_, ?_⟩
  · exact exists_missing_of_gained hgrown (hsame.resolve_left hne)
  · rintro ⟨folder, -, hfind, hfolder⟩
    exact ne_of_made hfind hfolder

/-- A tree with one file. -/
def oneFile : FileTree where
  root := .folder [("addon", .folder [("x.ts", .file "x".toUTF8)])]
  here := []

/-- A path with a slash at its end asks for a folder: what is above it is made, and no file is lost. -/
theorem failed_write_keeps_one_file :
    (writeRegistry oneFile ⟨"types/registry.ts/"⟩ stub).2 =
        .error (.newRegistry ⟨"types/registry.ts/"⟩ .isAFolder) ∧
      (writeRegistry oneFile ⟨"types/registry.ts/"⟩ stub).1.stored? ["addon", "x.ts"] =
        some (.file "x".toUTF8) ∧
      ∃ folder : Path, folder.Above ⟨"types/registry.ts/"⟩ ∧
        (writeRegistry oneFile ⟨"types/registry.ts/"⟩ stub).1.locate folder = .ok ["types"] := by
  have hfails : (writeRegistry oneFile ⟨"types/registry.ts/"⟩ stub).2 =
      .error (.newRegistry ⟨"types/registry.ts/"⟩ .isAFolder) := by decide +kernel
  obtain ⟨hfiles, -, hnew, -⟩ := failed_write_leaves_folders (Prod.ext rfl hfails)
  have hmade : (writeRegistry oneFile ⟨"types/registry.ts/"⟩ stub).1.FolderAt ["types"] := ⟨[], rfl⟩
  have hmissing : ¬ oneFile.FolderAt ["types"] := nofun
  obtain ⟨-, folder, habove, -, hlocate⟩ := hnew ["types"] hmade hmissing
  exact ⟨hfails, (hfiles _ _).mpr rfl, folder, habove, hlocate⟩

/-- A write that fails can leave more than was there. -/
theorem failed_write_leaves_a_trace :
    (writeRegistry oneFile ⟨"types/registry.ts/"⟩ stub).2 =
        .error (.newRegistry ⟨"types/registry.ts/"⟩ .isAFolder) ∧
      (writeRegistry oneFile ⟨"types/registry.ts/"⟩ stub).1 ≠ oneFile := by
  refine ⟨by decide +kernel, fun hsame => ?_⟩
  have hfolder : (writeRegistry oneFile ⟨"types/registry.ts/"⟩ stub).1.isFolder ⟨"types"⟩ = true := by
    decide +kernel
  rw [hsame] at hfolder
  exact absurd hfolder (by decide +kernel)

end AddonRegistry
