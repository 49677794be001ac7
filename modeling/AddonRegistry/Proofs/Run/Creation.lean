import AddonRegistry.Proofs.FileTree.Detours
import AddonRegistry.Proofs.Run.LifeCycle

/-!
# What creating a registry can destroy

A registry is created where none was found, and only then are the missing folders on its path made.  So
the place that is written on the path counts twice: it is not found at first, and it is where the empty
registry goes.  Unless the path turns back from a missing folder, nothing can be there.  If it does, a file
may be, and that file is lost.

* `Entry.Unreadable` — what is at a place and has no text.
* `replaced_target` — a registry is written to the place that is written on its path.
* `stored?_target_of_absent` — what is not found is not there, unless its path turns back.
* **`created_registry_spares_files`** — what a registry that is created replaces, and what keeps it from
  being created.
* `turning_back_destroys_file` — a file that is lost.
-/

namespace AddonRegistry

open FileTree

variable {options : Options} {tree after : FileTree} {p : Path} {place : List String} {entry : Entry}
  {text : String}

/-- That what is at a place has no text: a folder, or a file of bytes that are no text. -/
def Entry.Unreadable : Entry → Prop
  | .folder => True
  | .file content => String.fromUTF8? content = none

lemma Replaced.place_eq_target (h : Replaced p text place tree after) : place = tree.target p := by
  have hhere : after.here = tree.here := h.here
  rw [← target_of_here hhere, target_of_locate h.located]

/-- A registry is written to the place that is written on its path. -/
lemma replaced_target (h : writeRegistry tree p text = (after, .ok ())) :
    Replaced p text (tree.target p) tree after := by
  obtain ⟨place, hreplaced⟩ := replaced_writeRegistry h
  rwa [← hreplaced.place_eq_target]

/-- Nothing is read where something unreadable is. -/
lemma readText_ne_ok_of_unreadable (hentry : tree.stored? (tree.target p) = some entry)
    (hunreadable : entry.Unreadable) : tree.readText p ≠ .ok text := by
  intro h
  obtain ⟨place, hlocate, hfile⟩ := readBytes_eq_ok.mp (readText_eq_ok.mp h)
  rw [target_of_locate hlocate, stored?_eq_file.mpr hfile] at hentry
  cases hentry
  rw [Entry.Unreadable, fromUTF8?_eq_some.mpr rfl] at hunreadable
  cases hunreadable

/-- Where nothing is found, and the path does not turn back, nothing is. -/
lemma stored?_target_of_absent (hne : p.text ≠ "") (h : readRegistry tree p = .ok .absent)
    (hturn : tree.turnsBack p = false) : tree.stored? (tree.target p) = none :=
  stored?_target_of_notFound hne (find_of_readText_notFound (readRegistry_eq_absent.mp h)) hturn

lemma ne_empty_of_locate (h : tree.locate p = .ok place) : p.text ≠ "" := by
  intro hempty
  have hspelling := (follow_eq_ok.mp h).1
  simp [spellingFault?, hempty] at hspelling

/-- The empty path leads nowhere, and no folder is made for it. -/
lemma writeRegistry_of_empty (hempty : p.text = "") (tree : FileTree) (text : String) :
    (writeRegistry tree p text).1 = tree := by
  obtain ⟨spelling⟩ := p
  subst hempty
  rfl

/-- Every file is kept but for the one at the place of the registry. -/
lemma Replaced.keeps_files_iff (h : Replaced p text place tree after) :
    (∀ other content, tree.stored? other = some (.file content) →
        after.stored? other = some (.file content)) ↔
      ∀ content, tree.stored? place = some (.file content) → content = text.toUTF8 := by
  constructor
  · intro hkeep content hfile
    have hwritten := hkeep place content hfile
    rw [h.written] at hwritten
    cases hwritten
    rfl
  · intro hsame other content hfile
    by_cases hother : other = place
    · subst hother
      rw [hsame content hfile]
      exact h.written
    · exact (h.files other hother content).mpr hfile

/-! ## The three ways to end -/

/-- A run that creates the registry found none, and puts an empty one where its path leads. -/
lemma replaced_of_created (h : (run options.writing tree).result = .ok .created) :
    readRegistry tree options.registryPath = .ok .absent ∧
      Replaced options.registryPath stub (tree.target options.registryPath) tree
        (run options.writing tree).tree := by
  cases ending options tree with
  | unread failure hfails hresult htree => cases hresult.symm.trans h
  | unwritten failure hwriting habsent hresult hwrite => cases hresult.symm.trans h
  | written state outcome text hwrites hstate hcreated hresult hwrite =>
      cases hresult.symm.trans h
      cases hwrites
      exact ⟨hcreated.mpr rfl ▸ hstate, replaced_target hwrite⟩

/-- What has no text keeps a run from writing, unless the path turns back. -/
lemma unchanged_of_unreadable (hentry : tree.stored? (tree.target options.registryPath) = some entry)
    (hunreadable : entry.Unreadable) (hturn : tree.turnsBack options.registryPath = false) :
    ∃ failure, (run options.writing tree).result = .error failure ∧
      (run options.writing tree).tree = tree := by
  -- something is there, so the registry is not found absent
  have hpresent : options.registryPath.text ≠ "" →
      readRegistry tree options.registryPath ≠ .ok .absent := by
    intro hne habsent
    rw [stored?_target_of_absent hne habsent hturn] at hentry
    cases hentry
  cases ending options tree with
  | unread failure hfails hresult htree => exact ⟨failure, hresult, htree⟩
  | unwritten failure hwriting habsent hresult hwrite =>
      refine ⟨failure, hresult, ?_⟩
      have hempty : options.registryPath.text = "" := by
        by_contra hne
        exact hpresent hne habsent
      have hsame := writeRegistry_of_empty hempty tree stub
      rwa [hwrite] at hsame
  | written state outcome text hwrites hstate hcreated hresult hwrite =>
      exfalso
      cases state with
      | absent => exact hpresent (ne_empty_of_locate (replaced_target hwrite).located) hstate
      | present old =>
          exact readText_ne_ok_of_unreadable hentry hunreadable (readRegistry_eq_present.mp hstate)

/-- A folder keeps a run from writing, but not from making the folders above. -/
lemma failure_of_folderAt (hfolder : tree.FolderAt (tree.target options.registryPath)) :
    ∃ failure, (run options.writing tree).result = .error failure ∧
      GrownBy (·.Above options.registryPath) tree (run options.writing tree).tree := by
  cases ending options tree with
  | unread failure hfails hresult htree =>
      refine ⟨failure, hresult, ?_⟩
      rw [htree]
      exact .refl _ tree
  | unwritten failure hwriting habsent hresult hwrite =>
      exact ⟨failure, hresult, grownBy_writeRegistry hwrite⟩
  | written state outcome text hwrites hstate hcreated hresult hwrite =>
      exact absurd hfolder (replaced_target hwrite).notFolder

/-! ## The statement -/

/-- **A registry that is created** takes the place that is written on its path, and everything else stays.
So a file is lost exactly if one with other bytes was at that place; and there was none unless the path
turns back from where nothing is.  Without such a turn, what has no text at that place keeps the run from
writing, and nothing changes.  A folder does so on every path, and then nothing changes but for missing
folders that were made. -/
theorem created_registry_spares_files (options : Options) (tree : FileTree) :
    ((run options.writing tree).result = .ok .created →
      Replaced options.registryPath stub (tree.target options.registryPath) tree
        (run options.writing tree).tree ∧
      ((∀ place content, tree.stored? place = some (.file content) →
          (run options.writing tree).tree.stored? place = some (.file content)) ↔
        ∀ content, tree.stored? (tree.target options.registryPath) = some (.file content) →
          content = stub.toUTF8) ∧
      (tree.turnsBack options.registryPath = false →
        tree.stored? (tree.target options.registryPath) = none)) ∧
    (∀ entry, tree.stored? (tree.target options.registryPath) = some entry → entry.Unreadable →
      tree.turnsBack options.registryPath = false →
      ∃ failure, (run options.writing tree).result = .error failure ∧
        (run options.writing tree).tree = tree) ∧
    (tree.FolderAt (tree.target options.registryPath) →
      ∃ failure, (run options.writing tree).result = .error failure ∧
        GrownBy (·.Above options.registryPath) tree (run options.writing tree).tree) := by
  refine ⟨fun hcreated => ?_, fun entry => unchanged_of_unreadable, failure_of_folderAt⟩
  obtain ⟨habsent, hreplaced⟩ := replaced_of_created hcreated
  exact ⟨hreplaced, hreplaced.keeps_files_iff,
    stored?_target_of_absent (ne_empty_of_locate hreplaced.located) habsent⟩

/-- The sample options, with a registry on the way to which a path goes into a folder and out again. -/
def besideOptions : Options where
  patterns := ["addon/*.ts"]
  root := ⟨"."⟩
  registryFile := ⟨"addon/../types/registry.ts"⟩

/-- A path that turns back at a folder that is there leads to a new registry, and no file is lost. -/
theorem turning_at_folder_spares_files :
    (run besideOptions.writing newProject).result = .ok .created ∧
      newProject.turnsBack besideOptions.registryPath = false ∧
      (run besideOptions.writing newProject).tree.readText ⟨"types/registry.ts"⟩ = .ok stub ∧
      ∀ place content, newProject.stored? place = some (.file content) →
        (run besideOptions.writing newProject).tree.stored? place = some (.file content) := by
  have hcreated : (run besideOptions.writing newProject).result = .ok .created :=
    eq_ok_of_toOption (by decide +kernel)
  have hturn : newProject.turnsBack besideOptions.registryPath = false := by decide +kernel
  obtain ⟨-, hspared, hnone⟩ := (created_registry_spares_files besideOptions newProject).1 hcreated
  refine ⟨hcreated, hturn, eq_ok_of_toOption (by decide +kernel), hspared.mpr fun content hfile => ?_⟩
  rw [hnone hturn] at hfile
  cases hfile

/-- A project with a file in the place of its registry. -/
def keptProject : FileTree where
  root := .folder [
    ("p", .folder [
      ("package.json", .file "\x7b\"name\": \"pkg\"\x7d".toUTF8),
      ("addon", .folder [("template-registry.ts", .file "kept".toUTF8)])])]
  here := []

/-- Options with a path to that file that goes through a missing folder. -/
def turningOptions : Options where
  patterns := ["src/*.ts"]
  root := ⟨"p"⟩
  registryFile := ⟨"types/../addon/template-registry.ts"⟩

/-- A path that turns back from a missing folder leads to a file that was there, and it is lost. -/
theorem turning_back_destroys_file :
    (run turningOptions.writing keptProject).result = .ok .created ∧
      keptProject.readText ⟨"p/addon/template-registry.ts"⟩ = .ok "kept" ∧
      (run turningOptions.writing keptProject).tree.readText ⟨"p/addon/template-registry.ts"⟩ = .ok stub ∧
      "kept" ≠ stub :=
  ⟨eq_ok_of_toOption (by decide +kernel), eq_ok_of_toOption (by decide +kernel),
    eq_ok_of_toOption (by decide +kernel), by decide +kernel⟩

end AddonRegistry
