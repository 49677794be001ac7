import AddonRegistry.Proofs.Extraction.Generated
import AddonRegistry.Proofs.Insertions
import AddonRegistry.Proofs.Run.FixedPoint
import AddonRegistry.Proofs.ScanOrder
import Mathlib.Algebra.GroupWithZero.Nat

/-!
# The numbers that an update reports

An update says how many names it has declared and how many files they are from.  The first number is
counted in the lines of the registry, the second one in the table of the scan.  Both can be counted in the
files that the patterns have found instead: each path once, however often and in whatever spelling it was
found.

* `registered` — what a file registers, which is nothing if it cannot be read.
* `scanOfEach_eq_map`, `flatMap_scanOfEach` — a scan that succeeds, by what each path registers.
* `length_le_length_flatMap` — no file is in a scan for nothing, so there are no more files than members.
* `render_eq_stub_iff` — a registry is written as an empty one only if it declares nothing.
* **`updated_counts`** — what the two numbers are.
-/

namespace AddonRegistry

variable {options : Options} {tree : FileTree} {files : List Path} {file : Path}

/-! ## What files register -/

/-- What a file registers, and nothing if it cannot be read. -/
def registered (tree : FileTree) (file : Path) : List Member :=
  (examine tree file).toOption.getD []

lemma registered_of_examine {members : List Member} (h : examine tree file = .ok members) :
    registered tree file = members := by
  rw [registered, h]
  rfl

lemma extracts_registered (h : ∃ members, examine tree file = .ok members) :
    Extracts tree file (registered tree file) := by
  obtain ⟨members, hm⟩ := h
  rw [registered_of_examine hm]
  exact examine_eq_ok_iff.mp hm

/-- A file comes to an entry if it registers something. -/
lemma entryOf?_examine (tree : FileTree) (file : Path) : entryOf? (file, examine tree file) =
    if registered tree file = [] then none else some (file, registered tree file) := by
  rw [registered]
  cases h : examine tree file with
  | error failure => rfl
  | ok members => cases members <;> rfl

/-- A scan holds the paths that register something. -/
lemma scanOfEach_eq_map (tree : FileTree) (files : List Path) : scanOfEach tree files =
    ((firsts Path.components files).filter fun file => registered tree file ≠ []).map fun file =>
      (file, registered tree file) := by
  rw [scanOfEach, ← List.filterMap_eq_map, List.filterMap_filter]
  refine List.filterMap_congr fun file _ => ?_
  rw [entryOf?_examine]
  by_cases h : registered tree file = [] <;> simp [h]

/-- **The members of a scan** are what its paths register, each path once. -/
lemma flatMap_scanOfEach (tree : FileTree) (files : List Path) :
    (scanOfEach tree files).flatMap Prod.snd =
      (firsts Path.components files).flatMap (registered tree) := by
  rw [scanOfEach_eq_map, List.flatMap_map]
  exact flatMap_filter_of_nil fun file _ h => by simpa using h

lemma length_scanOfEach (tree : FileTree) (files : List Path) : (scanOfEach tree files).length =
    (firsts Path.components files).countP fun file => registered tree file ≠ [] := by
  rw [scanOfEach_eq_map, List.length_map, ← List.countP_eq_length_filter]

/-! ## Files and members -/

/-- Every file of a scan registers something. -/
lemma ne_nil_of_mem_scanOfEach {entry : Path × List Member} (h : entry ∈ scanOfEach tree files) :
    entry.2 ≠ [] :=
  (mem_scanOfEach.mp h).2.1

/-- In a table without empty entries there are no more entries than members. -/
lemma length_le_length_flatMap {scan : Scan} (h : ∀ entry ∈ scan, entry.2 ≠ []) :
    scan.length ≤ (scan.flatMap Prod.snd).length := by
  induction scan with
  | nil => exact Nat.zero_le _
  | cons entry rest ih =>
      rw [List.forall_mem_cons] at h
      have hentry : 0 < entry.2.length := List.length_pos_iff.mpr h.1
      have hrest := ih h.2
      rw [List.flatMap_cons, List.length_append, List.length_cons]
      omega

/-- A table without empty entries has no members only if it has no entries. -/
lemma flatMap_eq_nil_iff_of_ne_nil {scan : Scan} (h : ∀ entry ∈ scan, entry.2 ≠ []) :
    scan.flatMap Prod.snd = [] ↔ scan = [] := by
  refine ⟨fun hnil => ?_, fun hscan => hscan ▸ rfl⟩
  have hle := length_le_length_flatMap h
  rw [hnil, List.length_nil] at hle
  exact List.eq_nil_of_length_eq_zero (Nat.le_zero.mp hle)

/-! ## Empty registries -/

variable {scan : Scan} {root : Path} {package : String}

/-- A registry that is written as an empty one has no room for a declaration. -/
lemma members_eq_nil_of_render_eq_stub (h : render (Body.ofScan scan root package) = stub) :
    scan.flatMap Prod.snd = [] := by
  have hlengths := congrArg String.length h
  rw [render, stub, fillTemplate_eq, fillTemplate_eq] at hlengths
  simp only [String.length_append, String.length_empty] at hlengths
  have hblock : (Body.ofScan scan root package).declarationsBlock.length = 0 := by omega
  rw [Body.declarationsBlock, declarations_eq_map, ← String.length_toList, String.toList_intercalate,
    List.map_map] at hblock
  have hle := length_le_length_declarationLines (scan.flatMap Prod.snd)
  exact List.eq_nil_of_length_eq_zero (Nat.le_zero.mp (hle.trans_eq hblock))

/-- **A registry is written as an empty one** only if it declares nothing, and then it imports nothing. -/
lemma render_eq_stub_iff :
    render (Body.ofScan scan root package) = stub ↔ scan.flatMap Prod.snd = [] := by
  refine ⟨members_eq_nil_of_render_eq_stub, fun h => ?_⟩
  have huses : scan.uses root package = [] := by
    refine List.flatMap_eq_nil_iff.mpr fun entry he => ?_
    rw [List.flatMap_eq_nil_iff.mp h entry he, List.map_nil]
  have himports : (Body.ofScan scan root package).imports = [] := by
    rw [imports_ofScan, importLines_eq_map_uses, huses]
    rfl
  have hdeclarations : (Body.ofScan scan root package).declarations = [] := by
    rw [declarations_eq_map, h, List.map_nil]
  rw [render, Body.importsBlock, Body.declarationsBlock, himports, hdeclarations]
  rfl

/-! ## The statement -/

/-- **The numbers that an update reports** are those of the registry that it has written.  The first one is
the number of its declarations, which are those of each path that the patterns have found, once for each
path; the second one is the number of these paths that register something.  So there are at least as many
members as files, and there are none of either exactly if the registry is written as an empty one. -/
theorem updated_counts {members count : Nat}
    (hresult : (run options.writing tree).result = .ok (.updated members count)) :
    ∃ collected package body,
      collect options tree = .ok collected ∧
      readPackageName tree options.root = .ok package ∧
      (∀ file ∈ collected, Extracts tree file (registered tree file)) ∧
      body = Body.ofScan (scanOfEach tree collected) options.root package ∧
      (run options.writing tree).tree.readText options.registryPath = .ok (render body) ∧
      body.declarations =
        ((firsts Path.components collected).flatMap (registered tree)).map Member.declarationLine ∧
      members = body.declarations.length ∧
      members = ((firsts Path.components collected).map fun file => (registered tree file).length).sum ∧
      count = (firsts Path.components collected).countP (fun file => registered tree file ≠ []) ∧
      count ≤ members ∧ (members = 0 ↔ count = 0) ∧
      (members = 0 ↔ (run options.writing tree).tree.readText options.registryPath = .ok stub) := by
  obtain ⟨collected, scan, package, hreads, hwritten, rfl, rfl⟩ := written_of_updated hresult
  obtain ⟨hread, rfl⟩ := scan_surveyOf_eq_ok_iff.mp hreads.scanned
  rw [scanOfEach_eq hread] at hwritten ⊢
  have hne : ∀ entry ∈ scanOfEach tree collected, entry.2 ≠ [] := fun _ => ne_nil_of_mem_scanOfEach
  have hmembers : (Body.ofScan (scanOfEach tree collected) options.root package).memberCount =
      ((scanOfEach tree collected).flatMap Prod.snd).length := by
    rw [Body.memberCount, declarations_eq_map, List.length_map]
  refine ⟨collected, package, _, hreads.collected, hreads.named,
    fun file hm => extracts_registered (hread file hm), rfl, hwritten, ?_, rfl, ?_,
    length_scanOfEach tree collected, ?_, ?_, ?_⟩
  · rw [declarations_eq_map, flatMap_scanOfEach]
  · rw [hmembers, flatMap_scanOfEach, List.length_flatMap]
  · rw [hmembers]
    exact length_le_length_flatMap hne
  · rw [hmembers, List.length_eq_zero_iff, flatMap_eq_nil_iff_of_ne_nil hne]
    exact List.length_eq_zero_iff.symm
  · rw [hmembers, hwritten, Except.ok.injEq, render_eq_stub_iff, List.length_eq_zero_iff]

/-- The sample project with two patterns that find the same file. -/
def overlappingOptions : Options := { sampleOptions with patterns := ["addon/*.ts", "addon/x.ts"] }

/-- A file that two patterns find is counted once. -/
theorem overlapping_patterns_count_once :
    collect overlappingOptions sampleProject = .ok [⟨"addon/x.ts"⟩, ⟨"addon/x.ts"⟩] ∧
      (run overlappingOptions.writing sampleProject).result = .ok (.updated 1 1) ∧
      1 = (firsts Path.components [(⟨"addon/x.ts"⟩ : Path), ⟨"addon/x.ts"⟩]).countP
        fun file => registered sampleProject file ≠ [] := by
  have hupdated : (run overlappingOptions.writing sampleProject).result = .ok (.updated 1 1) :=
    eq_ok_of_toOption (by decide +kernel)
  have hcollected :
      collect overlappingOptions sampleProject = .ok [⟨"addon/x.ts"⟩, ⟨"addon/x.ts"⟩] :=
    eq_ok_of_toOption (by decide +kernel)
  obtain ⟨collected, package, body, hc, -, -, -, -, -, -, -, hcount, -⟩ := updated_counts hupdated
  cases hcollected.symm.trans hc
  exact ⟨hcollected, hupdated, hcount⟩

end AddonRegistry
