import AddonRegistry.Proofs.Glob.Exact
import AddonRegistry.Proofs.Glob.Ways

/-!
# Folders that are moved

A base folder is meant to stand for itself: whatever its name is, the patterns below it should find what they
find after the folder is moved to a place whose name holds nothing that means something in a pattern.  What
they find is told by the folder alone, so this comes down to which folders a search takes for the base.  It
takes every one that looks like it.  So a folder that is unmistakable stands for itself; beside a sibling that
looks like it, files of the sibling are found as well; and behind a hidden name that had to be escaped,
nothing is found.

* `waysOf`, **`filesBelow_eq`** — a pattern finds the same ways below a folder, wherever the folder is.
* `IsWay`, `isWay_of_mem_waysOf` — these ways lead to files in the folder.
* **`moved_folder_finds`** — what is found in a folder and in the folder after it is moved.
* `lookalikes_are_searched` — a folder with a sibling that looks like it, and a hidden one.
-/

namespace AddonRegistry.Glob

variable {tree other : FileTree} {root base p : Path} {pattern : String} {patterns : List String}
  {files : List Path} {node : Node} {names : List String}

/-! ## Ways below a folder -/

/-- The names by which a pattern finds files below a folder. -/
def waysOf (pattern : String) (node : Node) : List (List String) :=
  ((patternsBelow? pattern).map fun patterns =>
    if asksForFolder pattern then [] else waysFrom (legs false patterns) node).getD []

/-- That names lead from a folder to a file below it.  Behind the first one, a name may be empty, and then it
means nothing. -/
structure IsWay (node : Node) (names : List String) : Prop where
  first : ∃ name rest, names = name :: rest ∧ IsFileName name
  each : ∀ name ∈ names, IsNameOrEmpty name
  file : ∃ content, node.follow? names = some (.file content)

/-- The legs of a pattern: names of files and empty ones are written, and first one that is not empty. -/
lemma exists_legs_of_patternsBelow? {found : List (List Token)} (hdots : DotFree pattern)
    (hrelative : Path.isAbsolute ⟨pattern⟩ = false) (hasks : asksForFolder pattern = false)
    (h : patternsBelow? pattern = some found) : ∃ leg rest, legs false found = leg :: rest ∧
      leg.Names IsFileName ∧ ∀ other ∈ leg :: rest, other.Names IsNameOrEmpty := by
  have hfound := mapM_tokens_of_patternsBelow? hasks h
  obtain ⟨leg, rest, hlegs, hfirst⟩ := exists_cons_of_legs hdots hasks hrelative hfound
  refine ⟨leg, rest, hlegs, hfirst, hlegs ▸ ?_⟩
  exact names_of_mem_legs (allows_of_dotFree hdots hfound)

/-- **What a pattern finds below a path** is told by the folder that is there. -/
lemma filesBelow_eq (hnamed : tree.Named) (hp : Standing p) (hfind : tree.find p = .ok node)
    (hrelative : Path.isAbsolute ⟨pattern⟩ = false) (hdots : DotFree pattern) :
    filesBelow tree pattern p = filesAt p (waysOf pattern node) := by
  rw [filesBelow, waysOf]
  cases hpatterns : patternsBelow? pattern with
  | none => rfl
  | some found =>
      rw [Option.map_some, Option.getD_some, Option.map_some, Option.getD_some]
      split_ifs with hasks
      · rfl
      · rw [Bool.not_eq_true] at hasks
        obtain ⟨leg, rest, hlegs, hfirst, hnames⟩ :=
          exists_legs_of_patternsBelow? hdots hrelative hasks hpatterns
        rw [hlegs, hits_eq_of_standing hnamed hnames hfirst hp, waysBelow_of_ok hfind]

lemma isWay_of_mem_waysOf (hnode : node.Named) (hrelative : Path.isAbsolute ⟨pattern⟩ = false)
    (hdots : DotFree pattern) (h : names ∈ waysOf pattern node) : IsWay node names := by
  rw [waysOf] at h
  cases hpatterns : patternsBelow? pattern with
  | none =>
      rw [hpatterns] at h
      cases h
  | some found =>
      rw [hpatterns, Option.map_some, Option.getD_some] at h
      split_ifs at h with hasks
      · cases h
      · rw [Bool.not_eq_true] at hasks
        obtain ⟨leg, rest, hlegs, hfirst, hnames⟩ :=
          exists_legs_of_patternsBelow? hdots hrelative hasks hpatterns
        rw [hlegs] at h
        exact {
          first := exists_cons_of_mem_waysFrom hnode hfirst h
          each := names_of_mem_waysFrom hnode hnames h
          file := exists_file_of_mem_waysFrom h }

/-! ## The folder that is searched -/

/-- A folder as it is written is the same folder. -/
lemma IsBase.find_written (hroot : IsBase root) (hfolder : node.isFolder) (hfind : tree.find root = .ok node) :
    tree.find (written root) = .ok node := by
  obtain ⟨place, hreaches, hplace⟩ := exists_reaches_of_folder hfind hfolder
  exact (find_eq_ok_of_reaches (hroot.reaches hreaches)).mpr hplace

/-- A way that is written behind a folder is below it. -/
lemma IsBase.components_of_isWay (hroot : IsBase root) (h : IsWay node names) :
    (names.foldl step (written root)).components =
      root.components.filter (· ≠ .current) ++ (names.filter (· ≠ "")).map .name := by
  obtain ⟨name, rest, rfl, hname⟩ := h.first
  exact hroot.components_foldl_step hname (List.forall_mem_cons.mp h.each).2

section

variable (hnamed : tree.Named) (hroot : IsBase root) (hfolder : node.isFolder)
  (hfind : tree.find root = .ok node) (hclear : Unmistakable tree root)
  (hpatterns : ∀ pattern ∈ patterns, Path.isAbsolute ⟨pattern⟩ = false ∧ DotFree pattern)
  (hfiles : filesMatching tree root patterns = .ok files)

include hnamed hroot hfolder hfind hclear hpatterns hfiles

/-- **What patterns find below an unmistakable folder** is told by the folder. -/
lemma eq_filesAt_of_unmistakable : files = filesAt (written root) (patterns.flatMap (waysOf · node)) := by
  obtain ⟨place, hreaches, -⟩ := exists_reaches_of_folder hfind hfolder
  obtain ⟨-, rfl⟩ := (filesMatching_eq_ok_iff hroot.nonempty fun pattern hm => (hpatterns pattern hm).1).mp hfiles
  rw [lookalikes_of_unmistakable hroot hreaches hclear, filesAt_flatMap]
  refine List.flatMap_congr fun pattern hm => ?_
  rw [List.flatMap_singleton]
  exact filesBelow_eq hnamed hroot.standing (hroot.find_written hfolder hfind) (hpatterns pattern hm).1
    (hpatterns pattern hm).2

end

/-! ## The statement -/

/-- **What is found in a folder, and in the folder after it is moved** to a place that is spelled without
characters that mean something in a pattern.  Whether there is something wrong with the patterns does not
depend on the place; beyond that, a search only fails at a folder that cannot be read, as its path is too
long.  If neither fails and the folder is unmistakable, then the same ways are found in both, in the same
order, but for files whose path is too long; and these ways lead to files below the folder.  But what is
searched is everything that looks like the folder.  Nothing is found if a name on the way there is hidden and had to be escaped, or if the
folder is spelled with more than one slash behind a dot in front. -/
theorem moved_folder_finds {patterns : List String} {entries : List (String × Node)} (hnamed : tree.Named)
    (hother : other.Named) (hbase : IsBase base) (hplain : IsPlain base.text.toList)
    (hfind : tree.find root = .ok (.folder entries)) (hfind' : other.find base = .ok (.folder entries))
    (hpatterns : ∀ pattern ∈ patterns, Path.isAbsolute ⟨pattern⟩ = false ∧ DotFree pattern) :
    ((∃ files, filesMatching tree root patterns = .ok files) ↔
      ∀ pattern ∈ patterns, (patternsBelow? pattern).isSome ∧ Readable tree root pattern) ∧
    ((∃ files, filesMatching other base patterns = .ok files) ↔
      ∀ pattern ∈ patterns, (patternsBelow? pattern).isSome ∧ Readable other base pattern) ∧
    ∀ files files', filesMatching tree root patterns = .ok files →
      filesMatching other base patterns = .ok files' →
      files = (patterns.flatMap fun pattern => (lookalikes tree root).flatMap (filesBelow tree pattern)) ∧
      ((∃ name ∈ namesTo root, ¬ IsPlain name.toList ∧ isHidden name = true) ∨ ¬ IsBase root → files = []) ∧
      (IsBase root → Unmistakable tree root → ∃ ways : List (List String),
        files = filesAt (written root) ways ∧ files' = filesAt (written base) ways ∧
        ∀ names ∈ ways, IsWay (.folder entries) names ∧
          (names.foldl step (written root)).components =
            root.components.filter (· ≠ .current) ++ (names.filter (· ≠ "")).map .name ∧
          (names.foldl step (written base)).components =
            base.components.filter (· ≠ .current) ++ (names.filter (· ≠ "")).map .name) := by
  have hrelative : ∀ pattern ∈ patterns, Path.isAbsolute ⟨pattern⟩ = false :=
    fun pattern hm => (hpatterns pattern hm).1
  have hne : root.text ≠ "" := by
    obtain ⟨place, hreaches, -⟩ := exists_reaches_of_folder hfind rfl
    exact hreaches.nonempty
  have hiff {t : FileTree} {p : Path} (hp : p.text ≠ "") : (∃ files, filesMatching t p patterns = .ok files) ↔
      Searchable t p patterns := by
    simp only [filesMatching_eq_ok_iff hp hrelative, exists_and_left, exists_eq, and_true]
  refine ⟨hiff hne, hiff hbase.nonempty, fun files files' hfiles hfiles' => ?_⟩
  have hall := ((filesMatching_eq_ok_iff hne hrelative).mp hfiles).2
  refine ⟨hall, fun hnone => ?_, fun hroot hclear =>
    ⟨patterns.flatMap (waysOf · (.folder entries)), ?_, ?_, fun names hm => ?_⟩⟩
  · have hnothing : lookalikes tree root = [] := hnone.elim lookalikes_of_isHidden (lookalikes_of_not_isBase hne)
    rw [hall, hnothing]
    exact List.flatMap_eq_nil_iff.mpr fun _ _ => rfl
  · exact eq_filesAt_of_unmistakable hnamed hroot rfl hfind hclear hpatterns hfiles
  · exact eq_filesAt_of_unmistakable hother hbase rfl hfind' (unmistakable_of_isPlain other hplain) hpatterns
      hfiles'
  · obtain ⟨pattern, hpattern, hnames⟩ := List.mem_flatMap.mp hm
    obtain ⟨hrel, hdots⟩ := hpatterns pattern hpattern
    have hway := isWay_of_mem_waysOf (named_of_find hnamed hfind) hrel hdots hnames
    exact ⟨hway, hroot.components_of_isWay hway, hbase.components_of_isWay hway⟩

/-- A project with one file in each of some folders. -/
def projectsIn (folders : List (String × String)) : FileTree where
  root := .folder (folders.map fun (folder, file) =>
    (folder, .folder [("addon", .folder [(file, .file .empty)])]))
  here := []

/-- A project in brackets is found if there is no other one. -/
theorem bracketed_folder_finds :
    filesMatching (projectsIn [("[P]", "a.ts")]) ⟨"[P]"⟩ ["addon/*.ts"] = .ok [⟨"[P]/addon/a.ts"⟩] ∧
      filesMatching (projectsIn [("q", "a.ts")]) ⟨"q"⟩ ["addon/*.ts"] = .ok [⟨"q/addon/a.ts"⟩] ∧
      ∃ ways, [Path.mk "[P]/addon/a.ts"] = filesAt (written ⟨"[P]"⟩) ways ∧
        [Path.mk "q/addon/a.ts"] = filesAt (written ⟨"q"⟩) ways := by
  have hfound : filesMatching (projectsIn [("[P]", "a.ts")]) ⟨"[P]"⟩ ["addon/*.ts"] =
      .ok [⟨"[P]/addon/a.ts"⟩] := eq_ok_of_toOption (by decide +kernel)
  have hmoved : filesMatching (projectsIn [("q", "a.ts")]) ⟨"q"⟩ ["addon/*.ts"] = .ok [⟨"q/addon/a.ts"⟩] :=
    eq_ok_of_toOption (by decide +kernel)
  obtain ⟨-, -, hfiles⟩ := moved_folder_finds
    (by decide +kernel : (projectsIn [("[P]", "a.ts")]).Named)
    (by decide +kernel : (projectsIn [("q", "a.ts")]).Named)
    (.undotted ⟨by decide, by decide⟩) (by decide)
    (rfl : (projectsIn [("[P]", "a.ts")]).find ⟨"[P]"⟩ =
      .ok (.folder [("addon", .folder [("a.ts", .file .empty)])]))
    (rfl : (projectsIn [("q", "a.ts")]).find ⟨"q"⟩ = _)
    (by decide +kernel : ∀ pattern ∈ ["addon/*.ts"], Path.isAbsolute ⟨pattern⟩ = false ∧ DotFree pattern)
  obtain ⟨-, -, hways⟩ := hfiles _ _ hfound hmoved
  obtain ⟨ways, hroot, hbase, -⟩ := hways (.undotted ⟨by decide, by decide⟩) (by decide +kernel)
  exact ⟨hfound, hmoved, ways, hroot, hbase⟩

/-- **Folders that look alike are searched**, and a hidden one with brackets is not: below the first of three
folders with a project, a file of the second is found as well, and below the third one, nothing is.  After a
move to a plain name, the file of either project is found, and no other. -/
theorem lookalikes_are_searched :
    filesMatching (projectsIn [("[P]", "a.ts"), ("[p]", "b.ts"), (".[x]", "a.ts")]) ⟨"[P]"⟩ ["addon/*.ts"] =
        .ok [⟨"[P]/addon/a.ts"⟩, ⟨"[p]/addon/b.ts"⟩] ∧
      filesMatching (projectsIn [("[P]", "a.ts"), ("[p]", "b.ts"), (".[x]", "a.ts")]) ⟨".[x]"⟩
        ["addon/*.ts"] = .ok [] ∧
      filesMatching (projectsIn [("q", "a.ts")]) ⟨"q"⟩ ["addon/*.ts"] = .ok [⟨"q/addon/a.ts"⟩] ∧
      ∀ base ∈ [Path.mk "[P]", Path.mk ".[x]"],
        (projectsIn [("[P]", "a.ts"), ("[p]", "b.ts"), (".[x]", "a.ts")]).find base =
          (projectsIn [("q", "a.ts")]).find ⟨"q"⟩ := by
  refine ⟨eq_ok_of_toOption (by decide +kernel), eq_ok_of_toOption (by decide +kernel),
    eq_ok_of_toOption (by decide +kernel), fun base hbase => ?_⟩
  rcases List.mem_cons.mp hbase with rfl | hbase
  · rfl
  · rw [List.mem_singleton.mp hbase]
    rfl

end AddonRegistry.Glob
