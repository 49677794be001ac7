import AddonRegistry.Proofs.Glob.Folders
import AddonRegistry.Proofs.RegistryBelow
import AddonRegistry.Proofs.Run.Frame
import AddonRegistry.Proofs.Run.Patterns

/-!
# The spelling of the root

Two roots that lead to one folder stand for the same project, and a run should come to the same registry
under either.  It does so if no dot stands in front of the root: patterns then find files by the same names
below both spellings, so the files hold the same texts and are imported from the same places, and everything
else that a run reads or writes is below the root as well.

A dot in front is not written by a search.  So the files that are found below `./p` start with `p`, not with
the root, and they are imported from there by climbing out of the root and in again.

Two spellings can differ for other reasons too, and those are left out here: a folder whose name means
something in a pattern is looked for like a wildcard, in one spelling and not in the other, and a path that
gets too long under one spelling leads nowhere.

* `exists_scan_map` — files that register the same, below two roots in the same way, come to the same lines.
* `Options.rootedAt`, `Respelled` — the same project, with its root spelled otherwise.
* `Respelled.exists_foundBy` — its files are found by the same names.
* `Respelled.exists_found`, `Respelled.run_eq` — a run finds the same there, and ends alike.
* **`root_spelling_does_not_matter`** — what a run under either spelling comes to.
* `dotted_root_climbs` — a root with a dot in front.
-/

namespace AddonRegistry

variable {options : Options} {other root : Path} {tree : FileTree} {files others : List Path}

/-! ## What files register -/

section

variable {ι : Type} {f g : ι → Path} {l : List ι}

/-- Files that register the same have the same entries, each with its own path. -/
lemma exists_entriesOf_map
    (h : ∀ i ∈ l, (examine tree (f i)).toOption = (examine tree (g i)).toOption) :
    ∃ found : List (ι × List Member), (∀ entry ∈ found, entry.1 ∈ l) ∧
      entriesOf tree (l.map f) = found.map (fun entry => (f entry.1, entry.2)) ∧
      entriesOf tree (l.map g) = found.map (fun entry => (g entry.1, entry.2)) := by
  induction l with
  | nil => exact ⟨[], nofun, rfl, rfl⟩
  | cons i l ih =>
      rw [List.forall_mem_cons] at h
      obtain ⟨found, hfound, hf, hg⟩ := ih h.2
      have hmem : ∀ entry ∈ found, entry.1 ∈ i :: l := fun entry he =>
        List.mem_cons_of_mem i (hfound entry he)
      have hcons (file : Path) (files : List Path) : entriesOf tree (file :: files) =
          (entryOf? (file, examine tree file)).toList ++ entriesOf tree files := by
        rw [entriesOf_eq_filterMap, entriesOf_eq_filterMap, List.filterMap_cons]
        cases entryOf? (file, examine tree file) <;> rfl
      rw [List.map_cons, List.map_cons, hcons, hcons, hf, hg]
      have hread := h.1
      cases hi : examine tree (f i) with
      | error failure =>
          rw [hi] at hread
          cases hj : examine tree (g i) with
          | error failure => exact ⟨found, hmem, rfl, rfl⟩
          | ok members => rw [hj] at hread; cases hread
      | ok members =>
          rw [hi] at hread
          rw [eq_ok_of_toOption hread.symm]
          cases members with
          | nil => exact ⟨found, hmem, rfl, rfl⟩
          | cons m members =>
              exact ⟨(i, m :: members) :: found, List.forall_mem_cons.mpr ⟨List.mem_cons_self, hmem⟩,
                rfl, rfl⟩

/-- **Files that register the same**, and whose paths mean the same but for their root, come to the same lines
if they are imported from the same places. -/
lemma exists_scan_map {scan : Scan} {root other : Path} {rest : ι → List Component}
    (hread : ∀ i ∈ l, (examine tree (f i)).toOption = (examine tree (g i)).toOption)
    (hf : ∀ i ∈ l, (f i).components = root.components ++ rest i)
    (hg : ∀ i ∈ l, (g i).components = other.components ++ rest i)
    (hscan : (surveyOf tree (l.map f)).scan = .ok scan) :
    ∃ scan', (surveyOf tree (l.map g)).scan = .ok scan' ∧ scan.fileCount = scan'.fileCount ∧
      ∀ package, Body.ofScan scan root package = Body.ofScan scan' other package := by
  obtain ⟨hall, rfl⟩ := scan_surveyOf_eq_ok_iff.mp hscan
  obtain ⟨found, hfound, hentries, hentries'⟩ := exists_entriesOf_map hread
  have hall' : ∀ file ∈ l.map g, ∃ members, examine tree file = .ok members := by
    rw [List.forall_mem_map] at hall ⊢
    intro i hi
    obtain ⟨members, hm⟩ := hall i hi
    have hone := hread i hi
    rw [hm] at hone
    exact ⟨members, eq_ok_of_toOption hone.symm⟩
  refine ⟨_, scan_surveyOf_eq_ok_iff.mpr ⟨hall', rfl⟩, ?_⟩
  -- the two paths of a file tell it apart from the others in the same way
  have hkeys : firsts (fun entry : ι × List Member => Scan.meaning (f entry.1, entry.2)) found =
      firsts (fun entry : ι × List Member => Scan.meaning (g entry.1, entry.2)) found := by
    refine firsts_congr fun x hx y hy => ?_
    rw [Scan.meaning, Scan.meaning, Scan.meaning, Scan.meaning, hf _ (hfound x hx), hf _ (hfound y hy),
      hg _ (hfound x hx), hg _ (hfound y hy), List.append_cancel_left_eq, List.append_cancel_left_eq]
  rw [hentries, hentries', firsts_map, firsts_map, hkeys]
  refine ⟨by rw [Scan.fileCount, Scan.fileCount, List.length_map, List.length_map], fun package => ?_⟩
  have himport : ∀ entry ∈ firsts (fun entry : ι × List Member => Scan.meaning (g entry.1, entry.2)) found,
      importPath (f entry.1) root package = importPath (g entry.1) other package := by
    intro entry he
    have hmem := hfound entry (mem_of_mem_firsts he)
    exact importPath_eq_of_append (hf _ hmem) (hg _ hmem) package
  rw [Body.ofScan, Body.ofScan, List.flatMap_map, List.flatMap_map, List.flatMap_map, List.flatMap_map]
  refine congrArg₂ Body.mk (congrArg distinct ?_) rfl
  refine List.flatMap_congr fun entry he => ?_
  simp only [himport entry he]

end

/-! ## Two spellings of a root -/

/-- The same project, with its root spelled otherwise. -/
def Options.rootedAt (options : Options) (root : Path) : Options := { options with root }

/-- That a root is spelled so that a search writes it as it is: no dot stands in front, and no character
means something in a pattern. -/
structure PlainRoot (root : Path) : Prop extends Glob.Undotted root where
  plain : Glob.IsPlain root.text.toList

/-- That nothing which a run reads or writes gets too long a path under another spelling of the root: neither
the registry nor the manifest, none of the files that are found, and no folder that is read to find them. -/
structure LeavesRoom (options : Options) (tree : FileTree) (other : Path) : Prop where
  registry : (other.join options.registryFile).text.utf8ByteSize ≤ longestPath
  manifest : (other.join ⟨manifestFile⟩).text.utf8ByteSize ≤ longestPath
  folders : ∀ pattern ∈ options.patterns, Glob.Room (Glob.foldersRead tree options.root pattern) other
  files : ∀ files, collect options tree = .ok files → Glob.Room files other

/-- That two spellings of a root stand for the same project. -/
structure Respelled (options : Options) (other : Path) (tree : FileTree) (place : List String) : Prop where
  named : tree.Named
  reaches : tree.Reaches options.root place
  reaches' : tree.Reaches other place
  root : PlainRoot options.root
  root' : PlainRoot other
  registry : options.registryFile.isAbsolute = false
  patterns : ∀ pattern ∈ options.patterns, Path.isAbsolute ⟨pattern⟩ = false
  room : LeavesRoom options tree other
  room' : LeavesRoom (options.rootedAt other) tree options.root

section

variable {place : List String}

lemma Respelled.symm (h : Respelled options other tree place) :
    Respelled (options.rootedAt other) options.root tree place where
  named := h.named
  reaches := h.reaches'
  reaches' := h.reaches
  root := h.root'
  root' := h.root
  registry := h.registry
  patterns := h.patterns
  room := h.room'
  room' := h.room

/-- That two files are below two roots by the same components, and so imported from the same place: by the
names that lead there, through the package if the first of them is the source folder. -/
def BelowAlike (root other : Path) (file file' : Path) : Prop :=
  ∃ below : List Component, file.components = root.components ++ below ∧
    file'.components = other.components ++ below ∧
    (∀ package, importPath file root package = importPath file' other package) ∧
    ∀ package, ∀ names : List String, (∀ name ∈ names, '/' ∉ name.toList) → below = names.map .name →
      importPath file root package = importOf package names

/-- How the files of a project are found under two spellings of its root: by the same names. -/
structure FoundBy (options : Options) (other : Path) (tree : FileTree) (ways : List (List String)) : Prop where
  names : ∀ names ∈ ways, ∀ name ∈ names, '/' ∉ name.toList
  collected : collect options tree =
    .ok (ways.map fun names => names.foldl Glob.step (Glob.written options.root))
  collected' : collect (options.rootedAt other) tree =
    .ok (ways.map fun names => names.foldl Glob.step (Glob.written other))

lemma isFile_of_mem_collect {files : List Path} (h : collect options tree = .ok files) :
    ∀ file ∈ files, tree.isFile file := by
  obtain ⟨hread, rfl⟩ := collect_eq_ok.mp h
  intro file hf
  obtain ⟨pattern, hp, hf⟩ := List.mem_flatMap.mp hf
  obtain ⟨found, hfound⟩ := hread pattern hp
  rw [filesOf, hfound] at hf
  obtain ⟨hfiles, -⟩ := Glob.filesMatchingOne_eq_ok_iff.mp hfound
  obtain ⟨searched, -, rfl⟩ := Option.map_eq_some_iff.mp hfiles
  exact (List.mem_filter.mp hf).2

/-- **The files of a project** are found by the same names under two spellings of its root. -/
lemma Respelled.exists_foundBy (h : Respelled options other tree place)
    (hcollect : collect options tree = .ok files) :
    ∃ ways, FoundBy options other tree ways ∧
      files = ways.map fun names => names.foldl Glob.step (Glob.written options.root) := by
  obtain ⟨hread, hfiles⟩ := collect_eq_ok.mp hcollect
  have hread' : ∀ pattern ∈ options.patterns, ∃ found, Glob.filesMatchingOne tree other pattern = .ok found := by
    intro pattern hp
    obtain ⟨found, hfound⟩ := hread pattern hp
    exact Glob.exists_filesMatchingOne_of_room h.root.toUndotted h.reaches h.root.plain (h.patterns pattern hp)
      h.named h.root'.toUndotted h.reaches' h.root'.plain hfound (h.room'.folders pattern hp)
  have hcollect' : collect (options.rootedAt other) tree =
      .ok (options.patterns.flatMap (filesOf tree other)) := collect_eq_ok.mpr ⟨hread', rfl⟩
  have htwins : List.Forall₂ (Glob.Twin (Glob.written options.root) (Glob.written other)) files
      (options.patterns.flatMap (filesOf tree other)) := by
    rw [hfiles]
    refine Glob.forall₂_flatMap fun pattern hp => ?_
    obtain ⟨found, hfound⟩ := hread pattern hp
    obtain ⟨found', hfound'⟩ := hread' pattern hp
    have hof : filesOf tree options.root pattern = found := by rw [filesOf, hfound]; rfl
    have hof' : filesOf tree other pattern = found' := by rw [filesOf, hfound']; rfl
    rw [hof, hof']
    refine Glob.forall₂_filesMatchingOne h.named h.root.toUndotted h.root'.toUndotted h.reaches h.reaches'
      h.root.plain h.root'.plain (h.patterns pattern hp) hfound hfound' (fun file hf => ?_) fun file hf => ?_
    · refine h.room.files files hcollect file ?_
      rw [hfiles]
      exact List.mem_flatMap.mpr ⟨pattern, hp, hof ▸ hf⟩
    · exact h.room'.files _ hcollect' file (List.mem_flatMap.mpr ⟨pattern, hp, hof' ▸ hf⟩)
  obtain ⟨ways, hnames, hways, hways'⟩ := Glob.exists_names_of_forall₂ htwins
  exact ⟨ways, ⟨hnames, hways ▸ hcollect, hways' ▸ hcollect'⟩, hways⟩

/-- The names by which a file is found lead to the same place from either spelling, and mean the same. -/
lemma Respelled.exists_locate (h : Respelled options other tree place) {ways : List (List String)}
    (hfound : FoundBy options other tree ways) {names : List String} (hmem : names ∈ ways) :
    ∃ (goal : List String) (content : ByteArray),
      tree.locate (names.foldl Glob.step (Glob.written options.root)) = .ok goal ∧
      tree.locate (names.foldl Glob.step (Glob.written other)) = .ok goal ∧
      tree.root.get? goal = some (.file content) := by
  have hfile := isFile_of_mem_collect hfound.collected _ (List.mem_map_of_mem hmem)
  have hfile' := isFile_of_mem_collect hfound.collected' _ (List.mem_map_of_mem hmem)
  obtain ⟨goal, content, hl, hf⟩ := FileTree.isFile_iff.mp hfile
  have hlocate := (Glob.leadsTo_written h.root.toUndotted h.reaches).locate_eq
    (Glob.leadsTo_written h.root'.toUndotted h.reaches') (hfound.names names hmem)
    (Glob.size_le_of_isFile hfile) (Glob.size_le_of_isFile hfile')
  exact ⟨goal, content, hl, hlocate ▸ hl, hf⟩

lemma components_of_names {names : List String} (hroot : Glob.Undotted root)
    (hnames : ∀ name ∈ names, '/' ∉ name.toList) :
    (names.foldl Glob.step (Glob.written root)).components =
      root.components ++ (names.map String.toList).filterMap Path.componentOf? := by
  obtain ⟨hundotted, -, hcomponents, -⟩ := Glob.written_spec hroot
  rw [Glob.components_foldl_step hnames hundotted, hcomponents]

/-- **What a run finds** comes to the same lines under two spellings of the root. -/
lemma Respelled.exists_found (h : Respelled options other tree place) {scan : Scan} {state : RegistryState}
    (hfound : found options tree = .ok ⟨scan, state⟩) :
    ∃ scan', found (options.rootedAt other) tree = .ok ⟨scan', state⟩ ∧ scan.fileCount = scan'.fileCount ∧
      ∀ package, Body.ofScan scan options.root package = Body.ofScan scan' other package := by
  obtain ⟨files, hcollect, hscan, hregistry⟩ := found_eq_ok.mp hfound
  obtain ⟨ways, hways, rfl⟩ := h.exists_foundBy hcollect
  obtain ⟨scan', hscan', hcount, hbody⟩ := exists_scan_map
    (fun names hmem => by
      obtain ⟨goal, content, hl, hl', hf⟩ := h.exists_locate hways hmem
      exact toOption_examine_eq_of_locate hl hl' hf)
    (fun names hmem => components_of_names h.root.toUndotted (hways.names names hmem))
    (fun names hmem => components_of_names h.root'.toUndotted (hways.names names hmem)) hscan
  have hread := readRegistry_join_eq h.reaches h.reaches' h.registry h.room'.registry h.room.registry
  rw [Options.registryPath] at hregistry
  rw [hregistry] at hread
  exact ⟨scan', found_eq_ok.mpr ⟨_, hways.collected', hscan', eq_ok_of_toOption hread.symm⟩, hcount, hbody⟩

/-- **A run** ends alike under two spellings of the root, and leaves the same files. -/
lemma Respelled.run_eq (h : Respelled options other tree place) :
    (run options.writing tree).tree = (run (options.rootedAt other).writing tree).tree ∧
      (run options.writing tree).result.toOption =
        (run (options.rootedAt other).writing tree).result.toOption := by
  have hname := readPackageName_join_eq h.reaches h.reaches' h.room'.manifest h.room.manifest
  cases course options tree with
  | unread failure hfound =>
      obtain ⟨htree, hresult⟩ := writing_unread hfound
      cases hfound' : found (options.rootedAt other) tree with
      | error failure' =>
          obtain ⟨htree', hresult'⟩ := writing_unread hfound'
          rw [htree, htree', hresult, hresult']
          exact ⟨rfl, rfl⟩
      | ok findings =>
          obtain ⟨scan, hfound'', -⟩ := h.symm.exists_found hfound'
          cases hfound.symm.trans hfound''
  | absent scan hfound =>
      obtain ⟨scan', hfound', -⟩ := h.exists_found hfound
      obtain ⟨htree, hresult⟩ := writing_absent hfound
      obtain ⟨htree', hresult'⟩ := writing_absent hfound'
      obtain ⟨-, -, -, habsent⟩ := found_eq_ok.mp hfound
      have htelling := h.reaches.telling_ne_nil h.registry (readRegistry_eq_absent.mp habsent)
      obtain ⟨hwritten, hdone⟩ := writeRegistry_join_eq h.reaches h.reaches' h.registry h.room'.registry
        h.room.registry htelling stub
      rw [htree, htree', hresult, hresult', toOption_map, toOption_map]
      exact ⟨hwritten, congrArg (Option.map fun _ => Outcome.created) hdone⟩
  | unnamed scan text failure hfound hbody =>
      obtain ⟨scan', hfound', -⟩ := h.exists_found hfound
      obtain ⟨htree, hresult⟩ := writing_unnamed hfound hbody
      rw [expectedBody_eq_error.mp hbody] at hname
      cases hname' : readPackageName tree other with
      | ok package =>
          rw [hname'] at hname
          cases hname
      | error failure' =>
          have hbody' : expectedBody (options.rootedAt other) tree scan' = .error failure' :=
            expectedBody_eq_error.mpr hname'
          obtain ⟨htree', hresult'⟩ := writing_unnamed hfound' hbody'
          rw [htree, htree', hresult, hresult']
          exact ⟨rfl, rfl⟩
  | present scan text body hfound hbody =>
      obtain ⟨scan', hfound', hcount, hsame⟩ := h.exists_found hfound
      obtain ⟨package, hpackage, rfl⟩ := expectedBody_eq_ok.mp hbody
      rw [hpackage] at hname
      have hbody' : expectedBody (options.rootedAt other) tree scan' =
          .ok (Body.ofScan scan' other package) :=
        expectedBody_eq_ok.mpr ⟨package, eq_ok_of_toOption hname.symm, rfl⟩
      obtain ⟨goal, hl, -, htree, hresult⟩ := writing_present hfound hbody
      obtain ⟨goal', hl', -, htree', hresult'⟩ := writing_present hfound' hbody'
      have hlocate := h.reaches.locate_join_eq h.reaches' h.registry h.room'.registry h.room.registry
      have hgoal : goal = goal' := Except.ok.inj (hl.symm.trans (hlocate.trans hl'))
      rw [htree, htree', hresult, hresult', hcount, hsame package, hgoal]
      exact ⟨rfl, rfl⟩

/-- A run that ends well leaves the same registry under two spellings of the root. -/
lemma Respelled.exists_registry (h : Respelled options other tree place) {outcome : Outcome}
    (hrun : (run options.writing tree).result = .ok outcome) :
    ∃ text, (run options.writing tree).tree.readText options.registryPath = .ok text ∧
      (run options.writing tree).tree.readText (options.rootedAt other).registryPath = .ok text := by
  obtain ⟨-, -, -, hended⟩ := run_changes_only_registry options tree
  obtain ⟨text, goal, -, hreplaced, hread⟩ := hended outcome hrun
  have hkeeps {base : Path} (hbase : tree.Reaches base place) :
      (run options.writing tree).tree.Reaches base place :=
    hbase.mono hreplaced.here fun place hf => hreplaced.folders place hf
  have hsame := (hkeeps h.reaches).readText_join_eq (hkeeps h.reaches') h.registry h.room'.registry
    h.room.registry
  have htext := readRegistry_eq_present.mp hread
  exact ⟨text, htext, hsame ▸ htext⟩

/-- Files that are found by the same names are imported from the same places. -/
lemma Respelled.forall₂_collect (h : Respelled options other tree place)
    (hcollect : collect options tree = .ok files) :
    ∃ files', collect (options.rootedAt other) tree = .ok files' ∧
      List.Forall₂ (BelowAlike options.root other) files files' := by
  obtain ⟨ways, hways, rfl⟩ := h.exists_foundBy hcollect
  refine ⟨_, hways.collected', List.forall₂_map_left_iff.mpr (List.forall₂_map_right_iff.mpr ?_)⟩
  refine List.forall₂_same.mpr fun names hmem => ?_
  have hcomponents := components_of_names h.root.toUndotted (hways.names names hmem)
  have hcomponents' := components_of_names h.root'.toUndotted (hways.names names hmem)
  refine ⟨_, hcomponents, hcomponents', fun package => importPath_eq_of_append hcomponents hcomponents' package,
    fun package more hmore hbelow => ?_⟩
  rw [hbelow] at hcomponents
  exact importPath_of_append hmore hcomponents package

end

/-- **The spelling of the root does not matter** if no dot stands in front of it and none of its characters
means something in a pattern.  Of two such roots that lead to the same folder, with relative patterns and a
relative registry file, and with room for the longer paths of the files and of the folders that are searched,
a run under either ends in the same way and leaves the same files, and if it ends well there is the same text
under the path that either has for the registry.  The files that are found are below either root by the same
components, and so they are imported from the same places: what is in the source folder through the
package. -/
theorem root_spelling_does_not_matter (options : Options) (other : Path) (tree : FileTree)
    (hnamed : tree.Named) (hfolder : tree.isFolder options.root = true)
    (hsame : tree.SamePlace options.root other) (hroot : PlainRoot options.root) (hother : PlainRoot other)
    (hregistry : options.registryFile.isAbsolute = false)
    (hpatterns : ∀ pattern ∈ options.patterns, Path.isAbsolute ⟨pattern⟩ = false)
    (hroom : LeavesRoom options tree other)
    (hroom' : LeavesRoom (options.rootedAt other) tree options.root) :
    (run options.writing tree).result.toOption =
        (run (options.rootedAt other).writing tree).result.toOption ∧
      (run options.writing tree).tree = (run (options.rootedAt other).writing tree).tree ∧
      (∀ outcome, (run options.writing tree).result = .ok outcome → ∃ text,
        (run options.writing tree).tree.readText options.registryPath = .ok text ∧
          (run (options.rootedAt other).writing tree).tree.readText
            (options.rootedAt other).registryPath = .ok text) ∧
      ∀ files, collect options tree = .ok files →
        ∃ files', collect (options.rootedAt other) tree = .ok files' ∧
          List.Forall₂ (BelowAlike options.root other) files files' := by
  obtain ⟨place, hl, hl'⟩ := hsame
  obtain ⟨goal, hgoal, hfolderAt⟩ := FileTree.isFolder_iff.mp hfolder
  cases hl.symm.trans hgoal
  have h : Respelled options other tree place := {
    named := hnamed
    reaches := FileTree.reaches_of_locate hl hfolderAt
    reaches' := FileTree.reaches_of_locate hl' hfolderAt
    root := hroot
    root' := hother
    registry := hregistry
    patterns := hpatterns
    room := hroom
    room' := hroom' }
  obtain ⟨htree, hresult⟩ := h.run_eq
  refine ⟨hresult, htree, fun outcome hrun => ?_, fun files hcollect => h.forall₂_collect hcollect⟩
  obtain ⟨text, hread, hread'⟩ := h.exists_registry hrun
  exact ⟨text, hread, htree ▸ hread'⟩

/-- A project below the working folder, with an empty registry. -/
def lowerProject : FileTree where
  root := .folder [("home", .folder [("p", .folder [
    ("package.json", .file "\x7b\"name\": \"pkg\"\x7d".toUTF8),
    ("addon", .folder [
      ("x.ts", .file (("declare module '" ++ registryModule ++ "' \x7b\n" ++
        "  interface Registry \x7b 'x': typeof X \x7d\n\x7d\n").toUTF8)),
      ("template-registry.ts", .file .empty)])])])]
  here := ["home"]

/-- What is asked for there. -/
def lowerOptions : Options where
  patterns := ["addon/x.ts"]
  root := ⟨"p"⟩

/-- The registry of that project, if its file is imported from a path. -/
def lowerRegistry (path : String) : String :=
  render ⟨["import type X from '" ++ path ++ "';"], ["'x': typeof X;"]⟩

lemma run_lowerProject : (run lowerOptions.writing lowerProject).result = .ok (.updated 1 1) ∧
    (run lowerOptions.writing lowerProject).tree.readText lowerOptions.registryPath =
      .ok (lowerRegistry "pkg/x.ts") := by
  have h : (run lowerOptions.writing lowerProject).result.toOption = some (.updated 1 1) ∧
      ((run lowerOptions.writing lowerProject).tree.readText lowerOptions.registryPath).toOption =
        some (lowerRegistry "pkg/x.ts") := by
    decide +kernel
  exact ⟨eq_ok_of_toOption h.1, eq_ok_of_toOption h.2⟩

/-- The project comes to the same registry if its root is given as it is seen from above, with slashes that
say nothing. -/
theorem lower_project_seen_from_above :
    (run (lowerOptions.rootedAt ⟨"/home//p/"⟩).writing lowerProject).result = .ok (.updated 1 1) ∧
      (run lowerOptions.writing lowerProject).tree.readText lowerOptions.registryPath =
        .ok (lowerRegistry "pkg/x.ts") ∧
      (run (lowerOptions.rootedAt ⟨"/home//p/"⟩).writing lowerProject).tree.readText
        (lowerOptions.rootedAt ⟨"/home//p/"⟩).registryPath = .ok (lowerRegistry "pkg/x.ts") := by
  have hcollected : collect lowerOptions lowerProject = .ok [⟨"p/addon/x.ts"⟩] :=
    eq_ok_of_toOption (by decide +kernel)
  have hcollected' : collect (lowerOptions.rootedAt ⟨"/home//p/"⟩) lowerProject =
      .ok [⟨"/home/p/addon/x.ts"⟩] := eq_ok_of_toOption (by decide +kernel)
  obtain ⟨hupdated, hregistry⟩ := run_lowerProject
  obtain ⟨hresult, -, htext, -⟩ := root_spelling_does_not_matter lowerOptions ⟨"/home//p/"⟩ lowerProject
    (by decide +kernel) (by decide +kernel) (by decide +kernel)
    ⟨⟨by decide, by decide⟩, by decide +kernel⟩ ⟨⟨by decide, by decide⟩, by decide +kernel⟩
    (by decide) (by decide)
    ⟨by decide +kernel, by decide +kernel, by decide +kernel, fun files h => by
      cases hcollected.symm.trans h
      exact List.forall_mem_singleton.mpr (by decide +kernel)⟩
    ⟨by decide +kernel, by decide +kernel, by decide +kernel, fun files h => by
      cases hcollected'.symm.trans h
      exact List.forall_mem_singleton.mpr (by decide +kernel)⟩
  obtain ⟨text, hread, hread'⟩ := htext _ hupdated
  cases hregistry.symm.trans hread
  rw [hupdated] at hresult
  exact ⟨eq_ok_of_toOption hresult.symm, hregistry, hread'⟩

/-- **A dot in front of the root** is not written by a search, so the file that is found is not below the
root any more: it is imported by climbing out of the project and in again. -/
theorem dotted_root_climbs :
    lowerProject.SamePlace lowerOptions.root ⟨"./p"⟩ ∧
      collect lowerOptions lowerProject = .ok [⟨"p/addon/x.ts"⟩] ∧
      collect (lowerOptions.rootedAt ⟨"./p"⟩) lowerProject = .ok [⟨"p/addon/x.ts"⟩] ∧
      (run lowerOptions.writing lowerProject).result = .ok (.updated 1 1) ∧
      (run lowerOptions.writing lowerProject).tree.readText lowerOptions.registryPath =
        .ok (lowerRegistry "pkg/x.ts") ∧
      (run (lowerOptions.rootedAt ⟨"./p"⟩).writing lowerProject).result = .ok (.updated 1 1) ∧
      (run (lowerOptions.rootedAt ⟨"./p"⟩).writing lowerProject).tree.readText
        (lowerOptions.rootedAt ⟨"./p"⟩).registryPath = .ok (lowerRegistry "../../p/addon/x.ts") ∧
      lowerRegistry "pkg/x.ts" ≠ lowerRegistry "../../p/addon/x.ts" := by
  have hdotted : (run (lowerOptions.rootedAt ⟨"./p"⟩).writing lowerProject).result.toOption =
        some (.updated 1 1) ∧
      ((run (lowerOptions.rootedAt ⟨"./p"⟩).writing lowerProject).tree.readText
        (lowerOptions.rootedAt ⟨"./p"⟩).registryPath).toOption =
          some (lowerRegistry "../../p/addon/x.ts") := by
    decide +kernel
  exact ⟨by decide +kernel, eq_ok_of_toOption (by decide +kernel), eq_ok_of_toOption (by decide +kernel),
    run_lowerProject.1, run_lowerProject.2, eq_ok_of_toOption hdotted.1, eq_ok_of_toOption hdotted.2,
    by decide +kernel⟩

end AddonRegistry
