import AddonRegistry.Proofs.Glob.Respelled

/-!
# One name further on

A search writes one name after the other behind the folder that it starts from, and what a path leads to
with one more name is told by what it leads to without.  The folder itself may be given with dots in front,
which a search does not write; only where there is nothing between such a dot and the next name but
slashes, the search loses its way.

* `Standing` — the paths that a search writes: the working folder, and those that no dot stands in front of.
* `Node.child?` — what is one name further on, seen from a file or folder.
* **`toOption_find_step`**, `toOption_find_step_empty` — what a path leads to with a name behind it.
* `Standing.holds` — what is there has everything above it there.
* `IsBase` — the spellings of a folder that a search finds it by.
* `IsBase.reaches`, **`IsBase.isFolder_of_prefix`** — such a folder is there as it is written, and so is
  everything on the way.
* `exists_namesTo_of_not_isBase` — any other spelling has a name that is empty behind dots.
-/

namespace AddonRegistry

open FileTree (Reaches spellingFault? spellingFault?_eq_none_iff)

/-- What is one name further on.  An empty name stays at a folder. -/
def Node.child? (node : Node) (name : String) : Option Node :=
  if name = "" then if node.isFolder then some node else none
  else if name.utf8ByteSize ≤ longestName then node.get? [name] else none

namespace Glob

variable {tree : FileTree} {root p : Path} {name : String} {names : List String} {place : List String}
  {node child : Node}

/-! ## Where a search stands -/

/-- That a search writes names behind a path: it is the working folder, or no dot stands in front. -/
def Standing (p : Path) : Prop := p = ⟨"."⟩ ∨ Undotted p

lemma step_working (name : String) : step ⟨"."⟩ name = ⟨name⟩ := if_pos (by decide)

lemma toList_ne_of_isFileName (h : IsFileName name) :
    name.toList ≠ [] ∧ name.toList ≠ ['.'] ∧ name.toList ≠ ['.', '.'] := by
  obtain ⟨hempty, hdot, hdots, -⟩ := h
  have hne {other : String} (ho : name ≠ other) : name.toList ≠ other.toList :=
    fun he => ho (String.toList_inj.mp he)
  exact ⟨hne hempty, hne hdot, hne hdots⟩

lemma components_of_isFileName (h : IsFileName name) : Path.components ⟨name⟩ = [.name name] := by
  obtain ⟨hempty, hdot, -⟩ := toList_ne_of_isFileName h
  rw [Path.components_of_splitAtSlashes h.1 (Path.splitAtSlashes_of_notMem h.2.2.2), Path.frontOf,
    if_neg hempty, if_neg hdot, componentOf?_of_isFileName h]
  rfl

lemma stepOf?_of_isFileName (h : IsFileName name) : Path.stepOf? name.toList = some (.into name) := by
  obtain ⟨hempty, hdot, hdots⟩ := toList_ne_of_isFileName h
  rw [Path.stepOf?, if_neg hempty, if_neg hdot, if_neg hdots, String.ofList_toList]

lemma Standing.nonempty (hp : Standing p) : p.text ≠ "" := by
  rcases hp with rfl | hp
  · decide
  · exact hp.nonempty

lemma Standing.step (hp : Standing p) (hname : IsFileName name) : Undotted (Glob.step p name) := by
  rcases hp with rfl | hp
  · rw [step_working]
    exact ⟨hname.1, by rw [components_of_isFileName hname]; simp⟩
  · exact hp.step hname.2.2.2

/-! ## One name further on -/

/-- What a path to a folder leads to. -/
lemma find_eq_ok_of_reaches (h : tree.Reaches p place) :
    tree.find p = .ok node ↔ tree.root.get? place = some node := by
  obtain ⟨other, hl, hf⟩ := FileTree.isFolder_iff.mp h.isFolder
  have hother : tree.Reaches p other := FileTree.reaches_of_locate hl hf
  cases h.walk.symm.trans hother.walk
  rw [FileTree.find_eq_ok]
  constructor
  · rintro ⟨found, hfound, hnode⟩
    cases hl.symm.trans hfound
    exact hnode
  · exact fun hnode => ⟨place, hl, hnode⟩

lemma exists_reaches_of_folder (h : tree.find p = .ok node) (hfolder : node.isFolder) :
    ∃ place, tree.Reaches p place ∧ tree.root.get? place = some node := by
  obtain ⟨place, hl, hnode⟩ := FileTree.find_eq_ok.mp h
  cases node with
  | file content => cases hfolder
  | folder entries => exact ⟨place, FileTree.reaches_of_locate hl ⟨entries, hnode⟩, hnode⟩

/-- A path that can be used can be used without the name at its end. -/
lemma Standing.usable (hp : Standing p) (hname : '/' ∉ name.toList)
    (h : spellingFault? (Glob.step p name) = none) : spellingFault? p = none := by
  rcases hp with rfl | hp
  · decide
  · have hnames : ∀ other ∈ [name], '/' ∉ other.toList := List.forall_mem_singleton.mpr hname
    exact FileTree.spellingFault?_of_beginning hp.nonempty (prefix_foldl_step hnames hp) h

lemma endsInSlash_of_isFileName (hp : Standing p) (hname : IsFileName name) :
    (step p name).endsInSlash = false := by
  rcases hp with rfl | hp
  · rw [step_working, Path.endsInSlash, decide_eq_false_iff_not]
    exact fun h => hname.2.2.2 (List.mem_of_getLast? h)
  · rw [endsInSlash_step hp hname.2.2.2]
    exact decide_eq_false hname.1

/-- A walk to a name behind a path is a walk to a folder, and one step into it. -/
lemma walk_step_eq_ok {goal : List String} (hp : Standing p) (hname : IsFileName name) :
    tree.walk (tree.start (step p name)) (step p name).steps = .ok goal ↔
      ∃ place, tree.walk (tree.start p) p.steps = .ok place ∧ tree.FolderAt place ∧
        name.utf8ByteSize ≤ longestName ∧ goal = place ++ [name] := by
  have hinto (place : List String) : tree.walk place [.into name] = .ok goal ↔
      tree.FolderAt place ∧ name.utf8ByteSize ≤ longestName ∧ goal = place ++ [name] := by
    rw [FileTree.walk_cons_eq_ok, FileTree.walk_nil, Except.ok.injEq, eq_comm, Step.Short, Step.apply]
  have hsteps : [name.toList].filterMap Path.stepOf? = [.into name] :=
    List.filterMap_cons_some (stepOf?_of_isFileName hname)
  rcases hp with rfl | hp
  · have hstart : tree.start ⟨name⟩ = tree.here := by
      rw [FileTree.start, isAbsolute_of_notMem hname.2.2.2, if_neg Bool.false_ne_true]
    have hstay (place : List String) : tree.walk (tree.start ⟨"."⟩) (Path.steps ⟨"."⟩) = .ok place ↔
        tree.FolderAt tree.here ∧ place = tree.here := by
      have hdot : Path.steps ⟨"."⟩ = [.stay] := by decide
      rw [hdot, FileTree.walk_cons_eq_ok, FileTree.walk_nil, Except.ok.injEq, eq_comm]
      constructor
      · rintro ⟨hf, -, hg⟩
        exact ⟨hf, hg⟩
      · rintro ⟨hf, hg⟩
        exact ⟨hf, trivial, hg⟩
    rw [step_working, hstart, Path.steps, Path.splitAtSlashes_of_notMem hname.2.2.2, hsteps, hinto]
    simp only [hstay]
    constructor
    · rintro ⟨hf, hs, hg⟩
      exact ⟨_, ⟨hf, rfl⟩, hf, hs, hg⟩
    · rintro ⟨place, ⟨-, rfl⟩, hf, hs, hg⟩
      exact ⟨hf, hs, hg⟩
  · have hstart : tree.start (step p name) = tree.start p := by
      rw [FileTree.start, FileTree.start, hp.isAbsolute_step hname.2.2.2]
    rw [hstart, hp.steps_step hname.2.2.2, hsteps, FileTree.walk_append]
    simp only [hinto]

/-- A path with the name of a file behind it leads to what has that name in the folder. -/
lemma find_step_eq_ok (hp : Standing p) (hname : IsFileName name) : tree.find (step p name) = .ok child ↔
    spellingFault? (step p name) = none ∧ name.utf8ByteSize ≤ longestName ∧
      ∃ place, tree.Reaches p place ∧ tree.root.get? (place ++ [name]) = some child := by
  rw [FileTree.find_eq_ok]
  simp only [FileTree.locate, FileTree.follow_eq_ok, Path.allSteps, endsInSlash_of_isFileName hp hname,
    Bool.false_eq_true, if_false, walk_step_eq_ok hp hname]
  constructor
  · rintro ⟨goal, ⟨hspelled, place, hwalk, hfolder, hshort, rfl⟩, hchild⟩
    exact ⟨hspelled, hshort, place, ⟨hp.usable hname.2.2.2 hspelled, hwalk, hfolder⟩, hchild⟩
  · rintro ⟨hspelled, hshort, place, hreaches, hchild⟩
    exact ⟨_, ⟨hspelled, place, hreaches.walk, hreaches.folder, hshort, rfl⟩, hchild⟩

/-- **What a path leads to with a name behind it** is told by what it leads to without, unless the path
gets too long. -/
lemma toOption_find_step (hp : Standing p) (hname : IsFileName name)
    (h : spellingFault? (step p name) = none) :
    (tree.find (step p name)).toOption = (tree.find p).toOption.bind (·.child? name) := by
  refine Option.ext fun child => ?_
  rw [toOption_eq_some_iff, find_step_eq_ok hp hname, Option.bind_eq_some_iff]
  simp only [toOption_eq_some_iff, Node.child?, if_neg hname.1]
  constructor
  · rintro ⟨-, hshort, place, hreaches, hchild⟩
    obtain ⟨entries, hentries⟩ := hreaches.folder
    refine ⟨.folder entries, (find_eq_ok_of_reaches hreaches).mpr hentries, ?_⟩
    rw [if_pos hshort]
    rwa [Node.get?_append, hentries] at hchild
  · rintro ⟨node, hnode, hchild⟩
    split_ifs at hchild with hshort
    have hfolder : node.isFolder := by
      cases node with
      | file content => cases hchild
      | folder entries => rfl
    obtain ⟨place, hreaches, hplace⟩ := exists_reaches_of_folder hnode hfolder
    refine ⟨h, hshort, place, hreaches, ?_⟩
    rwa [Node.get?_append, hplace]

/-- A slash at the end of a path asks for a folder. -/
lemma toOption_find_step_empty (hp : Undotted p) (h : spellingFault? (step p "") = none) :
    (tree.find (step p "")).toOption = (tree.find p).toOption.bind (·.child? "") := by
  have hslash : '/' ∉ "".toList := List.not_mem_nil
  have hends : (step p "").endsInSlash = true := endsInSlash_step hp hslash
  have hstart : tree.start (step p "") = tree.start p := by
    rw [FileTree.start, FileTree.start, hp.isAbsolute_step hslash]
  have hsteps : (step p "").allSteps = p.steps ++ [.stay] := by
    rw [Path.allSteps, if_pos hends, hp.steps_step hslash, List.filterMap_cons_none rfl,
      List.filterMap_nil, List.append_nil]
  have hlocate {place : List String} :
      tree.locate (step p "") = .ok place ↔ tree.Reaches p place := by
    rw [FileTree.locate, FileTree.follow_eq_ok, hstart, hsteps, FileTree.walk_append]
    constructor
    · rintro ⟨-, between, hwalk, hstay⟩
      obtain ⟨hfolder, -, hplace⟩ := FileTree.walk_cons_eq_ok.mp hstay
      cases hplace
      exact ⟨Standing.usable (.inr hp) hslash h, hwalk, hfolder⟩
    · exact fun hreaches => ⟨h, place, hreaches.walk,
        FileTree.walk_cons_eq_ok.mpr ⟨hreaches.folder, trivial, rfl⟩⟩
  refine Option.ext fun child => ?_
  rw [toOption_eq_some_iff, FileTree.find_eq_ok, Option.bind_eq_some_iff]
  simp only [toOption_eq_some_iff, hlocate, Node.child?, if_true]
  constructor
  · rintro ⟨place, hreaches, hchild⟩
    obtain ⟨entries, hentries⟩ := hreaches.folder
    cases hchild.symm.trans hentries
    exact ⟨_, (find_eq_ok_of_reaches hreaches).mpr hentries, rfl⟩
  · rintro ⟨node, hnode, hchild⟩
    split_ifs at hchild with hfolder
    cases hchild
    exact exists_reaches_of_folder hnode hfolder

/-- What is there has the folder above it there. -/
lemma Standing.exists_of_holds (hp : Standing p) (hname : IsFileName name)
    (h : tree.holds (Glob.step p name)) :
    ∃ node child, tree.find p = .ok node ∧ node.get? [name] = some child := by
  obtain ⟨child, hfind⟩ := FileTree.holds_iff.mp h
  obtain ⟨-, -, place, hreaches, hchild⟩ := (find_step_eq_ok hp hname).mp hfind
  obtain ⟨entries, hentries⟩ := hreaches.folder
  rw [Node.get?_append, hentries] at hchild
  exact ⟨_, child, (find_eq_ok_of_reaches hreaches).mpr hentries, hchild⟩

/-- What is there has everything above it there. -/
lemma Standing.holds (hp : Standing p) (hnames : ∀ name ∈ names, IsFileName name)
    (h : tree.holds (names.foldl Glob.step p)) : tree.holds p := by
  induction names generalizing p with
  | nil => exact h
  | cons name names ih =>
      rw [List.forall_mem_cons] at hnames
      have hnext : tree.holds (Glob.step p name) := ih (.inr (hp.step hnames.1)) hnames.2 h
      obtain ⟨node, child, hnode, -⟩ := hp.exists_of_holds hnames.1 hnext
      exact FileTree.holds_iff.mpr ⟨node, hnode⟩

/-! ## Base folders -/

/-- The spellings of a folder that a search finds it by.  Dots in front of a path are passed over, with the
slash behind each of them; behind such a dot and more than one slash a search would look for a name that is
empty. -/
inductive IsBase : Path → Prop where
  | undotted {p : Path} (h : Undotted p) : IsBase p
  | working : IsBase ⟨"."⟩
  | workingSlash : IsBase ⟨"./"⟩
  | dotted {p : Path} (habsolute : p.isAbsolute = false) (h : IsBase p) : IsBase ⟨"./" ++ p.text⟩

lemma IsBase.nonempty (h : IsBase p) : p.text ≠ "" := by
  induction h with
  | undotted h => exact h.nonempty
  | working => decide
  | workingSlash => decide
  | dotted => simp

section

variable (hne : p.text ≠ "")

lemma isAbsolute_dotted (p : Path) : Path.isAbsolute ⟨"./" ++ p.text⟩ = false := by
  rw [Path.isAbsolute, String.toList_append]
  rfl

lemma splitAtSlashes_dotted (p : Path) : Path.splitAtSlashes ("./" ++ p.text).toList =
    ['.'] :: Path.splitAtSlashes p.text.toList := by
  rw [String.toList_append]
  rfl

include hne

lemma endsInSlash_dotted : Path.endsInSlash ⟨"./" ++ p.text⟩ = p.endsInSlash := by
  have hlast : ("./" ++ p.text).toList.getLast? = p.text.toList.getLast? := by
    rw [String.toList_append, List.getLast?_append_of_ne_nil]
    simpa using hne
  rw [Path.endsInSlash, Path.endsInSlash, hlast]

/-- A dot in front of a relative path is written as a name of its own, which leads to the same path. -/
lemma namesTo_dotted (habsolute : p.isAbsolute = false) :
    namesTo ⟨"./" ++ p.text⟩ = "." :: namesTo p ∧
      (startOf ("./" ++ p.text).toList).1 = (startOf p.text.toList).1 := by
  rw [namesTo, namesTo, startOf_of_not_isAbsolute habsolute, startOf_of_not_isAbsolute (isAbsolute_dotted p),
    splitAtSlashes_dotted, endsInSlash_dotted hne]
  refine ⟨?_, rfl⟩
  dsimp only
  split_ifs with hslash
  · rw [List.dropLast_cons_of_ne_nil (Path.splitAtSlashes_ne_nil _), List.map_cons]
  · rw [List.map_cons]

lemma written_dotted (habsolute : p.isAbsolute = false) : written ⟨"./" ++ p.text⟩ = written p := by
  obtain ⟨hnames, hstart⟩ := namesTo_dotted hne habsolute
  rw [written, written, hnames, hstart, startOf_of_not_isAbsolute habsolute, List.foldl_cons, step_working]

/-- A dot in front of a relative path to a folder says nothing. -/
lemma reaches_of_dotted (habsolute : p.isAbsolute = false)
    (h : tree.Reaches ⟨"./" ++ p.text⟩ place) : tree.Reaches p place := by
  have hsub : p.text.toList.Sublist ("./" ++ p.text).toList := by
    rw [String.toList_append]
    exact List.sublist_append_right _ _
  obtain ⟨hnul, -, hfits⟩ := spellingFault?_eq_none_iff.mp h.spelled
  have hsteps : Path.steps ⟨"./" ++ p.text⟩ = .stay :: p.steps := by
    rw [Path.steps, splitAtSlashes_dotted]
    rfl
  have hwalk := h.walk
  rw [hsteps, FileTree.walk_cons_eq_ok, FileTree.start, isAbsolute_dotted] at hwalk
  refine ⟨spellingFault?_eq_none_iff.mpr ⟨fun hc => hnul (hsub.subset hc), hne,
    (FileTree.utf8ByteSize_le_of_sublist hsub).trans hfits⟩, ?_, h.folder⟩
  rw [FileTree.start, habsolute]
  exact hwalk.2.2

end

lemma IsBase.standing (h : IsBase root) : Standing (written root) := by
  induction h with
  | undotted h => exact .inr (written_spec h).1
  | working => exact .inl (by decide)
  | workingSlash => exact .inl (by decide)
  | dotted habsolute h ih => rwa [written_dotted h.nonempty habsolute]

/-- A folder is there as it is written. -/
lemma IsBase.reaches (hroot : IsBase root) (h : tree.Reaches root place) :
    tree.Reaches (written root) place := by
  induction hroot with
  | undotted hroot => exact (leadsTo_written hroot h).toReaches
  | working => exact h
  | workingSlash => exact ⟨by decide, h.walk, h.folder⟩
  | dotted habsolute hroot ih =>
      rw [written_dotted hroot.nonempty habsolute]
      exact ih (reaches_of_dotted hroot.nonempty habsolute h)

lemma isFolder_of_prefix_working (h : tree.isFolder ⟨"."⟩) {front : List String} (hf : front <+: ["."]) :
    tree.isFolder (front.foldl step ⟨"."⟩) := by
  cases front with
  | nil => exact h
  | cons name front =>
      obtain ⟨rfl, hnil⟩ := List.cons_prefix_cons.mp hf
      rwa [List.prefix_nil.mp hnil, List.foldl_cons, step_working]

/-- **Every folder on the way** to a folder is there as a search writes it. -/
lemma IsBase.isFolder_of_prefix (hroot : IsBase root) (h : tree.Reaches root place) {front : List String}
    (hf : front <+: namesTo root) : tree.isFolder (front.foldl Glob.step (startOf root.text.toList).1) := by
  induction hroot generalizing front with
  | undotted hroot => exact isFolder_of_prefix_namesTo hroot h hf
  | working => exact isFolder_of_prefix_working (isFolder_working (by decide) h) hf
  | workingSlash => exact isFolder_of_prefix_working (isFolder_working (by decide) h) hf
  | dotted habsolute hroot ih =>
      have hworking := isFolder_working (isAbsolute_dotted _) h
      have hbase := reaches_of_dotted hroot.nonempty habsolute h
      obtain ⟨hnames, hstart⟩ := namesTo_dotted hroot.nonempty habsolute
      rw [hnames] at hf
      rw [hstart]
      cases front with
      | nil => rwa [startOf_of_not_isAbsolute habsolute]
      | cons name front =>
          obtain ⟨rfl, hfront⟩ := List.cons_prefix_cons.mp hf
          have hfolder := ih hbase hfront
          rw [startOf_of_not_isAbsolute habsolute] at hfolder ⊢
          rwa [List.foldl_cons, step_working]

lemma componentOf?_ne_current (stretch : List Char) : Path.componentOf? stretch ≠ some .current := by
  intro h
  rw [Path.componentOf?] at h
  split_ifs at h <;> cases h

/-- A path with a dot in front is that dot, or has a slash behind it. -/
lemma exists_dotted (hne : p.text ≠ "") (h : ¬ Undotted p) : p = ⟨"."⟩ ∨ ∃ text, p = ⟨"./" ++ text⟩ := by
  obtain ⟨stretch, others, hs⟩ := List.exists_cons_of_ne_nil (Path.splitAtSlashes_ne_nil p.text.toList)
  have hstretch : stretch = ['.'] := by
    by_contra hdot
    refine h ⟨hne, ?_⟩
    rw [Path.components_of_splitAtSlashes hne hs, List.head?_append_of_ne_nil _ (Path.frontOf_ne_nil _),
      Path.frontOf, if_neg hdot]
    split_ifs
    · simp
    · rw [Option.head?_toList]
      exact componentOf?_ne_current stretch
  have htext := Path.joinWithSlashes_splitAtSlashes p.text.toList
  rw [hs, hstretch] at htext
  cases others with
  | nil =>
      left
      have hp : p.text = "." := String.toList_inj.mp htext.symm
      rw [← hp]
  | cons next others =>
      right
      rw [Path.joinWithSlashes_cons (List.cons_ne_nil next others)] at htext
      refine ⟨String.ofList (Path.joinWithSlashes (next :: others)), ?_⟩
      have hp : p.text = "./" ++ String.ofList (Path.joinWithSlashes (next :: others)) := by
        rw [← String.toList_inj, String.toList_append, ← htext]
        simp
      rw [← hp]

/-- Behind a dot and more than one slash, a name is empty. -/
lemma exists_namesTo_of_isAbsolute (habsolute : p.isAbsolute) :
    ∃ others, namesTo ⟨"./" ++ p.text⟩ = "." :: "" :: others := by
  obtain ⟨behind, hbehind, -⟩ := exists_startOf_of_isAbsolute habsolute
  have hsplit : Path.splitAtSlashes ("./" ++ p.text).toList =
      ['.'] :: [] :: Path.splitAtSlashes behind := by
    rw [splitAtSlashes_dotted, hbehind, Path.splitAtSlashes, if_pos rfl]
  rw [namesTo, startOf_of_not_isAbsolute (isAbsolute_dotted p), hsplit]
  split_ifs
  · rw [List.dropLast_cons_of_ne_nil (List.cons_ne_nil _ _),
      List.dropLast_cons_of_ne_nil (Path.splitAtSlashes_ne_nil behind)]
    exact ⟨_, rfl⟩
  · exact ⟨_, rfl⟩

/-- **Any other spelling of a folder** has a name that is empty behind dots. -/
lemma exists_namesTo_of_not_isBase {root : Path} (hne : root.text ≠ "") (h : ¬ IsBase root) :
    (startOf root.text.toList).1 = ⟨"."⟩ ∧
      ∃ count others, namesTo root = List.replicate count "." ++ "" :: others := by
  induction hlength : root.text.length using Nat.strong_induction_on generalizing root with
  | _ n ih =>
      rcases exists_dotted hne fun hundotted => h (.undotted hundotted) with rfl | ⟨text, rfl⟩
      · exact absurd .working h
      have htext : Path.text ⟨text⟩ ≠ "" := by
        rintro rfl
        exact h .workingSlash
      rw [startOf_of_not_isAbsolute (isAbsolute_dotted ⟨text⟩)]
      refine ⟨rfl, ?_⟩
      cases habsolute : Path.isAbsolute ⟨text⟩ with
      | false =>
          have hshorter : text.length < n := by
            rw [← hlength, String.length_append]
            exact Nat.lt_add_of_pos_left (by decide)
          obtain ⟨-, count, others, hnames⟩ :=
            ih _ hshorter htext (fun hbase => h (.dotted habsolute hbase)) rfl
          refine ⟨count + 1, others, ?_⟩
          rw [(namesTo_dotted htext habsolute).1, hnames]
          rfl
      | true =>
          obtain ⟨others, hothers⟩ := exists_namesTo_of_isAbsolute habsolute
          exact ⟨1, others, hothers⟩

/-- Behind the working folder there is nothing whose name is empty. -/
lemma leadsOn_working_empty (tree : FileTree) : leadsOn tree ⟨"."⟩ "" = false := by
  have hfind : tree.find ⟨""⟩ = .error .notFound := rfl
  rw [leadsOn, if_neg (by decide), step_working, FileTree.holds, hfind]
  rfl

end Glob

end AddonRegistry
