import AddonRegistry.Proofs.Glob.Twins

/-!
# Folders under another name

A search below a folder that is there gets to it as it writes its names, and goes on from there.  So what a
pattern finds below a folder are the files that its legs lead to from the folder as it is written, and below
another spelling of the folder it finds the same files.

* `expand_named` — a search goes through the names on the way to a folder that is there.
* `expand_namesTo` — so it goes on from the folder as it is written.
* **`filesFound?_of_reaches`** — what a pattern finds below a folder that is there.
* **`forall₂_filesMatchingOne`** — below two spellings of a folder, files are found by the same names.
-/

namespace AddonRegistry.Glob

open FileTree (Reaches spellingFault? spellingFault?_eq_none_iff)

variable {tree : FileTree} {root other p : Path} {place : List String} {names : List String}
  {pattern : String}

/-! ## The way to a folder -/

/-- A folder that is there is there as a search writes it. -/
lemma leadsTo_written (hroot : Undotted root) (h : tree.Reaches root place) :
    LeadsTo tree (written root) place := by
  obtain ⟨hundotted, habsolute, -, hsteps⟩ := written_spec hroot
  have hsub := written_sublist hroot
  obtain ⟨hnul, -, hfits⟩ := spellingFault?_eq_none_iff.mp h.spelled
  have hstart : tree.start (written root) = tree.start root := by
    rw [FileTree.start, FileTree.start, habsolute]
  exact {
    undotted := hundotted
    spelled := spellingFault?_eq_none_iff.mpr ⟨fun hc => hnul (hsub.subset hc), hundotted.nonempty,
      (FileTree.utf8ByteSize_le_of_sublist hsub).trans hfits⟩
    walk := by rw [hstart, hsteps, h.walk]
    folder := h.folder }

/-- A name leads on from a folder to a folder. -/
lemma leadsOn_of_isFolder {name : String} (hhere : tree.isFolder p) (hnext : tree.isFolder (step p name)) :
    leadsOn tree p name := by
  rw [leadsOn]
  split_ifs
  · exact hhere
  · exact FileTree.holds_of_isFolder hnext

/-- A search goes through names if each of them leads to a folder. -/
lemma expand_named {rest : List Leg} : ∀ {names : List String} {p : Path},
    (∀ front, front <+: names → tree.isFolder (front.foldl step p)) →
      expand tree (names.map .named ++ rest) p = expand tree rest (names.foldl step p)
  | [], _, _ => rfl
  | name :: names, p, h => by
      have hleads : leadsOn tree p name := leadsOn_of_isFolder (h [] List.nil_prefix) (h [name] ⟨names, rfl⟩)
      rw [List.map_cons, List.cons_append, expand, if_pos hleads, List.foldl_cons]
      exact expand_named fun front hf => h (name :: front) ((List.cons_prefix_cons).mpr ⟨rfl, hf⟩)

/-- Names are written behind a path. -/
lemma prefix_foldl_step (hnames : ∀ name ∈ names, '/' ∉ name.toList) (hp : Undotted p) :
    p.text.toList <+: (names.foldl step p).text.toList := by
  induction names generalizing p with
  | nil => exact List.prefix_rfl
  | cons name names ih =>
      rw [List.forall_mem_cons] at hnames
      refine List.IsPrefix.trans ?_ (ih hnames.2 (hp.step hnames.1))
      rw [hp.step_eq, Path.toList_join hp.nonempty (isAbsolute_of_notMem hnames.1), List.append_assoc]
      exact List.prefix_append _ _

/-- Every folder on the way to a folder is there. -/
lemma LeadsTo.isFolder_of_prefix (h : LeadsTo tree (names.foldl step p) place)
    (hnames : ∀ name ∈ names, '/' ∉ name.toList) (hp : Undotted p) {front : List String}
    (hfront : front <+: names) : tree.isFolder (front.foldl step p) := by
  obtain ⟨back, rfl⟩ := hfront
  obtain ⟨hnames, hback⟩ := List.forall_mem_append.mp hnames
  have hundotted := hp.foldl hnames
  rw [List.foldl_append] at h
  refine h.isFolder_of_beginning hundotted.nonempty (prefix_foldl_step hback hundotted) ?_
  rw [steps_foldl_step hback hundotted]
  exact List.prefix_append _ _

/-- The working folder is there if a relative path leads to a folder. -/
lemma isFolder_working (hroot : root.isAbsolute = false) (h : tree.Reaches root place) :
    tree.isFolder ⟨"."⟩ := by
  have hsteps : root.steps ≠ [] := by
    intro hnil
    rw [Path.isAbsolute_of_steps_eq_nil h.nonempty hnil] at hroot
    cases hroot
  obtain ⟨first, others, hfirst⟩ := List.exists_cons_of_ne_nil hsteps
  have hwalk := h.walk
  rw [hfirst, FileTree.walk_cons_eq_ok, FileTree.start, hroot] at hwalk
  obtain ⟨hfolder, -, -⟩ := hwalk
  have hspelled : spellingFault? ⟨"."⟩ = none := by decide
  have hstay : tree.walk tree.here [.stay] = .ok tree.here :=
    FileTree.walk_cons_eq_ok.mpr ⟨hfolder, trivial, rfl⟩
  exact Reaches.isFolder ⟨hspelled, hstay, hfolder⟩

/-- Every folder on the way to a folder is there as a search writes it. -/
lemma isFolder_of_prefix_namesTo (hroot : Undotted root) (h : tree.Reaches root place)
    {front : List String} (hf : front <+: namesTo root) :
    tree.isFolder (front.foldl step (startOf root.text.toList).1) := by
  have hwritten := leadsTo_written hroot h
  obtain ⟨first, stretch, others, hby⟩ := exists_writtenBy hroot
  rw [hby.written_eq] at hwritten
  rcases hby.way with ⟨hstart, hnames⟩ | ⟨habsolute, hstart, hfirst, hnames⟩
  · rw [hnames] at hf
    rw [hstart]
    exact hwritten.isFolder_of_prefix hby.slash_notMem hby.undotted hf
  · rw [hnames] at hf
    rw [hstart]
    cases front with
    | nil => exact isFolder_working habsolute h
    | cons name front =>
        obtain ⟨rfl, hfront⟩ := List.cons_prefix_cons.mp hf
        rw [List.foldl_cons, hfirst]
        exact hwritten.isFolder_of_prefix hby.slash_notMem hby.undotted hfront

/-- A search below a folder that is there goes on from the folder as it is written. -/
lemma expand_namesTo (hroot : Undotted root) (h : tree.Reaches root place) (rest : List Leg) :
    expand tree ((namesTo root).map .named ++ rest) (startOf root.text.toList).1 =
      expand tree rest (written root) :=
  expand_named fun _ hf => isFolder_of_prefix_namesTo hroot h hf

/-! ## What a pattern finds -/

/-- **What a pattern finds** below a folder that is there. -/
lemma filesFound?_of_reaches (hroot : Undotted root) (h : tree.Reaches root place)
    (hplain : IsPlain root.text.toList) (hrelative : Path.isAbsolute ⟨pattern⟩ = false) :
    filesFound? tree root pattern = (patternsBelow? pattern).map fun patterns =>
      if asksForFolder pattern then [] else hits tree (legs false patterns) (written root) := by
  rw [filesFound?_of_isPlain hroot.nonempty hplain hrelative]
  simp only [expand_namesTo hroot h, hits]

lemma slashless_of_patternsBelow? {patterns : List (List Token)} (h : patternsBelow? pattern = some patterns) :
    Slashless (legs false patterns) := by
  obtain ⟨whole, -, hstretches⟩ := Option.bind_eq_some_iff.mp h
  refine names_of_mem_legs fun tokensOf hm => ?_
  obtain ⟨stretch, hs, ht⟩ := exists_mem_of_mapM_eq_ok (eq_ok_of_toOption hstretches) hm
  have hmem : stretch ∈ Path.splitAtSlashes pattern.toList := by
    rw [stretchesBelow] at hs
    split_ifs at hs
    · exact List.dropLast_subset _ hs
    · exact hs
  refine allows_of_tokens ht ?_ fun _ => ⟨by decide, by decide⟩
  rw [String.toList_ofList]
  exact Path.slash_notMem_of_mem_splitAtSlashes hmem

/-- A folder as it is written takes no more room than the folder as it is spelled. -/
lemma Room.written {files : List Path} (hother : Undotted other) (h : Room files other) :
    Room files (written other) := by
  intro file hf
  have hsize := FileTree.utf8ByteSize_le_of_sublist (written_sublist hother)
  have hfile := h file hf
  omega

/-- **Below two spellings of a folder**, a pattern finds files by the same names. -/
theorem forall₂_filesMatchingOne {files files' : List Path} (hnamed : tree.Named) (hroot : Undotted root)
    (hother : Undotted other) (h : tree.Reaches root place) (h' : tree.Reaches other place)
    (hplain : IsPlain root.text.toList) (hplain' : IsPlain other.text.toList)
    (hrelative : Path.isAbsolute ⟨pattern⟩ = false) (hfound : filesMatchingOne tree root pattern = .ok files)
    (hfound' : filesMatchingOne tree other pattern = .ok files') (hroom : Room files other)
    (hroom' : Room files' root) : List.Forall₂ (Twin (written root) (written other)) files files' := by
  obtain ⟨hfiles, -⟩ := filesMatchingOne_eq_ok_iff.mp hfound
  obtain ⟨hfiles', -⟩ := filesMatchingOne_eq_ok_iff.mp hfound'
  rw [filesFound?_of_reaches hroot h hplain hrelative] at hfiles
  rw [filesFound?_of_reaches hother h' hplain' hrelative] at hfiles'
  obtain ⟨patterns, hpatterns, hfiles⟩ := Option.map_eq_some_iff.mp hfiles
  obtain ⟨patterns', hpatterns', hfiles'⟩ := Option.map_eq_some_iff.mp hfiles'
  cases hpatterns.symm.trans hpatterns'
  split_ifs at hfiles hfiles' with hasks
  · rw [← hfiles, ← hfiles']
    exact .nil
  · rw [← hfiles] at hroom ⊢
    rw [← hfiles'] at hroom' ⊢
    have hnone : ∀ name ∈ ([] : List String), '/' ∉ name.toList := List.forall_mem_nil _
    exact forall₂_hits hnamed (leadsTo_written hroot h) (leadsTo_written hother h')
      (slashless_of_patternsBelow? hpatterns) hnone (hroom.written hother) (hroom'.written hroot)

/-- Files that are written by the same names below two folders are told by these names. -/
lemma exists_names_of_forall₂ {base : Path} {files files' : List Path}
    (h : List.Forall₂ (Twin base other) files files') : ∃ ways : List (List String),
      (∀ names ∈ ways, ∀ name ∈ names, '/' ∉ name.toList) ∧
        files = ways.map (fun names => names.foldl step base) ∧
        files' = ways.map (fun names => names.foldl step other) := by
  induction h with
  | nil => exact ⟨[], nofun, rfl, rfl⟩
  | cons htwin _ ih =>
      obtain ⟨names, hnames, rfl, rfl⟩ := htwin
      obtain ⟨ways, hways, rfl, rfl⟩ := ih
      exact ⟨names :: ways, List.forall_mem_cons.mpr ⟨hnames, hways⟩, rfl, rfl⟩

end AddonRegistry.Glob
