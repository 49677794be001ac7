import AddonRegistry.Proofs.Glob.Lookalikes
import AddonRegistry.Proofs.Glob.Wildcards

/-!
# Which files a pattern without brackets finds

A pattern is meant to name files stretch by stretch, and `Denotes` is that reading: every character stands
for itself, a question mark for any one, a star for any number, and a name that starts with a dot has to be
given its dot.  A search does otherwise in two ways.  In a stretch with wildcards it does not tell the two
cases of an ASCII letter apart.  And there it finds no hidden name, even where the dot is given: a dot in
front of such a stretch finds the folder itself and the one above it.

* `Denotes` — what a stretch is meant to name.
* `Finds`, `FindsDots` — what a search finds for it.
* `exists_of_mem_expand_legOf`, **`mem_expand_legOf`** — the legs of stretches lead to files by such names.
* `filesMatching_eq_ok_iff_of_isSimple`, `IsBase.eq_of_filesMatching` — so this is what patterns find below a
  folder.
* `IsBase.components_foldl_step` — a path that is found means the folder with the names behind it.
* **`simple_patterns_find`** — all of it, and when it comes to what the patterns denote.
* `cases_and_dots_are_lost` — a file that is found but not denoted, and one that is denoted but not found.
-/

namespace AddonRegistry.Glob

open FileTree (Reaches)

variable {tree : FileTree} {root p file : Path} {pattern name : String} {names : List String}
  {stretch : List Char} {stretches : List (List Char)} {place : List String}

/-! ## What a stretch names -/

/-- That a stretch without brackets is meant to name a file or folder. -/
structure Denotes (stretch : List Char) (name : String) : Prop where
  file : IsFileName name
  agrees : Matches (· = ·) stretch name.toList
  /-- A dot in front of a name is given as a dot. -/
  dot : isHidden name = true → stretch.head? = some '.'

/-- That a search finds an entry of a folder for a stretch without brackets. -/
def Finds (stretch : List Char) (name : String) : Prop :=
  if IsLiteral stretch then name.toList = stretch
  else IsFileName name ∧ isHidden name = false ∧
    Matches (fun c d => sameLetter c d = true) stretch name.toList

/-- Whether a stretch has wildcards behind a dot. -/
def IsLedByDot (stretch : List Char) : Prop := ¬ IsLiteral stretch ∧ stretch.head? = some '.'

instance (stretch : List Char) : Decidable (IsLedByDot stretch) := inferInstanceAs (Decidable (_ ∧ _))

/-- That a search finds the folder itself or the one above it for a stretch without brackets. -/
def FindsDots (stretch : List Char) (name : String) : Prop :=
  IsLedByDot stretch ∧ (name = "." ∨ name = "..")

/-- Whether no letter of a stretch is in the other case in a name of a tree. -/
def CasesAgree (tree : FileTree) (stretch : List Char) : Prop :=
  ∀ d ∈ tree.root.descendants, ∀ name ∈ d.1, ∀ c ∈ stretch, ∀ e ∈ name.toList,
    sameLetter c e = true → c = e

instance (tree : FileTree) (stretch : List Char) : Decidable (CasesAgree tree stretch) :=
  have (name : String) : Decidable (∀ c ∈ stretch, ∀ e ∈ name.toList, sameLetter c e = true → c = e) :=
    have (c : Char) : Decidable (∀ e ∈ name.toList, sameLetter c e = true → c = e) := List.decidableBAll _ _
    List.decidableBAll _ _
  List.decidableBAll _ _

lemma sameLetter_self (c : Char) : sameLetter c c = true := decide_eq_true rfl

lemma Finds.isFileName (hstretch : IsFileName (String.ofList stretch)) (h : Finds stretch name) :
    IsFileName name := by
  rw [Finds] at h
  split_ifs at h
  · rwa [← h, String.ofList_toList] at hstretch
  · exact h.1

/-- Where no dot stands in front of wildcards, what is denoted is found. -/
lemma Denotes.finds (h : Denotes stretch name) (hdot : ¬ IsLedByDot stretch) : Finds stretch name := by
  rw [Finds]
  split_ifs with hliteral
  · have hall := (matches_iff_of_isLiteral hliteral).mp h.agrees
    rw [List.forall₂_eq_eq_eq] at hall
    exact hall.symm
  · refine ⟨h.file, ?_, h.agrees.mono fun c _ d _ he => he ▸ sameLetter_self c⟩
    rw [← Bool.not_eq_true]
    exact fun hhidden => hdot ⟨hliteral, h.dot hhidden⟩

/-- Where the cases of the letters agree, what is found is denoted. -/
lemma Finds.denotes (hstretch : IsFileName (String.ofList stretch)) (h : Finds stretch name)
    (hcases : ¬ IsLiteral stretch → ∀ c ∈ stretch, ∀ d ∈ name.toList, sameLetter c d = true → c = d) :
    Denotes stretch name := by
  have hfile := h.isFileName hstretch
  rw [Finds] at h
  split_ifs at h with hliteral
  · refine ⟨hfile, (matches_iff_of_isLiteral hliteral).mpr ?_, fun hhidden => ?_⟩
    · rw [List.forall₂_eq_eq_eq, h]
    · rwa [isHidden, decide_eq_true_eq, h] at hhidden
  · obtain ⟨-, hhidden, hmatches⟩ := h
    exact ⟨hfile, hmatches.mono (hcases hliteral), fun h => absurd h (by simp [hhidden])⟩

/-! ## The legs of stretches -/

/-- A path with a name behind it that a search has found.  The two names that every folder has are written
even behind the working folder. -/
def onward (p : Path) (name : String) : Path :=
  if name = "." ∨ name = ".." then p.join ⟨name⟩ else step p name

lemma onward_of_isFileName (p : Path) (hname : IsFileName name) : onward p name = step p name :=
  if_neg fun h => h.elim hname.2.1 hname.2.2.1

lemma foldl_onward (hnames : ∀ name ∈ names, IsFileName name) (p : Path) :
    names.foldl onward p = names.foldl step p := by
  induction names generalizing p with
  | nil => rfl
  | cons name names ih =>
      rw [List.forall_mem_cons] at hnames
      rw [List.foldl_cons, List.foldl_cons, onward_of_isFileName p hnames.1, ih hnames.2]

lemma mem_dotNames_map_tokenOf (h : name ∈ dotNames (stretch.map tokenOf)) :
    stretch.head? = some '.' ∧ (name = "." ∨ name = "..") := by
  rw [dotNames] at h
  split_ifs at h with hhead
  · rw [List.head?_map, Option.map_eq_some_iff] at hhead
    obtain ⟨c, hc, htoken⟩ := hhead
    have hdot : c = '.' := by
      rw [tokenOf] at htoken
      split_ifs at htoken
      exact Token.char.inj htoken
    have hname := (List.mem_filter.mp h).1
    rw [List.mem_cons, List.mem_singleton] at hname
    exact ⟨hdot ▸ hc, hname.symm⟩
  · cases h

lemma fits_iff_of_not_isHidden (h : isHidden name = false) : fits (stretch.map tokenOf) name = true ↔
    Matches (fun c d => sameLetter c d = true) stretch name.toList := by
  rw [isHidden, decide_eq_false_iff_not] at h
  exact fitsFrom_iff fun _ => h

/-- What is there and not hidden can be found by wildcards. -/
lemma Standing.mem_visible (hp : Standing p) (hname : IsFileName name) (h : tree.holds (Glob.step p name))
    (hhidden : isHidden name = false) : name ∈ visible tree p := by
  obtain ⟨node, child, hnode, hchild⟩ := hp.exists_of_holds hname h
  rw [visible, hnode]
  exact List.mem_filter.mpr ⟨Node.mem_names_of_get? hchild, by simp [hhidden]⟩

/-- **What the legs of stretches lead to** is written by names that a search finds for them. -/
lemma exists_of_mem_expand_legOf (hnamed : tree.Named) : ∀ {stretches : List (List Char)} {p : Path},
    (∀ stretch ∈ stretches, IsFileName (String.ofList stretch)) →
    file ∈ expand tree (stretches.map legOf) p →
    ∃ names, List.Forall₂ (fun stretch name => Finds stretch name ∨ FindsDots stretch name) stretches names ∧
      file = names.foldl onward p
  | [], p, _, h => ⟨[], .nil, List.mem_singleton.mp h⟩
  | stretch :: rest, p, hstretches, h => by
      obtain ⟨hstretch, hrest⟩ := List.forall_mem_cons.mp hstretches
      rw [List.map_cons, legOf] at h
      split_ifs at h with hliteral
      · rw [expand] at h
        split_ifs at h
        · obtain ⟨names, hnames, rfl⟩ := exists_of_mem_expand_legOf hnamed hrest h
          refine ⟨String.ofList stretch :: names, .cons (.inl ?_) hnames, ?_⟩
          · rw [Finds, if_pos hliteral, String.toList_ofList]
          · rw [List.foldl_cons, onward_of_isFileName p hstretch]
        · cases h
      · rw [expand, List.mem_append, List.mem_flatMap, List.mem_flatMap] at h
        rcases h with ⟨name, hname, h⟩ | ⟨name, hname, h⟩
        · obtain ⟨hhead, hdots⟩ := mem_dotNames_map_tokenOf hname
          split_ifs at h
          · obtain ⟨names, hnames, rfl⟩ := exists_of_mem_expand_legOf hnamed hrest h
            refine ⟨name :: names, .cons (.inr ⟨⟨hliteral, hhead⟩, hdots⟩) hnames, ?_⟩
            rw [List.foldl_cons, onward, if_pos hdots]
          · cases h
        · obtain ⟨hvisible, hfits⟩ := List.mem_filter.mp hname
          have hfile := isFileName_of_mem_visible hnamed hvisible
          have hhidden := isHidden_of_mem_visible hvisible
          obtain ⟨names, hnames, rfl⟩ := exists_of_mem_expand_legOf hnamed hrest h
          refine ⟨name :: names, .cons (.inl ?_) hnames, ?_⟩
          · rw [Finds, if_neg hliteral]
            exact ⟨hfile, hhidden, (fits_iff_of_not_isHidden hhidden).mp hfits⟩
          · rw [List.foldl_cons, onward_of_isFileName p hfile]

lemma forall_isFileName (hstretches : ∀ stretch ∈ stretches, IsFileName (String.ofList stretch))
    (h : List.Forall₂ Finds stretches names) : ∀ name ∈ names, IsFileName name := by
  induction h with
  | nil => exact nofun
  | cons hfinds _ ih =>
      obtain ⟨hstretch, hrest⟩ := List.forall_mem_cons.mp hstretches
      exact List.forall_mem_cons.mpr ⟨hfinds.isFileName hstretch, ih hrest⟩

/-- **The legs of stretches lead** to the files that are written by names that a search finds for them. -/
lemma mem_expand_legOf (hp : Standing p) (hstretches : ∀ stretch ∈ stretches, IsFileName (String.ofList stretch))
    (h : List.Forall₂ Finds stretches names) (hfile : tree.isFile (names.foldl step p)) :
    names.foldl step p ∈ expand tree (stretches.map legOf) p := by
  induction h generalizing p with
  | nil => exact List.mem_singleton_self p
  | @cons stretch name stretches names hfinds hall ih =>
      obtain ⟨hstretch, hrest⟩ := List.forall_mem_cons.mp hstretches
      have hname : IsFileName name := hfinds.isFileName hstretch
      have hnames : ∀ name ∈ names, IsFileName name := forall_isFileName hrest hall
      have hholds : tree.holds (step p name) :=
        Standing.holds (.inr (hp.step hname)) hnames (FileTree.holds_of_isFile hfile)
      have hfound := ih (.inr (hp.step hname)) hrest hfile
      rw [Finds] at hfinds
      rw [List.map_cons, legOf, List.foldl_cons]
      split_ifs at hfinds ⊢ with hliteral
      · have hleads : leadsOn tree p name := by
          rwa [leadsOn, if_neg fun h => h.elim hname.2.1 hname.2.2.1]
        rw [← hfinds, String.ofList_toList, expand, if_pos hleads]
        exact hfound
      · obtain ⟨-, hhidden, hmatches⟩ := hfinds
        rw [expand, List.mem_append, List.mem_flatMap, List.mem_flatMap]
        exact .inr ⟨name, List.mem_filter.mpr ⟨hp.mem_visible hname hholds hhidden,
          (fits_iff_of_not_isHidden hhidden).mpr hmatches⟩, hfound⟩

/-! ## Below a folder -/

lemma IsSimple.isFileName (h : IsSimple pattern) :
    ∀ stretch ∈ Path.splitAtSlashes pattern.toList, IsFileName (String.ofList stretch) := by
  intro stretch hs
  obtain ⟨hempty, hdot, hdots⟩ := h.stretches stretch hs
  have hof {other : String} (ho : stretch ≠ other.toList) : String.ofList stretch ≠ other :=
    fun he => ho (by rw [← he, String.toList_ofList])
  exact ⟨hof hempty, hof hdot, hof hdots, by
    rw [String.toList_ofList]
    exact Path.slash_notMem_of_mem_splitAtSlashes hs⟩

lemma IsSimple.filesBelow (h : IsSimple pattern) : filesBelow tree pattern =
    hits tree ((Path.splitAtSlashes pattern.toList).map legOf) := by
  funext p
  rw [Glob.filesBelow, h.patternsBelow?, Option.map_some, Option.getD_some, h.asksForFolder,
    if_neg Bool.false_ne_true, legs_of_stretches]

section

variable {patterns : List String} {files : List Path} (hpatterns : ∀ pattern ∈ patterns, IsSimple pattern)

include hpatterns

/-- What patterns without brackets find below a folder, if every folder can be read. -/
lemma filesMatching_eq_ok_iff_of_isSimple (hne : root.text ≠ "") :
    filesMatching tree root patterns = .ok files ↔ (∀ pattern ∈ patterns, Readable tree root pattern) ∧
      files = patterns.flatMap fun pattern =>
        (lookalikes tree root).flatMap (hits tree ((Path.splitAtSlashes pattern.toList).map legOf)) := by
  rw [filesMatching_eq_ok_iff hne fun pattern hm => (hpatterns pattern hm).isAbsolute, Searchable]
  refine and_congr (forall₂_congr fun pattern hm => ?_) ?_
  · rw [(hpatterns pattern hm).patternsBelow?]
    exact and_iff_right rfl
  · rw [List.flatMap_congr fun pattern hm => by rw [(hpatterns pattern hm).filesBelow]]

variable (hfiles : filesMatching tree root patterns = .ok files)

include hfiles

lemma IsBase.eq_of_filesMatching (hroot : IsBase root) (h : tree.Reaches root place)
    (hplain : IsPlain root.text.toList) : files = patterns.flatMap fun pattern =>
      hits tree ((Path.splitAtSlashes pattern.toList).map legOf) (written root) := by
  obtain ⟨-, hall⟩ := (filesMatching_eq_ok_iff_of_isSimple hpatterns hroot.nonempty).mp hfiles
  rw [lookalikes_of_unmistakable hroot h (unmistakable_of_isPlain tree hplain)] at hall
  simpa only [List.flatMap_singleton] using hall

lemma eq_nil_of_not_isBase (hne : root.text ≠ "") (hroot : ¬ IsBase root) : files = [] := by
  obtain ⟨-, rfl⟩ := (filesMatching_eq_ok_iff_of_isSimple hpatterns hne).mp hfiles
  rw [lookalikes_of_not_isBase hne hroot]
  exact List.flatMap_eq_nil_iff.mpr fun _ _ => rfl

end

/-- Names that are written behind a folder, if a file is there, are names in the tree. -/
lemma Standing.exists_descendant (hp : Standing p) (hnames : ∀ name ∈ names, IsFileName name)
    (h : tree.holds (names.foldl Glob.step p)) : ∀ name ∈ names, ∃ d ∈ tree.root.descendants, name ∈ d.1 := by
  induction names generalizing p with
  | nil => exact nofun
  | cons name names ih =>
      rw [List.forall_mem_cons] at hnames
      have hnext := Standing.holds (.inr (hp.step hnames.1)) hnames.2 h
      refine List.forall_mem_cons.mpr ⟨?_, ih (.inr (hp.step hnames.1)) hnames.2 h⟩
      obtain ⟨node, child, hnode, hchild⟩ := hp.exists_of_holds hnames.1 hnext
      obtain ⟨place, -, hplace⟩ := FileTree.find_eq_ok.mp hnode
      obtain ⟨other, hother⟩ := Node.exists_mem_descendants_of_mem_names (Node.mem_names_of_get? hchild)
      exact ⟨_, Node.mem_descendants_of_get? hother hplace, List.mem_append_right place List.mem_cons_self⟩

/-- Behind its front, a path has no dot as a component. -/
lemma filter_current_filterMap (body : List (List Char)) :
    (body.filterMap Path.componentOf?).filter (· ≠ .current) = body.filterMap Path.componentOf? := by
  refine List.filter_eq_self.mpr fun component hm => decide_eq_true ?_
  obtain ⟨stretch, -, hs⟩ := List.mem_filterMap.mp hm
  rintro rfl
  exact componentOf?_ne_current stretch hs

lemma toList_componentOf? (stretch : List Char) :
    (Path.componentOf? stretch).toList = [stretch].filterMap Path.componentOf? := by
  cases h : Path.componentOf? stretch <;> simp [h]

lemma Undotted.filter_current (hp : Undotted p) : p.components.filter (· ≠ .current) = p.components := by
  obtain ⟨stretch, others, hs⟩ := List.exists_cons_of_ne_nil (Path.splitAtSlashes_ne_nil p.text.toList)
  have hhead := hp.undotted
  rw [Path.components_of_splitAtSlashes hp.nonempty hs, Path.frontOf] at hhead ⊢
  rw [List.filter_append, filter_current_filterMap]
  split_ifs at hhead ⊢
  · rfl
  · exact absurd rfl hhead
  · rw [toList_componentOf?, filter_current_filterMap]

lemma filter_current_dotted (hne : p.text ≠ "") (habsolute : p.isAbsolute = false) :
    (Path.components ⟨"./" ++ p.text⟩).filter (· ≠ .current) = p.components.filter (· ≠ .current) := by
  obtain ⟨stretch, others, hs⟩ := List.exists_cons_of_ne_nil (Path.splitAtSlashes_ne_nil p.text.toList)
  have hstretch : stretch ≠ [] := by
    rintro rfl
    rw [Path.isAbsolute_of_nil hne hs] at habsolute
    cases habsolute
  have hdotted : Path.splitAtSlashes (Path.text ⟨"./" ++ p.text⟩).toList = ['.'] :: stretch :: others :=
    (splitAtSlashes_dotted p).trans (congrArg _ hs)
  have hfront : Path.frontOf ['.'] = [.current] := by decide
  have hsplit : (stretch :: others).filterMap Path.componentOf? =
      [stretch].filterMap Path.componentOf? ++ others.filterMap Path.componentOf? := by
    rw [← List.filterMap_append]
    rfl
  rw [Path.components_of_splitAtSlashes (by simp) hdotted, Path.components_of_splitAtSlashes hne hs, hfront,
    Path.frontOf, if_neg hstretch, hsplit]
  split_ifs with hdot
  · rw [hdot]
    rfl
  · rw [toList_componentOf?]
    rfl

/-- **A path that is found** means the folder with the names behind it. -/
lemma IsBase.components_foldl_step (hroot : IsBase root) (hname : IsFileName name)
    (hnames : ∀ other ∈ names, IsNameOrEmpty other) :
    ((name :: names).foldl step (written root)).components =
      root.components.filter (· ≠ .current) ++ ((name :: names).filter (· ≠ "")).map .name := by
  have hall : ∀ other ∈ name :: names, IsNameOrEmpty other := List.forall_mem_cons.mpr ⟨.inr hname, hnames⟩
  have hslash : ∀ other ∈ name :: names, '/' ∉ other.toList := fun other ho =>
    slash_notMem_of_isNameOrEmpty (hall other ho)
  have hworking : ((name :: names).foldl step ⟨"."⟩).components =
      ((name :: names).filter (· ≠ "")).map .name := by
    rw [List.foldl_cons, Glob.components_foldl_step (List.forall_mem_cons.mp hslash).2
      (Standing.step (.inl rfl) hname), step_working, components_of_isFileName hname,
      filterMap_componentOf? hnames, List.filter_cons_of_pos (by simpa using hname.1), List.map_cons]
    rfl
  induction hroot with
  | undotted hroot =>
      obtain ⟨hwritten, -, hcomponents, -⟩ := written_spec hroot
      rw [Glob.components_foldl_step hslash hwritten, hcomponents, hroot.filter_current,
        filterMap_componentOf? hall]
  | working => exact hworking
  | workingSlash => exact hworking
  | dotted habsolute hroot ih =>
      rw [written_dotted hroot.nonempty habsolute, ih, filter_current_dotted hroot.nonempty habsolute]

/-! ## The statement -/

/-- Pairs of a list that belong together do so under another relation that holds of its members. -/
lemma forall₂_of_mem {α β : Type} {R S : α → β → Prop} {l : List α} {m : List β} (h : List.Forall₂ R l m)
    (himp : ∀ a ∈ l, ∀ b ∈ m, R a b → S a b) : List.Forall₂ S l m := by
  induction h with
  | nil => exact .nil
  | cons hab _ ih =>
      refine .cons (himp _ List.mem_cons_self _ List.mem_cons_self hab) (ih fun a ha b hb => ?_)
      exact himp a (List.mem_cons_of_mem _ ha) b (List.mem_cons_of_mem _ hb)

section

variable {patterns : List String} {files : List Path} (hroot : IsBase root) (h : tree.Reaches root place)
  (hplain : IsPlain root.text.toList) (hpatterns : ∀ pattern ∈ patterns, IsSimple pattern)
  (hfiles : filesMatching tree root patterns = .ok files)

include hroot h hplain hpatterns hfiles

lemma mem_files_iff : file ∈ files ↔ ∃ pattern ∈ patterns,
    tree.isFile file ∧ file ∈ expand tree ((Path.splitAtSlashes pattern.toList).map legOf) (written root) := by
  rw [hroot.eq_of_filesMatching hpatterns hfiles h hplain]
  simp only [List.mem_flatMap, hits, List.mem_filter, and_comm]

/-- What is found is written by names that a search finds. -/
lemma exists_names_of_mem_files (hnamed : tree.Named) (hfile : file ∈ files) :
    tree.isFile file ∧ ∃ pattern ∈ patterns, ∃ names,
      List.Forall₂ (fun stretch name => Finds stretch name ∨ FindsDots stretch name)
        (Path.splitAtSlashes pattern.toList) names ∧
      file = names.foldl onward (written root) := by
  obtain ⟨pattern, hm, hisFile, hexpand⟩ := (mem_files_iff hroot h hplain hpatterns hfiles).mp hfile
  obtain ⟨names, hnames, he⟩ :=
    exists_of_mem_expand_legOf hnamed (hpatterns pattern hm).isFileName hexpand
  exact ⟨hisFile, pattern, hm, names, hnames, he⟩

/-- What is written by names of entries that a search finds is found. -/
lemma mem_files_of_finds (hm : pattern ∈ patterns)
    (hfinds : List.Forall₂ Finds (Path.splitAtSlashes pattern.toList) names)
    (hisFile : tree.isFile (names.foldl step (written root))) :
    names.foldl step (written root) ∈ files :=
  (mem_files_iff hroot h hplain hpatterns hfiles).mpr ⟨pattern, hm, hisFile,
    mem_expand_legOf hroot.standing (hpatterns pattern hm).isFileName hfinds hisFile⟩

/-- Where dots and cases make no difference, the files that are denoted are found, and no others. -/
lemma mem_files_iff_denotes (hnamed : tree.Named)
    (hclear : ∀ pattern ∈ patterns, ∀ stretch ∈ Path.splitAtSlashes pattern.toList, ¬ IsLiteral stretch →
      stretch.head? ≠ some '.' ∧ CasesAgree tree stretch) :
    file ∈ files ↔ tree.isFile file ∧ ∃ pattern ∈ patterns, ∃ names,
      List.Forall₂ Denotes (Path.splitAtSlashes pattern.toList) names ∧
      file = names.foldl step (written root) := by
  have hled : ∀ pattern ∈ patterns, ∀ stretch ∈ Path.splitAtSlashes pattern.toList,
      ¬ IsLedByDot stretch := fun pattern hm stretch hs hled => (hclear pattern hm stretch hs hled.1).1 hled.2
  constructor
  · intro hfile
    obtain ⟨hisFile, pattern, hm, names, hnames, rfl⟩ :=
      exists_names_of_mem_files hroot h hplain hpatterns hfiles hnamed hfile
    have hstretches := (hpatterns pattern hm).isFileName
    have hfinds : List.Forall₂ Finds (Path.splitAtSlashes pattern.toList) names :=
      forall₂_of_mem hnames fun stretch hs _ _ h => h.resolve_right fun hdots =>
        hled pattern hm stretch hs hdots.1
    have hall := forall_isFileName hstretches hfinds
    rw [foldl_onward hall] at hisFile ⊢
    have hhere := hroot.standing.exists_descendant hall (FileTree.holds_of_isFile hisFile)
    refine ⟨hisFile, pattern, hm, names, forall₂_of_mem hfinds fun stretch hs name hn hfind => ?_, rfl⟩
    obtain ⟨d, hd, hname⟩ := hhere name hn
    exact hfind.denotes (hstretches stretch hs) fun hliteral =>
      (hclear pattern hm stretch hs hliteral).2 d hd name hname
  · rintro ⟨hisFile, pattern, hm, names, hdenotes, rfl⟩
    refine mem_files_of_finds hroot h hplain hpatterns hfiles hm ?_ hisFile
    exact forall₂_of_mem hdenotes fun stretch hs name _ h => h.finds (hled pattern hm stretch hs)

end

/-- **What patterns without brackets find** below a folder that no character of means something in a pattern.
There is nothing wrong with them, so files are found if every folder can be read that the searches read.
What they find are files below the folder that are written by one name for each stretch, such as a search
finds for it; and they find all of these, if the names are those of entries.  So where no stretch starts with
a dot in front of wildcards, and no letter of a stretch with wildcards is in the other case in the tree, they
find the files that they denote, and no others.  This takes a spelling of the folder that a search finds it
by; by any other one, nothing is found. -/
theorem simple_patterns_find {patterns : List String} (hnamed : tree.Named) (hfolder : tree.isFolder root)
    (hplain : IsPlain root.text.toList) (hpatterns : ∀ pattern ∈ patterns, IsSimple pattern) :
    ((∃ files, filesMatching tree root patterns = .ok files) ↔
      ∀ pattern ∈ patterns, Readable tree root pattern) ∧
    ∀ files, filesMatching tree root patterns = .ok files →
      (¬ IsBase root → files = []) ∧
      (IsBase root →
        (∀ file ∈ files, tree.isFile file ∧ ∃ pattern ∈ patterns, ∃ names,
          List.Forall₂ (fun stretch name => Finds stretch name ∨ FindsDots stretch name)
            (Path.splitAtSlashes pattern.toList) names ∧
          file = names.foldl onward (written root)) ∧
        (∀ pattern ∈ patterns, ∀ names,
          List.Forall₂ Finds (Path.splitAtSlashes pattern.toList) names →
          tree.isFile (names.foldl step (written root)) → names.foldl step (written root) ∈ files) ∧
        ((∀ pattern ∈ patterns, ∀ stretch ∈ Path.splitAtSlashes pattern.toList, ¬ IsLiteral stretch →
            stretch.head? ≠ some '.' ∧ CasesAgree tree stretch) →
          ∀ file, file ∈ files ↔ tree.isFile file ∧ ∃ pattern ∈ patterns, ∃ names,
            List.Forall₂ Denotes (Path.splitAtSlashes pattern.toList) names ∧
            file = names.foldl step (written root)) ∧
        ∀ names, names ≠ [] → (∀ name ∈ names, IsFileName name) →
          (names.foldl step (written root)).components =
            root.components.filter (· ≠ .current) ++ names.map .name) := by
  obtain ⟨place, hl, hf⟩ := FileTree.isFolder_iff.mp hfolder
  have hreaches := FileTree.reaches_of_locate hl hf
  have hne := hreaches.nonempty
  constructor
  · simp only [filesMatching_eq_ok_iff_of_isSimple hpatterns hne, exists_and_left, exists_eq, and_true]
  intro files hfiles
  refine ⟨fun hroot => eq_nil_of_not_isBase hpatterns hfiles hne hroot, fun hroot => ⟨fun file hfile => ?_,
    fun pattern hm names hfinds hisFile => ?_, fun hclear file => ?_, fun names hnil hnames => ?_⟩⟩
  · exact exists_names_of_mem_files hroot hreaches hplain hpatterns hfiles hnamed hfile
  · exact mem_files_of_finds hroot hreaches hplain hpatterns hfiles hm hfinds hisFile
  · exact mem_files_iff_denotes hroot hreaches hplain hpatterns hfiles hnamed hclear
  · obtain ⟨first, others, rfl⟩ := List.exists_cons_of_ne_nil hnil
    have hkeep : (first :: others).filter (· ≠ "") = first :: others :=
      List.filter_eq_self.mpr fun name hm => decide_eq_true (hnames name hm).1
    obtain ⟨hfirst, hothers⟩ := List.forall_mem_cons.mp hnames
    rw [hroot.components_foldl_step hfirst fun name hm => .inr (hothers name hm), hkeep]

/-- A project with a hidden file. -/
def hiddenFileProject : FileTree where
  root := .folder [("p", .folder [("addon", .folder [(".h.ts", .file .empty), ("a.ts", .file .empty)])])]
  here := []

/-- In a project whose names are in lower case, a pattern in lower case finds what it denotes. -/
theorem lower_case_pattern_finds :
    filesMatching hiddenFileProject ⟨"p"⟩ ["addon/*.ts"] = .ok [⟨"p/addon/a.ts"⟩] ∧
      ∀ file, file ∈ [Path.mk "p/addon/a.ts"] ↔ hiddenFileProject.isFile file ∧
        ∃ pattern ∈ ["addon/*.ts"], ∃ names,
          List.Forall₂ Denotes (Path.splitAtSlashes pattern.toList) names ∧
          file = names.foldl step (written ⟨"p"⟩) := by
  have hfound : filesMatching hiddenFileProject ⟨"p"⟩ ["addon/*.ts"] = .ok [⟨"p/addon/a.ts"⟩] :=
    eq_ok_of_toOption (by decide +kernel)
  obtain ⟨-, hfiles⟩ := simple_patterns_find
    (by decide +kernel : hiddenFileProject.Named) (by decide +kernel : hiddenFileProject.isFolder ⟨"p"⟩)
    (by decide) (by decide +kernel : ∀ pattern ∈ ["addon/*.ts"], IsSimple pattern)
  obtain ⟨-, hbase⟩ := hfiles _ hfound
  obtain ⟨-, -, hdenotes, -⟩ := hbase (.undotted ⟨by decide, by decide⟩)
  exact ⟨hfound, hdenotes (by decide +kernel)⟩

/-- **Cases and dots are lost.**  A pattern finds a file whose name is in the other case, which it does not
denote, and does not find a hidden file whose dot it gives. -/
theorem cases_and_dots_are_lost :
    filesMatching hiddenFileProject ⟨"p"⟩ ["addon/*.TS"] = .ok [⟨"p/addon/a.ts"⟩] ∧
      ["addon", "a.ts"].foldl step ⟨"p"⟩ = ⟨"p/addon/a.ts"⟩ ∧
      ¬ List.Forall₂ Denotes (Path.splitAtSlashes "addon/*.TS".toList) ["addon", "a.ts"] ∧
      filesMatching hiddenFileProject ⟨"p"⟩ ["addon/.h*"] = .ok [] ∧
      ["addon", ".h.ts"].foldl step ⟨"p"⟩ = ⟨"p/addon/.h.ts"⟩ ∧
      List.Forall₂ Denotes (Path.splitAtSlashes "addon/.h*".toList) ["addon", ".h.ts"] ∧
      hiddenFileProject.isFile ⟨"p/addon/.h.ts"⟩ := by
  have hupper : ¬ Denotes ['*', '.', 'T', 'S'] "a.ts" := by
    intro h
    obtain ⟨run, rest, hname, hrest⟩ := matches_anyChars_iff.mp h.agrees
    rw [matches_iff_of_isLiteral (by decide), List.forall₂_eq_eq_eq] at hrest
    have hlast := congrArg List.getLast? hname
    rw [← hrest, List.getLast?_append_of_ne_nil _ (by decide)] at hlast
    exact absurd hlast (by decide)
  have hfolder : Denotes "addon".toList "addon" :=
    ⟨by decide, (matches_iff_of_isLiteral (by decide)).mpr (by rw [List.forall₂_eq_eq_eq]), by decide⟩
  have hhidden : Denotes ['.', 'h', '*'] ".h.ts" :=
    ⟨by decide, .char (by decide) rfl (.char (by decide) rfl (.anyChars ".ts".toList .nil)), by decide⟩
  have hsplit : Path.splitAtSlashes "addon/*.TS".toList = ["addon".toList, ['*', '.', 'T', 'S']] := by decide
  have hsplit' : Path.splitAtSlashes "addon/.h*".toList = ["addon".toList, ['.', 'h', '*']] := by decide
  refine ⟨eq_ok_of_toOption (by decide +kernel), by decide, ?_, eq_ok_of_toOption (by decide +kernel),
    by decide, ?_, by decide +kernel⟩
  · rw [hsplit]
    intro h
    cases h with
    | cons _ hrest =>
        cases hrest with
        | cons hname _ => exact hupper hname
  · rw [hsplit']
    exact .cons hfolder (.cons hhidden .nil)

end AddonRegistry.Glob
