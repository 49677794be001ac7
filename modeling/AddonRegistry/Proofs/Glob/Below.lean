import AddonRegistry.Proofs.Glob.Roots

/-!
# What a pattern finds below a folder

A relative pattern is searched behind the names on the way to its base folder, and these are escaped.  A
name that no character of means something in a pattern is looked up as it is spelled, and any other one has
wildcards.  Whether there is something wrong with the pattern does not depend on the folder, and neither do
the legs that are searched from there.

* `asksForFolder`, `patternsBelow?` — the stretches of a pattern below a folder, each with its tokens.
* `escaped`, `namesTo_escaped` — the folder as it stands in front of the pattern.
* `literalLeg`, `legs_append` — the legs of the names on the way to it.
* `foldersRead`, `Readable`, **`filesMatchingOne_eq_ok_iff`** — files are found if every folder can be read.
* `filesMatching_eq_ok_iff_forall` — what several patterns find, pattern by pattern.
* **`toOption_search_escaped`**, `filesFound?_of_isPlain` — what a pattern finds below a folder.
* `mem_expand_of_named` — a search that goes on behind the names of the folder.
* **`exists_of_mem_filesMatchingOne`** — every file that is found is below the folder.
-/

namespace AddonRegistry.Glob

variable {tree : FileTree} {root p q : Path} {pattern : String} {names : List String}

/-! ## The stretches of a pattern -/

/-- Whether a pattern ends in a slash below its base folder, and so asks for folders. -/
def asksForFolder (pattern : String) : Bool :=
  (Path.splitAtSlashes pattern.toList).getLast? = some []

/-- The stretches of a pattern below a folder. -/
def stretchesBelow (pattern : String) : List (List Char) :=
  let all := Path.splitAtSlashes pattern.toList
  if asksForFolder pattern then all.dropLast else all

/-- The stretches of a pattern below a folder, each with its tokens.  There are none if there is something
wrong with the pattern. -/
def patternsBelow? (pattern : String) : Option (List (List Token)) :=
  (tokensFrom pattern.toList.length 0 (some '/') pattern.toList).toOption.bind fun _ =>
    ((stretchesBelow pattern).mapM tokens).toOption

lemma toOption_search (tree : FileTree) (pattern : String) : (search tree pattern).toOption =
    (tokens pattern.toList).toOption.bind fun _ =>
      ((stretches (startOf pattern.toList).2).mapM tokens).toOption.map fun patterns =>
        let start := (startOf pattern.toList).1
        let paths := expand tree (legs false patterns) start
        ⟨if pattern.toList.getLast? = some '/' then paths.filter tree.isFolder else paths,
          if tree.isFolder start then reads tree (legs false patterns) start else []⟩ := by
  rw [search]
  cases tokens pattern.toList with
  | error fault => rfl
  | ok whole =>
      simp only [bind, Except.bind, pure, Except.pure]
      cases (stretches (startOf pattern.toList).2).mapM tokens <;> rfl

/-- The stretches of a whole pattern are those of the folder, and then those of the pattern below it; only
a slash alone has an empty one. -/
lemma stretches_of_append {text : List Char} {front : List (List Char)}
    (hs : Path.splitAtSlashes text = front ++ Path.splitAtSlashes pattern.toList) :
    stretches text = front ++ stretchesBelow pattern ∨
      asksForFolder pattern ∧ stretches text = [[]] ∧ front = [] ∧ stretchesBelow pattern = [] := by
  have hne := Path.splitAtSlashes_ne_nil pattern.toList
  rw [stretches, hs, stretchesBelow, List.getLast?_append_of_ne_nil _ hne]
  by_cases hasks : asksForFolder pattern
  · have hlast := hasks
    rw [asksForFolder, decide_eq_true_eq] at hlast
    rw [hlast, if_pos hasks]
    by_cases hlength : 1 < (front ++ Path.splitAtSlashes pattern.toList).length
    · left
      rw [if_pos ⟨hlength, rfl⟩, List.dropLast_append_of_ne_nil hne]
    · right
      have hpos := List.length_pos_of_ne_nil hne
      rw [List.length_append] at hlength
      have hfront : front = [] := List.eq_nil_of_length_eq_zero (by omega)
      obtain ⟨last, hsingle⟩ := List.length_eq_one_iff.mp
        (show (Path.splitAtSlashes pattern.toList).length = 1 by omega)
      rw [hsingle, List.getLast?_singleton] at hlast
      cases hlast
      rw [hfront, hsingle]
      exact ⟨hasks, rfl, rfl, rfl⟩
  · left
    rw [asksForFolder, decide_eq_true_eq] at hasks
    rw [if_neg fun h => hasks h.2, asksForFolder, if_neg (by simpa using hasks)]

lemma filter_isFile_filter_isFolder (tree : FileTree) (found : List Path) :
    (found.filter tree.isFolder).filter tree.isFile = [] := by
  rw [List.filter_filter]
  refine List.filter_eq_nil_iff.mpr fun p _ h => ?_
  obtain ⟨hfile, hfolder⟩ := Bool.and_eq_true_iff.mp h
  obtain ⟨place, content, hl, hf⟩ := FileTree.isFile_iff.mp hfile
  obtain ⟨other, ho, entries, he⟩ := FileTree.isFolder_iff.mp hfolder
  cases hl.symm.trans ho
  rw [hf] at he
  cases he

/-! ## The folder in front of a pattern -/

/-- A folder as it stands in front of a pattern. -/
def escaped (root : Path) : Path := ⟨String.ofList (escape root.text.toList)⟩

lemma toList_escaped (root : Path) : (escaped root).text.toList = escape root.text.toList :=
  String.toList_ofList

lemma slash_mem_escape {text : List Char} : '/' ∈ escape text ↔ '/' ∈ text := by
  rw [escape, List.mem_flatMap]
  constructor
  · rintro ⟨c, hc, hslash⟩
    split_ifs at hslash with hmark
    · rcases hmark with rfl | rfl | rfl | rfl <;> exact absurd hslash (by decide)
    · rwa [List.mem_singleton.mp hslash]
  · exact fun h => ⟨'/', h, by decide⟩

lemma escape_joinWithSlashes (stretches : List (List Char)) :
    escape (Path.joinWithSlashes stretches) = Path.joinWithSlashes (stretches.map escape) := by
  induction stretches with
  | nil => rfl
  | cons stretch stretches ih =>
      cases stretches with
      | nil => rfl
      | cons next others =>
          rw [Path.joinWithSlashes_cons (List.cons_ne_nil next others), escape_append, escape_cons, ih]
          exact (Path.joinWithSlashes_cons (List.cons_ne_nil (escape next) _)).symm

/-- Stretches are escaped one by one. -/
lemma splitAtSlashes_escape (text : List Char) :
    Path.splitAtSlashes (escape text) = (Path.splitAtSlashes text).map escape := by
  have hne : (Path.splitAtSlashes text).map escape ≠ [] := by simpa using Path.splitAtSlashes_ne_nil text
  conv_lhs => rw [← Path.joinWithSlashes_splitAtSlashes text, escape_joinWithSlashes]
  refine Path.splitAtSlashes_joinWithSlashes hne fun stretch hs => ?_
  obtain ⟨plain, hplain, rfl⟩ := List.mem_map.mp hs
  exact fun h => Path.slash_notMem_of_mem_splitAtSlashes hplain (slash_mem_escape.mp h)

lemma startOf_escape (text : List Char) :
    startOf (escape text) = ((startOf text).1, escape (startOf text).2) := by
  cases text with
  | nil => rfl
  | cons c rest =>
      by_cases hslash : c = '/'
      · subst hslash
        rfl
      · have hplain : startOf (c :: rest) = (⟨"."⟩, c :: rest) := by
          rw [startOf]
          exact fun _ h => hslash (List.cons.inj h).1
        have hescaped : startOf (escape (c :: rest)) = (⟨"."⟩, escape (c :: rest)) := by
          rw [escape_cons, escape, List.flatMap_singleton]
          split_ifs
          · rfl
          · rw [List.singleton_append, startOf]
            exact fun _ h => hslash (List.cons.inj h).1
        rw [hplain, hescaped]

lemma escaped_ne_empty (hne : root.text ≠ "") : (escaped root).text ≠ "" := by
  intro h
  have hnil : escape root.text.toList = [] := by rw [← toList_escaped, h]; rfl
  cases hroot : root.text.toList with
  | nil => exact hne (String.toList_inj.mp hroot)
  | cons c rest =>
      rw [hroot, escape_cons, List.append_eq_nil_iff, escape, List.flatMap_singleton] at hnil
      obtain ⟨hone, -⟩ := hnil
      split_ifs at hone

lemma endsInSlash_escaped (root : Path) : (escaped root).endsInSlash = root.endsInSlash := by
  rw [Path.endsInSlash, Path.endsInSlash, toList_escaped]
  exact decide_eq_decide.mpr getLast?_escape_eq_slash

/-- The names on the way to a folder are escaped one by one. -/
lemma namesTo_escaped (root : Path) : (namesTo (escaped root)).map String.toList =
    ((namesTo root).map String.toList).map escape := by
  rw [namesTo, namesTo, map_toList_map_ofList, map_toList_map_ofList, endsInSlash_escaped, toList_escaped,
    startOf_escape, splitAtSlashes_escape]
  split_ifs
  · rw [List.map_dropLast]
  · rfl

/-- Escaped stretches in front have one token for each character. -/
lemma toOption_mapM_tokens_escape_append (front back : List (List Char)) :
    ((front.map escape ++ back).mapM tokens).toOption =
      (back.mapM tokens).toOption.map (front.map (List.map literalToken) ++ ·) := by
  have hfront : (front.map escape).mapM tokens = .ok (front.map (List.map literalToken)) := by
    rw [mapM_eq_ok_iff, List.map_map, List.map_map]
    exact List.map_congr_left fun text _ => tokens_escape text
  rw [List.mapM_append, hfront]
  cases back.mapM tokens <;> rfl

/-- The leg of a name on the way to a folder.  Only a plain name is looked up as it is spelled. -/
def literalLeg (name : String) : Leg :=
  if IsPlain name.toList then .named name else .fitting (name.toList.map literalToken)

lemma legs_append (names : List String) (patterns : List (List Token)) :
    legs false ((names.map String.toList).map (List.map literalToken) ++ patterns) =
      names.map literalLeg ++ legs false patterns := by
  induction names with
  | nil => rfl
  | cons name names ih =>
      have hdepth : name.toList.map literalToken ≠ [.anyDepth] := by
        intro h
        obtain ⟨c, -, hc⟩ := List.map_eq_singleton_iff.mp h
        rw [literalToken] at hc
        split_ifs at hc
      rw [List.map_cons, List.map_cons, List.cons_append, legs_false_cons hdepth, literal?_map_literalToken,
        ih, List.map_cons, List.cons_append, literalLeg]
      split_ifs
      · simp
      · rfl

/-! ## What is found -/

/-- The files that a pattern finds below a folder, as far as a search can get. -/
def filesFound? (tree : FileTree) (root : Path) (pattern : String) : Option (List Path) :=
  (search tree (fullPattern root pattern)).toOption.map fun found => found.paths.filter tree.isFile

/-- The folders that the search for a pattern reads. -/
def foldersRead (tree : FileTree) (root : Path) (pattern : String) : List Path :=
  ((search tree (fullPattern root pattern)).toOption.map Found.folders).getD []

/-- That every folder can be read that the search for a pattern reads.  For trees whose names lead to what has
them, only the length of its path can keep a folder from being read (`readable_iff_usable`). -/
def Readable (tree : FileTree) (root : Path) (pattern : String) : Prop :=
  ∀ folder ∈ foldersRead tree root pattern, tree.holds folder

instance (tree : FileTree) (root : Path) (pattern : String) : Decidable (Readable tree root pattern) :=
  List.decidableBAll _ _

lemma unreadable?_eq_none {folder : Path} : unreadable? tree folder = none ↔ tree.holds folder := by
  rw [unreadable?, FileTree.holds_iff]
  cases tree.find folder <;> simp

/-- **Files are found** if there is nothing wrong with the pattern, and every folder can be read. -/
lemma filesMatchingOne_eq_ok_iff {files : List Path} : filesMatchingOne tree root pattern = .ok files ↔
    filesFound? tree root pattern = some files ∧ Readable tree root pattern := by
  rw [filesMatchingOne, filesFound?, Readable, foldersRead]
  cases search tree (fullPattern root pattern) with
  | error fault => exact ⟨nofun, fun h => nomatch h.1⟩
  | ok found =>
      have hread : found.folders.findSome? (unreadable? tree) = none ↔
          ∀ folder ∈ found.folders, tree.holds folder := by
        rw [List.findSome?_eq_none_iff]
        simp only [unreadable?_eq_none]
      simp only [Except.toOption, Option.map_some, Option.getD_some, Option.some.injEq, ← hread]
      cases found.folders.findSome? (unreadable? tree) with
      | none => simp
      | some fault => simp

/-- **Several patterns** find files if each of them does, and then one after the other. -/
lemma filesMatching_eq_ok_iff_forall {patterns : List String} {files : List Path} :
    filesMatching tree root patterns = .ok files ↔
      (∀ pattern ∈ patterns, ∃ found, filesMatchingOne tree root pattern = .ok found) ∧
        files = patterns.flatMap fun pattern => (filesMatchingOne tree root pattern).toOption.getD [] := by
  have hparts : filesMatching tree root patterns = .ok files ↔
      ∃ parts, patterns.mapM (filesMatchingOne tree root) = .ok parts ∧ files = parts.flatten := by
    rw [filesMatching]
    cases patterns.mapM (filesMatchingOne tree root) <;> simp [Except.map, eq_comm]
  simp only [hparts, mapM_eq_ok_iff_forall]
  constructor
  · rintro ⟨_, ⟨hread, rfl⟩, rfl⟩
    exact ⟨hread, rfl⟩
  · rintro ⟨hread, rfl⟩
    exact ⟨_, ⟨hread, rfl⟩, rfl⟩

/-- **The search for a pattern** below a folder goes through the names on the way there first. -/
lemma toOption_search_escaped (hne : root.text ≠ "") (hrelative : Path.isAbsolute ⟨pattern⟩ = false) :
    ((search tree (fullPattern root pattern)).toOption.map fun found =>
        (found.paths.filter tree.isFile, found.folders)) =
      (patternsBelow? pattern).map fun patterns =>
        let start := (startOf root.text.toList).1
        let legs := (namesTo root).map literalLeg ++ legs false patterns
        (if asksForFolder pattern then [] else (expand tree legs start).filter tree.isFile,
          if tree.isFolder start then reads tree legs start else []) := by
  have hne' := escaped_ne_empty hne
  have hfull : fullPattern root pattern = ((escaped root).join ⟨pattern⟩).text := by
    rw [fullPattern, if_neg (by simp [hrelative]), escaped]
  have htokens : (tokens ((escaped root).join ⟨pattern⟩).text.toList).toOption =
      (tokensFrom pattern.toList.length 0 (some '/') pattern.toList).toOption.map
        ((root.text.toList ++ if root.endsInSlash then [] else ['/']).map literalToken ++ ·) := by
    have hfront : (escaped root).text.toList ++ (if (escaped root).endsInSlash then [] else ['/']) =
        escape (root.text.toList ++ if root.endsInSlash then [] else ['/']) := by
      rw [toList_escaped, endsInSlash_escaped, escape_append]
      split_ifs <;> rfl
    rw [Path.toList_join hne' hrelative, hfront]
    refine toOption_tokens_escape_append (getLast?_escape_eq_slash.mpr ?_)
    split_ifs with hslash
    · rw [List.append_nil]
      simpa [Path.endsInSlash] using hslash
    · exact List.getLast?_concat
  have hends : ((escaped root).join ⟨pattern⟩).text.toList.getLast? = some '/' ↔ asksForFolder pattern := by
    obtain ⟨stretch, front, -, hjoin⟩ := Path.exists_splitAtSlashes_join hne'
    have hlast := Path.getLast?_splitAtSlashes (Path.join_ne_empty hne' hrelative)
    rw [hjoin _ hrelative, ← List.cons_append,
      List.getLast?_append_of_ne_nil _ (Path.splitAtSlashes_ne_nil pattern.toList)] at hlast
    rw [asksForFolder, decide_eq_true_eq, hlast, Path.endsInSlash, decide_eq_true_eq]
  obtain ⟨hstart, hsplit⟩ := splitAtSlashes_startOf_join hne' hrelative
  rw [namesTo_escaped] at hsplit
  rw [toList_escaped, startOf_escape] at hstart
  rw [hfull, toOption_search, htokens, patternsBelow?, hstart]
  simp only [hends]
  cases (tokensFrom pattern.toList.length 0 (some '/') pattern.toList).toOption with
  | none => rfl
  | some whole =>
      rw [Option.map_some, Option.bind_some, Option.bind_some]
      rcases stretches_of_append hsplit with h | ⟨hasks, hs, hf, hb⟩
      · rw [h, toOption_mapM_tokens_escape_append]
        cases ((stretchesBelow pattern).mapM tokens).toOption with
        | none => rfl
        | some patterns =>
            simp only [Option.map_some, legs_append]
            split_ifs <;> simp only [filter_isFile_filter_isFolder]
      · -- the folder is the root, and the only name behind it is empty
        rw [List.map_eq_nil_iff, List.map_eq_nil_iff] at hf
        have hempty : [[]].mapM tokens = .ok [[]] := rfl
        have hnone : ([] : List (List Char)).mapM tokens = .ok [] := rfl
        rw [hs, hb, hf, hempty, hnone]
        simp only [Except.toOption, Option.map_some, hasks, if_true, filter_isFile_filter_isFolder]
        have hread (start : Path) : reads tree (legs false [[]]) start = [] := ite_self _
        rw [hread]
        rfl

section

variable (hne : root.text ≠ "") (hrelative : Path.isAbsolute ⟨pattern⟩ = false)

include hne hrelative

lemma filesFound?_escaped : filesFound? tree root pattern = (patternsBelow? pattern).map fun patterns =>
    if asksForFolder pattern then []
    else (expand tree ((namesTo root).map literalLeg ++ legs false patterns)
      (startOf root.text.toList).1).filter tree.isFile := by
  have h := congrArg (Option.map Prod.fst) (@toOption_search_escaped tree root pattern hne hrelative)
  rwa [Option.map_map, Option.map_map] at h

lemma foldersRead_escaped : foldersRead tree root pattern = ((patternsBelow? pattern).map fun patterns =>
    if tree.isFolder (startOf root.text.toList).1 then
      reads tree ((namesTo root).map literalLeg ++ legs false patterns) (startOf root.text.toList).1
    else []).getD [] := by
  have h := congrArg (Option.map Prod.snd) (@toOption_search_escaped tree root pattern hne hrelative)
  rw [Option.map_map, Option.map_map] at h
  exact congrArg (Option.getD · []) h

end

lemma isPlain_of_mem_namesTo (hplain : IsPlain root.text.toList) :
    ∀ text ∈ (namesTo root).map String.toList, IsPlain text := by
  have hbehind : ∀ c ∈ (startOf root.text.toList).2, c ∈ root.text.toList := by
    intro c hc
    cases habs : root.isAbsolute with
    | true =>
        obtain ⟨behind, hb, hstart⟩ := exists_startOf_of_isAbsolute habs
        rw [hstart] at hc
        exact hb ▸ List.mem_cons_of_mem '/' hc
    | false => rwa [startOf_of_not_isAbsolute habs] at hc
  intro text ht c hc
  have hmem : text ∈ Path.splitAtSlashes (startOf root.text.toList).2 := by
    rw [namesTo, map_toList_map_ofList] at ht
    split_ifs at ht
    · exact List.dropLast_subset _ ht
    · exact ht
  exact hplain c (hbehind c (Path.mem_of_mem_splitAtSlashes hmem hc))

lemma map_literalLeg_namesTo (hplain : IsPlain root.text.toList) :
    (namesTo root).map literalLeg = (namesTo root).map .named :=
  List.map_congr_left fun name hm =>
    if_pos (isPlain_of_mem_namesTo hplain name.toList (List.mem_map_of_mem hm))

/-- What a pattern finds below a folder, if nothing in the way there means something in a pattern. -/
lemma filesFound?_of_isPlain (hne : root.text ≠ "") (hplain : IsPlain root.text.toList)
    (hrelative : Path.isAbsolute ⟨pattern⟩ = false) :
    filesFound? tree root pattern = (patternsBelow? pattern).map fun patterns =>
      if asksForFolder pattern then []
      else (expand tree ((namesTo root).map .named ++ legs false patterns)
        (startOf root.text.toList).1).filter tree.isFile := by
  rw [filesFound?_escaped hne hrelative, map_literalLeg_namesTo hplain]

/-! ## Files below the folder -/

/-- A search goes on behind the names of the folder. -/
lemma mem_expand_of_named {rest : List Leg} : ∀ {names : List String} {p : Path},
    q ∈ expand tree (names.map .named ++ rest) p → q ∈ expand tree rest (names.foldl step p)
  | [], _, h => h
  | name :: names, p, h => by
      rw [List.map_cons, List.cons_append, expand] at h
      split_ifs at h
      · exact mem_expand_of_named (p := step p name) h
      · cases h

/-- A pattern that asks for no folder has a token list for each of its stretches. -/
lemma mapM_tokens_of_patternsBelow? {patterns : List (List Token)} (hasks : asksForFolder pattern = false)
    (h : patternsBelow? pattern = some patterns) :
    (Path.splitAtSlashes pattern.toList).mapM tokens = .ok patterns := by
  obtain ⟨whole, -, hstretches⟩ := Option.bind_eq_some_iff.mp h
  rw [stretchesBelow, hasks] at hstretches
  exact eq_ok_of_toOption hstretches

/-- What is found below a folder is what the legs of the pattern lead to from there. -/
lemma exists_patterns_of_mem {files : List Path} {file : Path} (hne : root.text ≠ "")
    (hplain : IsPlain root.text.toList) (hrelative : Path.isAbsolute ⟨pattern⟩ = false)
    (h : filesMatchingOne tree root pattern = .ok files) (hfile : file ∈ files) :
    asksForFolder pattern = false ∧ ∃ patterns,
      (Path.splitAtSlashes pattern.toList).mapM tokens = .ok patterns ∧
      file ∈ expand tree (legs false patterns) (written root) := by
  obtain ⟨hfound, -⟩ := filesMatchingOne_eq_ok_iff.mp h
  rw [filesFound?_of_isPlain hne hplain hrelative] at hfound
  obtain ⟨patterns, hpatterns, hfiles⟩ := Option.map_eq_some_iff.mp hfound
  split_ifs at hfiles with hasks
  · rw [← hfiles] at hfile
    cases hfile
  · rw [Bool.not_eq_true] at hasks
    rw [← hfiles] at hfile
    exact ⟨hasks, patterns, mapM_tokens_of_patternsBelow? hasks hpatterns,
      mem_expand_of_named (List.mem_filter.mp hfile).1⟩

/-- That no stretch of a pattern starts with a dot. -/
def DotFree (pattern : String) : Prop :=
  ∀ stretch ∈ Path.splitAtSlashes pattern.toList, stretch.head? ≠ some '.'

instance (pattern : String) : Decidable (DotFree pattern) := List.decidableBAll _ _

/-- Whether a text is empty or can be the name of a file. -/
def IsNameOrEmpty (name : String) : Prop := name = "" ∨ IsFileName name

lemma slash_notMem_of_isNameOrEmpty {name : String} (h : IsNameOrEmpty name) : '/' ∉ name.toList := by
  rcases h with rfl | h
  · exact List.not_mem_nil
  · exact h.2.2.2

/-- A stretch that does not start with a dot can be the name of a file, if it is not empty. -/
lemma isFileName_ofList {stretch : List Char} (hne : stretch ≠ []) (hdot : stretch.head? ≠ some '.')
    (hslash : '/' ∉ stretch) : IsFileName (String.ofList stretch) := by
  have hof {other : String} (ho : stretch ≠ other.toList) : String.ofList stretch ≠ other :=
    fun he => ho (by rw [← he, String.toList_ofList])
  refine ⟨hof hne, hof ?_, hof ?_, by rwa [String.toList_ofList]⟩
  · rintro rfl
    exact hdot rfl
  · rintro rfl
    exact hdot rfl

/-- Names of files mean themselves, and empty ones mean nothing. -/
lemma filterMap_componentOf? (hnames : ∀ name ∈ names, IsNameOrEmpty name) :
    (names.map String.toList).filterMap Path.componentOf? = (names.filter (· ≠ "")).map .name := by
  induction names with
  | nil => rfl
  | cons name names ih =>
      rw [List.forall_mem_cons] at hnames
      rw [List.map_cons]
      rcases hnames.1 with rfl | hname
      · rw [List.filterMap_cons_none rfl, List.filter_cons_of_neg (by simp), ih hnames.2]
      · rw [List.filterMap_cons_some (componentOf?_of_isFileName hname),
          List.filter_cons_of_pos (by simpa using hname.1), ih hnames.2, List.map_cons]

/-- If no stretch of a pattern starts with a dot, only empty names are written besides names of files. -/
lemma allows_of_dotFree {patterns : List (List Token)} (hdots : DotFree pattern)
    (h : (Path.splitAtSlashes pattern.toList).mapM tokens = .ok patterns) :
    ∀ tokensOf ∈ patterns, Allows IsNameOrEmpty tokensOf := by
  intro tokensOf hm
  obtain ⟨stretch, hs, ht⟩ := exists_mem_of_mapM_eq_ok h hm
  refine allows_of_tokens ht ?_ fun hdot => absurd hdot (hdots stretch hs)
  by_cases hempty : stretch = []
  · exact .inl (congrArg String.ofList hempty)
  · exact .inr (isFileName_ofList hempty (hdots stretch hs) (Path.slash_notMem_of_mem_splitAtSlashes hs))

/-- Behind two stars, every leg writes names of files. -/
lemma exists_cons_of_legs_true (patterns : List (List Token)) :
    ∃ leg rest, legs true patterns = leg :: rest ∧ leg.Names IsFileName := by
  induction patterns with
  | nil => exact ⟨_, _, rfl, trivial⟩
  | cons pattern patterns ih =>
      by_cases hdepth : pattern = [.anyDepth]
      · rw [hdepth, legs_anyDepth]
        exact ih
      · rw [legs_true_cons hdepth]
        exact ⟨_, _, rfl, trivial⟩

/-- The first leg of a pattern writes a name of a file, if the first stretch of it is not empty. -/
lemma exists_cons_of_legs {patterns : List (List Token)} (hdots : DotFree pattern)
    (hasks : asksForFolder pattern = false) (hrelative : Path.isAbsolute ⟨pattern⟩ = false)
    (h : (Path.splitAtSlashes pattern.toList).mapM tokens = .ok patterns) :
    ∃ leg rest, legs false patterns = leg :: rest ∧ leg.Names IsFileName := by
  obtain ⟨first, others, hs⟩ := List.exists_cons_of_ne_nil (Path.splitAtSlashes_ne_nil pattern.toList)
  have hne : first ≠ [] := by
    rintro rfl
    have hpattern : pattern ≠ "" := by
      rintro rfl
      cases hasks
    rw [Path.isAbsolute_of_nil (p := ⟨pattern⟩) hpattern hs] at hrelative
    cases hrelative
  have hmem : first ∈ Path.splitAtSlashes pattern.toList := hs ▸ List.mem_cons_self
  rw [hs, mapM_eq_ok_iff] at h
  cases patterns with
  | nil => cases h
  | cons tokensOf patterns =>
      have hfirst : tokens first = .ok tokensOf := (List.cons.inj h).1
      by_cases hdepth : tokensOf = [.anyDepth]
      · rw [hdepth, legs_anyDepth]
        exact exists_cons_of_legs_true patterns
      · rw [legs_false_cons hdepth]
        refine ⟨_, _, rfl, ?_⟩
        have hname := isFileName_ofList hne (hdots first hmem) (Path.slash_notMem_of_mem_splitAtSlashes hmem)
        have hallows := allows_of_tokens hfirst hname fun hdot => absurd hdot (hdots first hmem)
        cases hliteral : literal? tokensOf with
        | some name => exact hallows.1 name hliteral
        | none => exact hallows.2

/-- **Every file that is found** is below the folder, by the names of files that lead there. -/
theorem exists_of_mem_filesMatchingOne {files : List Path} {file : Path} (hnamed : tree.Named)
    (hroot : Undotted root) (hplain : IsPlain root.text.toList)
    (hrelative : Path.isAbsolute ⟨pattern⟩ = false) (hdots : DotFree pattern)
    (h : filesMatchingOne tree root pattern = .ok files) (hfile : file ∈ files) :
    file.isAbsolute = root.isAbsolute ∧ ∃ names : List String, names ≠ [] ∧
      (∀ name ∈ names, IsFileName name) ∧ file.components = root.components ++ names.map .name := by
  obtain ⟨hasks, patterns, hpatterns, hexpand⟩ :=
    exists_patterns_of_mem hroot.nonempty hplain hrelative h hfile
  obtain ⟨hwritten, habsolute, hcomponents, -⟩ := written_spec hroot
  have hslash : ∀ name, IsNameOrEmpty name → '/' ∉ name.toList := fun _ => slash_notMem_of_isNameOrEmpty
  have hlegs : ∀ leg ∈ legs false patterns, leg.Names IsNameOrEmpty :=
    names_of_mem_legs (allows_of_dotFree hdots hpatterns)
  obtain ⟨leg, rest, hleg, hnames⟩ := exists_cons_of_legs hdots hasks hrelative hpatterns
  rw [hleg] at hexpand hlegs
  rw [List.forall_mem_cons] at hlegs
  -- the first leg writes a name of a file, and the others write more of them
  obtain ⟨front, hne, hfront, hexpand⟩ :=
    exists_of_mem_expand_cons hnamed (fun _ => id) hnames hwritten hexpand
  have hfrontSlash : ∀ name ∈ front, '/' ∉ name.toList := fun name hm => (hfront name hm).2.2.2
  obtain ⟨back, hback, rfl⟩ := exists_of_mem_expand hnamed (fun _ => .inr) hslash hlegs.2
    (hwritten.foldl hfrontSlash) hexpand
  have hall : ∀ name ∈ front ++ back, IsNameOrEmpty name :=
    List.forall_mem_append.mpr ⟨fun name hm => .inr (hfront name hm), hback⟩
  rw [← List.foldl_append]
  refine ⟨?_, (front ++ back).filter (· ≠ ""), ?_, ?_, ?_⟩
  · rw [isAbsolute_foldl_step (fun name hm => hslash name (hall name hm)) hwritten, habsolute]
  · obtain ⟨first, others, rfl⟩ := List.exists_cons_of_ne_nil hne
    have hfirst : first ∈ ((first :: others) ++ back).filter (· ≠ "") :=
      List.mem_filter.mpr ⟨List.mem_cons_self, by simpa using (hfront first List.mem_cons_self).1⟩
    exact List.ne_nil_of_mem hfirst
  · intro name hm
    obtain ⟨hm, hname⟩ := List.mem_filter.mp hm
    exact (hall name hm).resolve_left (by simpa using hname)
  · rw [components_foldl_step (fun name hm => hslash name (hall name hm)) hwritten, hcomponents,
      filterMap_componentOf? hall]

end AddonRegistry.Glob
