import AddonRegistry.Proofs.Glob.Standing

/-!
# Folders that look alike

The names on the way to a base folder are escaped, and that is what keeps a question mark in them from
being a wildcard.  But a search has only one way to find a name by something else than its spelling: it reads
the folder above, and compares what is there without the case of ASCII letters and without hidden names.  So
a name that had to be escaped stands for every name that looks like it, and if it is hidden, for none at all.

* `looksLike` — that two names are the same up to the case of ASCII letters.
* `fitsFrom_map_literalToken`, `dotNames_map_literalToken` — the names that fit an escaped one.
* `lookalikes` — the folders that a search takes for a base folder.
* `filesBelow`, `Searchable`, **`filesMatching_eq_ok_iff`** — what patterns find, they find below each of them.
* `Unmistakable`, **`lookalikes_of_unmistakable`** — when there is only the folder itself.
* `lookalikes_of_not_isBase`, `lookalikes_of_isHidden` — when there is none.
-/

namespace AddonRegistry.Glob

variable {tree : FileTree} {root p : Path} {pattern name other : String} {patterns : List String}
  {files : List Path} {names : List String} {place : List String} {c : Char}

/-! ## Names that look alike -/

/-- Whether two names are the same up to the case of ASCII letters. -/
def looksLike (name other : String) : Bool :=
  name.toList.map Char.toLower = other.toList.map Char.toLower

/-- The token of a character takes the characters that are the same up to the case of ASCII letters. -/
lemma fitsFrom_literalToken (c d : Char) (behind : List Token) (first : Bool) (name : List Char) :
    fitsFrom (literalToken c :: behind) first (d :: name) = (sameLetter d c && fitsFrom behind false name) := by
  rw [literalToken]
  split_ifs with hmark
  · have hfits : fitsFrom (.within [.one c] :: behind) first (d :: name) =
        (!(first && decide (d = '.')) && (sameLetter d c || false) && fitsFrom behind false name) := rfl
    rw [hfits, Bool.or_false]
    by_cases hdot : d = '.'
    · have hother : sameLetter d c = false := by
        subst hdot
        rcases hmark with rfl | rfl | rfl | rfl <;> decide
      rw [hother, Bool.and_false, Bool.false_and]
    · rw [decide_eq_false hdot, Bool.and_false, Bool.not_false, Bool.true_and]
  · have hfits : fitsFrom (.char c :: behind) first (d :: name) =
        (true && sameLetter d c && fitsFrom behind false name) := rfl
    rw [hfits, Bool.true_and]

lemma fitsFrom_map_literalToken (text : List Char) (first : Bool) (name : List Char) :
    fitsFrom (text.map literalToken) first name = true ↔ text.map Char.toLower = name.map Char.toLower := by
  induction text generalizing first name with
  | nil => rw [List.map_nil, List.map_nil, fitsFrom, List.isEmpty_iff, List.nil_eq, List.map_eq_nil_iff]
  | cons c text ih =>
      cases name with
      | nil =>
          have hnone : fitsFrom ((c :: text).map literalToken) first [] = false := by
            rw [List.map_cons, literalToken]
            split_ifs <;> rfl
          rw [hnone, List.map_cons]
          exact iff_of_false Bool.false_ne_true (List.cons_ne_nil _ _)
      | cons d name =>
          have hsame : sameLetter d c = true ↔ c.toLower = d.toLower := by
            rw [sameLetter, decide_eq_true_eq, eq_comm]
          rw [List.map_cons, fitsFrom_literalToken, Bool.and_eq_true, hsame, ih, List.map_cons, List.map_cons,
            List.cons.injEq]

/-- **The names that fit** an escaped name are those that look like it. -/
lemma fits_map_literalToken (name other : String) :
    fits (name.toList.map literalToken) other = looksLike name other := by
  rw [fits, looksLike, Bool.eq_iff_iff, fitsFrom_map_literalToken, decide_eq_true_eq]

/-- The case of a dot does not matter. -/
lemma eq_dot_of_toLower (h : c.toLower = '.') : c = '.' := by
  change dite _ _ _ = '.' at h
  split at h
  · next hupper =>
      have hlow : 65 ≤ c.toNat := UInt32.le_iff_toNat_le.mp hupper.1
      have hhigh : c.toNat ≤ 90 := UInt32.le_iff_toNat_le.mp hupper.2
      have hsum : (c.toNat + 32) % 4294967296 = 46 := by simpa using congrArg Char.toNat h
      omega
  · exact h

/-- Only a name that is hidden looks like one that is hidden. -/
lemma isHidden_of_looksLike (h : looksLike name other = true) (hhidden : isHidden name = true) :
    isHidden other = true := by
  rw [looksLike, decide_eq_true_eq] at h
  rw [isHidden, decide_eq_true_eq, List.head?_eq_some_iff] at hhidden ⊢
  obtain ⟨rest, hname⟩ := hhidden
  rw [hname, List.map_cons] at h
  cases hother : other.toList with
  | nil => simp [hother] at h
  | cons c more =>
      rw [hother, List.map_cons] at h
      rw [eq_dot_of_toLower (List.cons.inj h).1.symm]
      exact ⟨more, rfl⟩

/-- The two names that every folder has do not look like a name that had to be escaped. -/
lemma dotNames_map_literalToken (h : ¬ IsPlain name.toList) : dotNames (name.toList.map literalToken) = [] := by
  have hnone : ["..", "."].filter (fits (name.toList.map literalToken)) = [] := by
    refine List.filter_eq_nil_iff.mpr fun other ho hfits => h fun c hc => ?_
    rw [fits_map_literalToken, looksLike, decide_eq_true_eq] at hfits
    have hdots : (other.toList.map Char.toLower).all (· = '.') = true := by
      rcases List.mem_cons.mp ho with rfl | ho
      · decide
      · rw [List.mem_singleton.mp ho]
        decide
    have hdot : c = '.' := eq_dot_of_toLower
      (of_decide_eq_true (List.all_eq_true.mp hdots _ (hfits ▸ List.mem_map_of_mem hc)))
    rw [hdot]
    decide
  rw [dotNames, hnone, ite_self]

/-! ## What a search takes for a folder -/

/-- The paths that a search takes for the one that names lead to from a path. -/
def lookalikesFrom (tree : FileTree) : List String → Path → List Path
  | [], path => [path]
  | name :: rest, path =>
      if IsPlain name.toList then
        if leadsOn tree path name then lookalikesFrom tree rest (step path name) else []
      else ((visible tree path).filter (looksLike name)).flatMap fun other =>
        lookalikesFrom tree rest (step path other)

/-- The paths that a search takes for a folder. -/
def lookalikes (tree : FileTree) (root : Path) : List Path :=
  lookalikesFrom tree (namesTo root) (startOf root.text.toList).1

/-- A search goes on behind each of the paths that it takes for the folder. -/
lemma expand_literalLeg (names : List String) (rest : List Leg) (p : Path) :
    expand tree (names.map literalLeg ++ rest) p = (lookalikesFrom tree names p).flatMap (expand tree rest) := by
  induction names generalizing p with
  | nil => exact (List.append_nil _).symm
  | cons name names ih =>
      rw [List.map_cons, List.cons_append, lookalikesFrom]
      by_cases hplain : IsPlain name.toList
      · rw [literalLeg, if_pos hplain, if_pos hplain, expand, ih]
        split_ifs <;> rfl
      · have hfits : fits (name.toList.map literalToken) = looksLike name :=
          funext (fits_map_literalToken name)
        rw [literalLeg, if_neg hplain, if_neg hplain, expand, dotNames_map_literalToken hplain,
          List.flatMap_nil, List.nil_append, hfits, List.flatMap_assoc]
        exact congrArg (List.flatMap · _) (funext fun other => ih (step p other))

/-- What a pattern finds, it finds below each of the paths that a search takes for the folder. -/
lemma filesFound?_lookalikes (hne : root.text ≠ "") (hrelative : Path.isAbsolute ⟨pattern⟩ = false) :
    filesFound? tree root pattern = (patternsBelow? pattern).map fun patterns =>
      if asksForFolder pattern then []
      else (lookalikes tree root).flatMap (hits tree (legs false patterns)) := by
  rw [filesFound?_escaped hne hrelative]
  simp only [expand_literalLeg, List.filter_flatMap]
  rfl

/-! ## What patterns find -/

/-- The files that a pattern finds below a path that a search has written.  A pattern with which something is
wrong finds none. -/
def filesBelow (tree : FileTree) (pattern : String) (p : Path) : List Path :=
  ((patternsBelow? pattern).map fun patterns =>
    if asksForFolder pattern then [] else hits tree (legs false patterns) p).getD []

lemma filesFound?_filesBelow (hne : root.text ≠ "") (hrelative : Path.isAbsolute ⟨pattern⟩ = false) :
    filesFound? tree root pattern = if (patternsBelow? pattern).isSome then
      some ((lookalikes tree root).flatMap (filesBelow tree pattern)) else none := by
  have hbelow : filesBelow tree pattern = fun p => ((patternsBelow? pattern).map fun patterns =>
      if asksForFolder pattern then [] else hits tree (legs false patterns) p).getD [] := rfl
  rw [filesFound?_lookalikes hne hrelative, hbelow]
  cases patternsBelow? pattern with
  | none => rfl
  | some patterns =>
      simp only [Option.map_some, Option.getD_some, Option.isSome_some, if_true]
      split_ifs
      · exact congrArg some (List.flatMap_eq_nil_iff.mpr fun _ _ => rfl).symm
      · rfl

/-- Whether there is nothing wrong with patterns below a folder, and every folder can be read that the
searches for them read. -/
def Searchable (tree : FileTree) (root : Path) (patterns : List String) : Prop :=
  ∀ pattern ∈ patterns, (patternsBelow? pattern).isSome ∧ Readable tree root pattern

/-- **Files are found** if patterns can be searched for, and they are found below what is taken for the
folder, pattern by pattern. -/
lemma filesMatching_eq_ok_iff (hne : root.text ≠ "")
    (hrelative : ∀ pattern ∈ patterns, Path.isAbsolute ⟨pattern⟩ = false) :
    filesMatching tree root patterns = .ok files ↔
      Searchable tree root patterns ∧
        files = patterns.flatMap fun pattern => (lookalikes tree root).flatMap (filesBelow tree pattern) := by
  have hone : ∀ pattern ∈ patterns, ∀ part, filesMatchingOne tree root pattern = .ok part ↔
      ((patternsBelow? pattern).isSome ∧ Readable tree root pattern) ∧
        part = (lookalikes tree root).flatMap (filesBelow tree pattern) := by
    intro pattern hm part
    rw [filesMatchingOne_eq_ok_iff, filesFound?_filesBelow hne (hrelative pattern hm)]
    split_ifs with hsome
    · simp [hsome, and_comm, eq_comm]
    · simp [hsome]
  have hall : (∀ pattern ∈ patterns, ∃ part, filesMatchingOne tree root pattern = .ok part) ↔
      Searchable tree root patterns :=
    forall₂_congr fun pattern hm => by simp only [hone pattern hm, exists_and_left, exists_eq, and_true]
  rw [filesMatching_eq_ok_iff_forall, hall]
  refine and_congr_right fun h => ?_
  rw [List.flatMap_congr fun pattern hm => by rw [(hone pattern hm _).mpr ⟨h pattern hm, rfl⟩]]
  rfl

/-! ## When a folder is found -/

/-- Whether each of the names that lead on from a path is plain, or the only visible one in its folder that
looks like it. -/
def UnmistakableFrom (tree : FileTree) : List String → Path → Prop
  | [], _ => True
  | name :: rest, path =>
      (IsPlain name.toList ∨ (visible tree path).filter (looksLike name) = [name]) ∧
        UnmistakableFrom tree rest (step path name)

instance decidableUnmistakableFrom (tree : FileTree) : ∀ (names : List String) (path : Path),
    Decidable (UnmistakableFrom tree names path)
  | [], _ => .isTrue trivial
  | name :: rest, path =>
      have := decidableUnmistakableFrom tree rest (step path name)
      inferInstanceAs (Decidable ((_ ∨ _) ∧ _))

/-- Whether a folder is the only one that looks like it, on the whole way there. -/
def Unmistakable (tree : FileTree) (root : Path) : Prop :=
  UnmistakableFrom tree (namesTo root) (startOf root.text.toList).1

instance (tree : FileTree) (root : Path) : Decidable (Unmistakable tree root) :=
  decidableUnmistakableFrom tree _ _

/-- Plain names are looked up as they are spelled. -/
lemma unmistakable_of_isPlain (tree : FileTree) (hplain : IsPlain root.text.toList) :
    Unmistakable tree root := by
  have hfrom (names : List String) (p : Path) (h : ∀ name ∈ names, IsPlain name.toList) :
      UnmistakableFrom tree names p := by
    induction names generalizing p with
    | nil => trivial
    | cons name names ih =>
        rw [List.forall_mem_cons] at h
        exact ⟨.inl h.1, ih (step p name) h.2⟩
  exact hfrom _ _ fun name hm => isPlain_of_mem_namesTo hplain name.toList (List.mem_map_of_mem hm)

lemma lookalikesFrom_eq_singleton (h : UnmistakableFrom tree names p)
    (hfolder : ∀ front, front <+: names → tree.isFolder (front.foldl step p)) :
    lookalikesFrom tree names p = [names.foldl step p] := by
  induction names generalizing p with
  | nil => rfl
  | cons name names ih =>
      obtain ⟨hname, hrest⟩ := h
      have hnext : lookalikesFrom tree names (step p name) = [names.foldl step (step p name)] :=
        ih hrest fun front hf => hfolder (name :: front) (List.cons_prefix_cons.mpr ⟨rfl, hf⟩)
      have hleads : leadsOn tree p name := leadsOn_of_isFolder (hfolder [] List.nil_prefix)
        (hfolder [name] ⟨names, rfl⟩)
      rw [lookalikesFrom, List.foldl_cons]
      split_ifs with hplain
      · exact hnext
      · rw [hname.resolve_left hplain, List.flatMap_singleton, hnext]

/-- **A folder that is unmistakable** is the only one that a search takes for it. -/
lemma lookalikes_of_unmistakable (hroot : IsBase root) (h : tree.Reaches root place)
    (hclear : Unmistakable tree root) :
    lookalikes tree root = [written root] :=
  lookalikesFrom_eq_singleton hclear fun _ hf => hroot.isFolder_of_prefix h hf

/-- Nothing is taken for a folder by a spelling that a search does not find it by. -/
lemma lookalikes_of_not_isBase (hne : root.text ≠ "") (h : ¬ IsBase root) : lookalikes tree root = [] := by
  have hdot : IsPlain ".".toList := by decide
  have hempty : IsPlain "".toList := by decide
  obtain ⟨hstart, count, others, hnames⟩ := exists_namesTo_of_not_isBase hne h
  rw [lookalikes, hstart, hnames]
  clear hnames
  induction count with
  | zero =>
      rw [List.replicate_zero, List.nil_append, lookalikesFrom, if_pos hempty, leadsOn_working_empty,
        if_neg Bool.false_ne_true]
  | succ count ih =>
      rw [List.replicate_succ, List.cons_append, lookalikesFrom, if_pos hdot, step_working, ih, ite_self]

lemma lookalikesFrom_eq_nil (hname : name ∈ names) (hplain : ¬ IsPlain name.toList)
    (hhidden : isHidden name = true) : lookalikesFrom tree names p = [] := by
  induction names generalizing p with
  | nil => cases hname
  | cons first names ih =>
      rw [lookalikesFrom]
      rcases List.mem_cons.mp hname with rfl | hname
      · have hnone : (visible tree p).filter (looksLike name) = [] := by
          refine List.filter_eq_nil_iff.mpr fun other ho hlooks => ?_
          have hother := isHidden_of_mem_visible ho
          rw [isHidden_of_looksLike hlooks hhidden] at hother
          cases hother
        rw [if_neg hplain, hnone, List.flatMap_nil]
      · simp only [ih hname, ite_self, List.flatMap_eq_nil_iff.mpr fun _ _ => rfl]

/-- Nothing is taken for a folder on whose way a hidden name had to be escaped. -/
lemma lookalikes_of_isHidden (h : ∃ name ∈ namesTo root, ¬ IsPlain name.toList ∧ isHidden name = true) :
    lookalikes tree root = [] := by
  obtain ⟨name, hname, hplain, hhidden⟩ := h
  exact lookalikesFrom_eq_nil hname hplain hhidden

end AddonRegistry.Glob
