import AddonRegistry.Proofs.Paths.Relative

/-!
# Paths below another

A path below another one is spelled by the stretches of both, so what it means and the steps that it
takes are those of the first path and then those of the second.

* `splitAtSlashes_append`, `joinWithSlashes_append` — texts with a slash between them.
* `components_of_splitAtSlashes` — the components of a path, stretch by stretch.
* `components_ne_nil` — only the empty path has no components.
* `toList_join`, `exists_splitAtSlashes_join` — how a path below another is spelled.
* **`components_join`**, `steps_join` — what it means, and the steps it takes.
* `isAbsolute_absolute` — a path seen from an absolute folder.
-/

namespace AddonRegistry.Path

/-! ## Texts with a slash between them -/

lemma splitAtSlashes_append (below : List Char) :
    ∀ text, splitAtSlashes (text ++ '/' :: below) = splitAtSlashes text ++ splitAtSlashes below
  | [] => by simp [splitAtSlashes]
  | c :: rest => by
      have ih := splitAtSlashes_append below rest
      rw [List.cons_append, splitAtSlashes, splitAtSlashes, ih]
      split_ifs
      · rfl
      · obtain ⟨stretch, others, hs⟩ := List.exists_cons_of_ne_nil (splitAtSlashes_ne_nil rest)
        rw [hs]
        rfl

lemma joinWithSlashes_append {front back : List (List Char)} (hfront : front ≠ []) (hback : back ≠ []) :
    joinWithSlashes (front ++ back) = joinWithSlashes front ++ '/' :: joinWithSlashes back := by
  induction front with
  | nil => exact absurd rfl hfront
  | cons stretch rest ih =>
      cases rest with
      | nil => exact joinWithSlashes_cons hback
      | cons next others =>
          have hne : next :: others ≠ [] := List.cons_ne_nil next others
          rw [List.cons_append, joinWithSlashes_cons (List.append_ne_nil_of_left_ne_nil hne back), ih hne,
            joinWithSlashes_cons hne, List.append_assoc, List.cons_append]

lemma joinWithSlashes_cons_eq (stretch : List Char) (rest : List (List Char)) :
    joinWithSlashes (stretch :: rest) = stretch ++ rest.flatMap ('/' :: ·) := by
  induction rest generalizing stretch with
  | nil => exact (List.append_nil stretch).symm
  | cons next rest ih =>
      rw [joinWithSlashes_cons (List.cons_ne_nil next rest), ih, List.flatMap_cons, List.cons_append]

/-- A stretch stands in the text as it is. -/
lemma infix_of_mem_splitAtSlashes {text stretch : List Char} (hs : stretch ∈ splitAtSlashes text) :
    stretch <:+: text := by
  rw [← joinWithSlashes_splitAtSlashes text]
  obtain ⟨front, back, hsplit⟩ := List.append_of_mem hs
  rw [hsplit]
  cases front with
  | nil =>
      rw [List.nil_append, joinWithSlashes_cons_eq]
      exact (List.prefix_append _ _).isInfix
  | cons first front =>
      rw [List.cons_append, joinWithSlashes_cons_eq]
      exact ⟨first ++ front.flatMap ('/' :: ·) ++ ['/'], back.flatMap ('/' :: ·), by simp⟩

/-- The characters of a stretch are in the text. -/
lemma mem_of_mem_splitAtSlashes {text stretch : List Char} {c : Char}
    (hs : stretch ∈ splitAtSlashes text) (hc : c ∈ stretch) : c ∈ text :=
  (infix_of_mem_splitAtSlashes hs).subset hc

/-- A path is absolute if its first stretch is empty. -/
lemma isAbsolute_of_nil {p : Path} {rest : List (List Char)} (hne : p.text ≠ "")
    (hs : splitAtSlashes p.text.toList = [] :: rest) : p.isAbsolute := by
  have htext := joinWithSlashes_splitAtSlashes p.text.toList
  rw [hs] at htext
  by_cases hrest : rest = []
  · rw [hrest] at htext
    exact absurd (String.toList_eq_nil_iff.mp htext.symm) hne
  · rw [joinWithSlashes_cons hrest] at htext
    rw [isAbsolute, ← htext]
    rfl

/-- A path ends in a slash if its last stretch is empty. -/
lemma getLast?_splitAtSlashes {p : Path} (hne : p.text ≠ "") :
    (splitAtSlashes p.text.toList).getLast? = some [] ↔ p.endsInSlash := by
  rw [endsInSlash, decide_eq_true_eq, List.getLast?_eq_some_iff, List.getLast?_eq_some_iff]
  constructor
  · rintro ⟨front, hs⟩
    have htext := joinWithSlashes_splitAtSlashes p.text.toList
    rw [hs] at htext
    have hfront : front ≠ [] := by
      rintro rfl
      exact hne (String.toList_eq_nil_iff.mp htext.symm)
    rw [joinWithSlashes_append hfront (List.cons_ne_nil _ _)] at htext
    exact ⟨_, htext.symm⟩
  · rintro ⟨text, ht⟩
    rw [ht, splitAtSlashes_append]
    exact ⟨_, rfl⟩

/-- A path that does not end in a slash ends in the characters of its last stretch. -/
lemma exists_splitAtSlashes_concat {p : Path} (hne : p.text ≠ "") (hslash : p.endsInSlash = false) :
    ∃ front last, splitAtSlashes p.text.toList = front ++ [last] ∧ last ≠ [] := by
  rcases List.eq_nil_or_concat (splitAtSlashes p.text.toList) with hnil | ⟨front, last, hs⟩
  · exact absurd hnil (splitAtSlashes_ne_nil _)
  · rw [List.concat_eq_append] at hs
    refine ⟨front, last, hs, ?_⟩
    rintro rfl
    rw [(getLast?_splitAtSlashes hne).mp (by rw [hs, List.getLast?_concat])] at hslash
    cases hslash

/-! ## Stretch by stretch -/

/-- What the first stretch of a path says. -/
def frontOf (stretch : List Char) : List Component :=
  if stretch = [] then [.root]
  else if stretch = ['.'] then [.current]
  else (componentOf? stretch).toList

section

variable {p q base rest : Path} {stretch : List Char} {stretches : List (List Char)}

/-- The components of a path, stretch by stretch. -/
lemma components_of_splitAtSlashes (hne : p.text ≠ "")
    (hs : splitAtSlashes p.text.toList = stretch :: stretches) :
    p.components = frontOf stretch ++ stretches.filterMap componentOf? := by
  rw [frontOf]
  by_cases hempty : stretch = []
  · subst hempty
    cases stretches with
    | nil =>
        have htext := joinWithSlashes_splitAtSlashes p.text.toList
        rw [hs] at htext
        exact absurd (String.toList_eq_nil_iff.mp htext.symm) hne
    | cons second others => exact components_of_frontAndBody (frontAndBody_of_root hs)
  · rw [if_neg hempty]
    by_cases hdot : stretch = ['.']
    · subst hdot
      exact components_of_frontAndBody (frontAndBody_of_current hs)
    · have hidle : isIdle stretch = false := by simp [isIdle, hempty, hdot]
      obtain ⟨c, hc⟩ := Option.isSome_iff_exists.mp (isSome_componentOf? hidle)
      rw [if_neg hdot, components_of_frontAndBody (frontAndBody_of_telling hs hidle),
        List.filterMap_cons_some hc, hc]
      rfl

lemma frontOf_ne_nil (stretch : List Char) : frontOf stretch ≠ [] := by
  rw [frontOf]
  split_ifs with hempty hdot
  · exact List.cons_ne_nil _ _
  · exact List.cons_ne_nil _ _
  · have hidle : isIdle stretch = false := by simp [isIdle, hempty, hdot]
    obtain ⟨c, hc⟩ := Option.isSome_iff_exists.mp (isSome_componentOf? hidle)
    rw [hc]
    exact List.cons_ne_nil _ _

lemma components_ne_nil (hne : p.text ≠ "") : p.components ≠ [] := by
  obtain ⟨stretch, stretches, hs⟩ := List.exists_cons_of_ne_nil (splitAtSlashes_ne_nil p.text.toList)
  rw [components_of_splitAtSlashes hne hs]
  exact List.append_ne_nil_of_left_ne_nil (frontOf_ne_nil stretch) _

/-! ## Joins -/

/-- How a path below another is spelled. -/
lemma toList_join (hne : base.text ≠ "") (hrest : rest.isAbsolute = false) :
    (base.join rest).text.toList =
      base.text.toList ++ (if base.endsInSlash then [] else ['/']) ++ rest.text.toList := by
  have hlist : base.text.toList ≠ [] := by simpa using hne
  rw [join, hrest, endsInSlash, List.getLast?_eq_getLast_of_ne_nil hlist]
  simp only [Bool.false_eq_true, if_false, Option.some.injEq, decide_eq_true_eq]
  split
  · next h => cases h
  · next h =>
      rw [if_pos (Option.some.inj h), String.toList_append, List.append_nil]
  · next c hslash h =>
      have hc : base.text.toList.getLast hlist ≠ '/' := by
        intro he
        exact hslash (Option.some.inj h ▸ he)
      rw [if_neg hc, String.toList_append, String.toList_append]
      rfl

lemma text_join (hne : base.text ≠ "") (hrest : rest.isAbsolute = false) :
    (base.join rest).text = base.text ++ (if base.endsInSlash then "" else "/") ++ rest.text := by
  rw [← String.toList_inj, toList_join hne hrest, String.toList_append, String.toList_append]
  split_ifs <;> rfl

lemma join_ne_empty (hne : base.text ≠ "") (hrest : rest.isAbsolute = false) :
    (base.join rest).text ≠ "" := by
  intro h
  have hlist := toList_join hne hrest
  rw [h, List.append_assoc] at hlist
  exact hne (String.toList_eq_nil_iff.mp (List.append_eq_nil_iff.mp hlist.symm).1)

lemma isAbsolute_join (hne : base.text ≠ "") (hrest : rest.isAbsolute = false) :
    (base.join rest).isAbsolute = base.isAbsolute := by
  obtain ⟨c, more, hc⟩ := List.exists_cons_of_ne_nil (l := base.text.toList) (by simpa using hne)
  rw [isAbsolute, isAbsolute, toList_join hne hrest, hc]
  rfl

/-- A path below another ends in a slash if what is below does, or is empty. -/
lemma endsInSlash_join (hne : base.text ≠ "") (hrest : rest.isAbsolute = false) :
    (base.join rest).endsInSlash = if rest.text = "" then true else rest.endsInSlash := by
  rw [endsInSlash, toList_join hne hrest]
  split_ifs with hslash htext htext
  · rw [htext, String.toList_empty, List.append_nil, List.append_nil]
    exact hslash
  · rw [List.getLast?_append_of_ne_nil _ (by simpa using htext), endsInSlash]
  · rw [htext, String.toList_empty, List.append_nil, List.getLast?_concat]
    rfl
  · rw [List.getLast?_append_of_ne_nil _ (by simpa using htext), endsInSlash]

/-- A path below another is spelled by the stretches of both; a slash at the end of the first one adds
none. -/
lemma exists_splitAtSlashes_join (hne : base.text ≠ "") :
    ∃ stretch front, splitAtSlashes base.text.toList =
        stretch :: (front ++ if base.endsInSlash then [[]] else []) ∧
      ∀ rest : Path, rest.isAbsolute = false → splitAtSlashes (base.join rest).text.toList =
        stretch :: (front ++ splitAtSlashes rest.text.toList) := by
  by_cases hslash : base.endsInSlash
  · have hend := hslash
    rw [endsInSlash, decide_eq_true_eq, List.getLast?_eq_some_iff] at hend
    obtain ⟨text, ht⟩ := hend
    obtain ⟨stretch, front, hs⟩ := List.exists_cons_of_ne_nil (splitAtSlashes_ne_nil text)
    refine ⟨stretch, front, ?_, fun rest hrest => ?_⟩
    · rw [if_pos hslash, ht, splitAtSlashes_append, hs]
      rfl
    · rw [toList_join hne hrest, if_pos hslash, ht, List.append_nil, List.append_assoc,
        List.singleton_append, splitAtSlashes_append, hs, List.cons_append]
  · obtain ⟨stretch, front, hs⟩ :=
      List.exists_cons_of_ne_nil (splitAtSlashes_ne_nil base.text.toList)
    refine ⟨stretch, front, by rw [if_neg hslash, hs, List.append_nil], fun rest hrest => ?_⟩
    rw [toList_join hne hrest, if_neg hslash, List.append_assoc, List.singleton_append,
      splitAtSlashes_append, hs, List.cons_append]

/-- **A path below another** means what both of them say, one after the other. -/
lemma components_join (hne : base.text ≠ "") (hrest : rest.isAbsolute = false) :
    (base.join rest).components =
      base.components ++ (splitAtSlashes rest.text.toList).filterMap componentOf? := by
  obtain ⟨stretch, front, hbase, hjoin⟩ := exists_splitAtSlashes_join hne
  have hnone : (if base.endsInSlash then [[]] else []).filterMap componentOf? = [] := by
    split_ifs <;> rfl
  rw [components_of_splitAtSlashes (join_ne_empty hne hrest) (hjoin rest hrest),
    components_of_splitAtSlashes hne hbase, List.filterMap_append, List.filterMap_append, hnone,
    List.append_nil, List.append_assoc]

/-- A path below another takes the steps of both, one after the other. -/
lemma steps_join (hne : base.text ≠ "") (hrest : rest.isAbsolute = false) :
    (base.join rest).steps = base.steps ++ rest.steps := by
  obtain ⟨stretch, front, hbase, hjoin⟩ := exists_splitAtSlashes_join hne
  have hnone : (if base.endsInSlash then [[]] else []).filterMap stepOf? = [] := by
    split_ifs <;> rfl
  rw [steps, steps, steps, hjoin rest hrest, hbase, ← List.cons_append, ← List.cons_append, List.filterMap_append,
    List.filterMap_append, hnone, List.append_nil]

/-! ## Seen from a folder -/

lemma ne_empty_of_isAbsolute (h : p.isAbsolute) : p.text ≠ "" := by
  intro he
  rw [isAbsolute, he] at h
  cases h

/-- What is written below an absolute path is absolute. -/
lemma isAbsolute_join_of_isAbsolute (h : base.isAbsolute) (rest : Path) :
    (base.join rest).isAbsolute := by
  by_cases hrest : rest.isAbsolute
  · rwa [join, if_pos hrest]
  · rw [isAbsolute_join (ne_empty_of_isAbsolute h) (by simpa using hrest), h]

/-- **A path seen from an absolute folder** is absolute. -/
lemma isAbsolute_absolute {folder : Path} (h : folder.isAbsolute) (p : Path) :
    (folder.absolute p).isAbsolute := by
  have hfold : ∀ (components : List Component) {start : Path}, start.isAbsolute →
      (components.foldl (fun whole c => whole.join ⟨c.text⟩) start).isAbsolute := by
    intro components
    induction components with
    | nil => exact id
    | cons c components ih => exact fun hstart => ih (isAbsolute_join_of_isAbsolute hstart _)
  rw [absolute]
  split_ifs
  · refine isAbsolute_join_of_isAbsolute (hfold _ ?_) _
    split <;> first | rfl | exact h
  · refine hfold _ ?_
    split <;> first | rfl | exact h

end

end AddonRegistry.Path
