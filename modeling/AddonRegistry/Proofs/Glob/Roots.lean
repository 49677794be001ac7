import AddonRegistry.Proofs.Glob.Steps

/-!
# Searching below a folder

A pattern that is relative is searched below a base folder, and the way to that folder is a part of the
whole pattern.  If the folder has no character that means something in a pattern, the search writes its
names one by one and goes on behind them; so what the pattern finds is told by the legs of the pattern
itself, from the folder as the search has written it.

* `namesTo`, `written` — the names on the way to a folder, and the folder as a search writes it.
* `splitAtSlashes_startOf_join` — the stretches of a pattern below a folder.
* `WrittenBy` — how a folder is written: a path that its first stretch spells, and names behind it.
* **`written_spec`** — what is written means the same folder.
* **`written_sublist`** — and it is written with fewer slashes at most.
-/

namespace AddonRegistry.Glob

variable {tree : FileTree} {root p q : Path} {pattern : String} {names : List String}

/-! ## The way to a folder -/

/-- The names on the way to a folder. -/
def namesTo (root : Path) : List String :=
  let all := Path.splitAtSlashes (startOf root.text.toList).2
  (if root.endsInSlash then all.dropLast else all).map String.ofList

/-- A folder as a search writes it. -/
def written (root : Path) : Path := (namesTo root).foldl step (startOf root.text.toList).1

lemma exists_startOf_of_isAbsolute (h : p.isAbsolute) :
    ∃ behind, p.text.toList = '/' :: behind ∧ startOf p.text.toList = (⟨"/"⟩, behind) := by
  rw [Path.isAbsolute, decide_eq_true_eq, List.head?_eq_some_iff] at h
  obtain ⟨behind, hb⟩ := h
  exact ⟨behind, hb, by rw [hb, startOf]⟩

lemma startOf_of_not_isAbsolute (h : p.isAbsolute = false) :
    startOf p.text.toList = (⟨"."⟩, p.text.toList) := by
  rw [Path.isAbsolute, decide_eq_false_iff_not] at h
  rw [startOf.eq_def]
  split
  · next heq => exact absurd (by rw [heq]; rfl) h
  · rfl

lemma map_toList_map_ofList (stretches : List (List Char)) :
    (stretches.map String.ofList).map String.toList = stretches := by
  rw [List.map_map]
  exact (List.map_congr_left fun text _ => String.toList_ofList).trans (List.map_id stretches)

/-- The first stretch of a path is empty if it is absolute, and the names on the way are the other
ones. -/
lemma namesTo_eq {stretch : List Char} {front : List (List Char)}
    (hs : Path.splitAtSlashes root.text.toList =
      stretch :: (front ++ if root.endsInSlash then [[]] else [])) :
    namesTo root = (if root.isAbsolute then front else stretch :: front).map String.ofList := by
  rw [namesTo]
  congr 1
  by_cases habs : root.isAbsolute
  · obtain ⟨behind, hb, hstart⟩ := exists_startOf_of_isAbsolute habs
    rw [hb, Path.splitAtSlashes, if_pos rfl] at hs
    rw [if_pos habs, hstart, (List.cons.inj hs).2]
    split_ifs
    · exact List.dropLast_concat
    · exact List.append_nil front
  · rw [if_neg habs, startOf_of_not_isAbsolute (by simpa using habs), hs, ← List.cons_append]
    split_ifs
    · exact List.dropLast_concat
    · exact List.append_nil _

/-- The stretches of a pattern below a folder. -/
lemma splitAtSlashes_startOf_join (hne : root.text ≠ "") (hrest : q.isAbsolute = false) :
    (startOf (root.join q).text.toList).1 = (startOf root.text.toList).1 ∧
      Path.splitAtSlashes (startOf (root.join q).text.toList).2 =
        (namesTo root).map String.toList ++ Path.splitAtSlashes q.text.toList := by
  obtain ⟨stretch, front, hroot, hjoin⟩ := Path.exists_splitAtSlashes_join hne
  have hjoin := hjoin q hrest
  have habs := Path.isAbsolute_join hne hrest
  rw [namesTo_eq hroot, map_toList_map_ofList]
  by_cases hslash : root.isAbsolute
  · rw [hslash] at habs
    obtain ⟨behind, hb, hstart⟩ := exists_startOf_of_isAbsolute hslash
    obtain ⟨below, hbelow, hstart'⟩ := exists_startOf_of_isAbsolute habs
    rw [hbelow, Path.splitAtSlashes, if_pos rfl] at hjoin
    rw [if_pos hslash, hstart, hstart']
    exact ⟨rfl, (List.cons.inj hjoin).2⟩
  · rw [Bool.not_eq_true] at hslash
    rw [hslash] at habs
    rw [if_neg (by simp [hslash]), startOf_of_not_isAbsolute hslash, startOf_of_not_isAbsolute habs]
    exact ⟨rfl, hjoin⟩

/-! ## The folder as it is written -/

/-- How a search writes a folder: first a path that its first stretch spells, and then the names behind
it. -/
structure WrittenBy (root first : Path) (stretch : List Char) (front : List (List Char)) : Prop where
  stretches : Path.splitAtSlashes root.text.toList =
    stretch :: (front ++ if root.endsInSlash then [[]] else [])
  written_eq : written root = (front.map String.ofList).foldl step first
  text : first.text.toList = if stretch = [] then ['/'] else stretch
  undotted : Undotted first
  absolute : first.isAbsolute = root.isAbsolute
  components : first.components = Path.frontOf stretch
  steps : first.steps = [stretch].filterMap Path.stepOf?
  /-- The search starts from there, or from the working folder and gets there with the first name. -/
  way : (startOf root.text.toList).1 = first ∧ namesTo root = front.map String.ofList ∨
    root.isAbsolute = false ∧ (startOf root.text.toList).1 = ⟨"."⟩ ∧
      step ⟨"."⟩ (String.ofList stretch) = first ∧
      namesTo root = String.ofList stretch :: front.map String.ofList

lemma exists_writtenBy (hroot : Undotted root) :
    ∃ first stretch front, WrittenBy root first stretch front := by
  obtain ⟨stretch, front, hs, -⟩ := Path.exists_splitAtSlashes_join hroot.nonempty
  have hnames := namesTo_eq hs
  by_cases habs : root.isAbsolute
  · obtain ⟨behind, hb, hstart⟩ := exists_startOf_of_isAbsolute habs
    have hstretch : stretch = [] := by
      rw [hb, Path.splitAtSlashes, if_pos rfl] at hs
      exact (List.cons.inj hs).1.symm
    subst hstretch
    rw [if_pos habs] at hnames
    exact ⟨⟨"/"⟩, [], front, hs, by rw [written, hnames, hstart], by decide, ⟨by decide, by decide⟩,
      habs.symm ▸ rfl, by decide, by decide, .inl ⟨congrArg Prod.fst hstart, hnames⟩⟩
  · rw [Bool.not_eq_true] at habs
    have hne : stretch ≠ [] := by
      rintro rfl
      rw [Path.isAbsolute_of_nil hroot.nonempty hs] at habs
      cases habs
    have hslash : '/' ∉ stretch := Path.slash_notMem_of_mem_splitAtSlashes (hs ▸ List.mem_cons_self)
    have hfirst : Path.text ⟨String.ofList stretch⟩ ≠ "" := by simpa using hne
    have hsplit : Path.splitAtSlashes (Path.text ⟨String.ofList stretch⟩).toList = [stretch] := by
      rw [String.toList_ofList, Path.splitAtSlashes_of_notMem hslash]
    have hcomponents : Path.components ⟨String.ofList stretch⟩ = Path.frontOf stretch :=
      (Path.components_of_splitAtSlashes hfirst hsplit).trans (List.append_nil _)
    have hcurrent : Path.components ⟨"."⟩ = [.current] := by decide
    have hundotted := hroot.undotted
    rw [Path.components_of_splitAtSlashes hroot.nonempty hs,
      List.head?_append_of_ne_nil _ (Path.frontOf_ne_nil stretch)] at hundotted
    rw [habs, if_neg Bool.false_ne_true, List.map_cons] at hnames
    refine ⟨⟨String.ofList stretch⟩, stretch, front, hs, ?_, ?_, ⟨hfirst, hcomponents ▸ hundotted⟩, ?_,
      hcomponents, by rw [Path.steps, hsplit], .inr ⟨habs, ?_, if_pos hcurrent, hnames⟩⟩
    · rw [written, hnames, startOf_of_not_isAbsolute habs, List.foldl_cons, step, if_pos hcurrent]
    · rw [if_neg hne, String.toList_ofList]
    · rw [habs, isAbsolute_of_notMem]
      rwa [String.toList_ofList]
    · rw [startOf_of_not_isAbsolute habs]

section

variable {first : Path} {stretch : List Char} {front : List (List Char)}

lemma WrittenBy.slash_notMem (h : WrittenBy root first stretch front) :
    ∀ name ∈ front.map String.ofList, '/' ∉ name.toList := by
  intro name hname
  obtain ⟨other, ho, rfl⟩ := List.mem_map.mp hname
  rw [String.toList_ofList]
  have hstretch : other ∈ Path.splitAtSlashes root.text.toList := by
    rw [h.stretches]
    simp [ho]
  exact Path.slash_notMem_of_mem_splitAtSlashes hstretch

/-- **A folder as it is written** means the same folder. -/
lemma written_spec (hroot : Undotted root) :
    Undotted (written root) ∧ (written root).isAbsolute = root.isAbsolute ∧
      (written root).components = root.components ∧ (written root).steps = root.steps := by
  obtain ⟨first, stretch, front, h⟩ := exists_writtenBy hroot
  have hidle {α : Type} (f : List Char → Option α) (hf : f [] = none) :
      (if root.endsInSlash then [[]] else []).filterMap f = [] := by
    split_ifs
    · exact List.filterMap_cons_none hf
    · rfl
  have hcomponents : root.components = Path.frontOf stretch ++ front.filterMap Path.componentOf? := by
    rw [Path.components_of_splitAtSlashes hroot.nonempty h.stretches, List.filterMap_append,
      hidle _ rfl, List.append_nil]
  have hsteps : root.steps = (stretch :: front).filterMap Path.stepOf? := by
    rw [Path.steps, h.stretches, ← List.cons_append, List.filterMap_append, hidle _ rfl, List.append_nil]
  rw [h.written_eq]
  refine ⟨h.undotted.foldl h.slash_notMem,
    (isAbsolute_foldl_step h.slash_notMem h.undotted).trans h.absolute, ?_, ?_⟩
  · rw [components_foldl_step h.slash_notMem h.undotted, map_toList_map_ofList, h.components, hcomponents]
  · rw [steps_foldl_step h.slash_notMem h.undotted, map_toList_map_ofList, h.steps, hsteps,
      ← List.filterMap_append]
    rfl

/-- Names are written behind a path with at most one slash in front of each. -/
lemma foldl_step_sublist (hnames : ∀ name ∈ names, '/' ∉ name.toList) (hp : Undotted p) :
    (names.foldl step p).text.toList.Sublist
      (p.text.toList ++ names.flatMap fun name => '/' :: name.toList) := by
  induction names generalizing p with
  | nil => exact (List.append_nil _).symm ▸ List.Sublist.refl _
  | cons name names ih =>
      rw [List.forall_mem_cons] at hnames
      refine (ih hnames.2 (hp.step hnames.1)).trans ?_
      rw [List.flatMap_cons, ← List.append_assoc]
      refine List.Sublist.append_right ?_ _
      rw [hp.step_eq, Path.toList_join hp.nonempty (isAbsolute_of_notMem hnames.1), List.append_assoc]
      refine List.Sublist.append_left ?_ _
      split_ifs
      · exact List.sublist_cons_self '/' name.toList
      · exact List.Sublist.refl _

/-- **A folder as it is written** has the same characters, but for some slashes at most. -/
lemma written_sublist (hroot : Undotted root) :
    (written root).text.toList.Sublist root.text.toList := by
  obtain ⟨first, stretch, front, h⟩ := exists_writtenBy hroot
  have hroot' : root.text.toList =
      stretch ++ (front ++ if root.endsInSlash then [[]] else []).flatMap ('/' :: ·) := by
    rw [← Path.joinWithSlashes_cons_eq, ← h.stretches, Path.joinWithSlashes_splitAtSlashes]
  have hbelow (stretches : List (List Char)) :
      (stretches.map String.ofList).flatMap (fun name => '/' :: name.toList) =
        stretches.flatMap ('/' :: ·) := by
    simp [List.flatMap_map]
  have htext := h.text
  rw [h.written_eq]
  by_cases hstretch : stretch = []
  · subst hstretch
    rw [if_pos rfl] at htext
    cases front with
    | nil =>
        have habs : root.isAbsolute := by rw [← h.absolute, Path.isAbsolute, htext]; rfl
        obtain ⟨behind, hb, -⟩ := exists_startOf_of_isAbsolute habs
        rw [List.map_nil, List.foldl_nil, htext, hb]
        exact List.singleton_sublist.mpr List.mem_cons_self
    | cons next others =>
        -- the first name is written right behind the slash
        have hslash := List.forall_mem_cons.mp h.slash_notMem
        have hnext : (step first (String.ofList next)).text.toList = '/' :: next := by
          rw [h.undotted.step_eq, Path.toList_join h.undotted.nonempty (isAbsolute_of_notMem hslash.1),
            Path.endsInSlash, htext, String.toList_ofList]
          rfl
        have hsub := foldl_step_sublist hslash.2 (h.undotted.step hslash.1)
        rw [hbelow, hnext] at hsub
        rw [hroot', List.nil_append, List.flatMap_append, List.flatMap_cons]
        exact hsub.trans (List.sublist_append_left _ _)
  · rw [if_neg hstretch] at htext
    have hsub := foldl_step_sublist h.slash_notMem h.undotted
    rw [hbelow, htext] at hsub
    rw [hroot', List.flatMap_append, ← List.append_assoc]
    exact hsub.trans (List.sublist_append_left _ _)

end

end AddonRegistry.Glob
