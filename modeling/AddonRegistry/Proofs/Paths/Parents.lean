import AddonRegistry.Proofs.Paths.Joins

/-!
# Parents below a path

A path is spelled by its front and its stretches, and its parent by fewer of these.  So the parent of what
is written below a path is what the fewer stretches spell there, until nothing is left of them: then it is
the path itself, without a slash or a dot that says nothing at its end.

* `ofFrontAndBody_frontAndBody` — a path is what its front and its stretches spell.
* `trimmed` — a path without idle stretches at its end.
* **`parent?_join`** — the parent of what is written below a path.
* `telling` — the stretches that say something; the parent has one less of them.
* `ancestors_of_parent?` — what is above a path is its parent and what is above that.
-/

namespace AddonRegistry.Path

/-! ## Front and stretches -/

/-- A path is what its front and its stretches spell. -/
lemma ofFrontAndBody_frontAndBody (p : Path) : ofFrontAndBody p.frontAndBody.1 p.frontAndBody.2 = p := by
  have htext := joinWithSlashes_splitAtSlashes p.text.toList
  have hp {q : Path} (h : q.text.toList = p.text.toList) : q = p := by
    cases q
    cases p
    exact congrArg Path.mk (String.toList_inj.mp h)
  rw [frontAndBody]
  split
  · next second rest hs =>
      rw [hs, joinWithSlashes_cons (List.cons_ne_nil second rest), List.nil_append] at htext
      refine hp (Eq.trans ?_ htext)
      simp [ofFrontAndBody]
  · next rest hs =>
      rw [hs] at htext
      cases rest with
      | nil => exact hp htext
      | cons next others =>
          rw [joinWithSlashes_cons (List.cons_ne_nil next others)] at htext
          refine hp (Eq.trans ?_ htext)
          simp [ofFrontAndBody, Component.text]
  · refine hp (Eq.trans ?_ htext)
    simp [ofFrontAndBody]

lemma trimEnd_append (front back : List (List Char)) : trimEnd (front ++ back) =
    if trimEnd back = [] then trimEnd front else front ++ trimEnd back := by
  rw [trimEnd, List.reverse_append, List.dropWhile_append]
  by_cases h : trimEnd back = []
  · have hnil : back.reverse.dropWhile isIdle = [] := List.reverse_eq_nil_iff.mp h
    rw [if_pos h, hnil]
    rfl
  · have hcons : (back.reverse.dropWhile isIdle).isEmpty ≠ true := fun hnil =>
      h (List.reverse_eq_nil_iff.mpr (List.isEmpty_iff.mp hnil))
    rw [if_neg h, if_neg hcons, List.reverse_append, List.reverse_reverse]
    rfl

/-- Nothing is left if no stretch says something. -/
lemma trimEnd_eq_nil_iff {body : List (List Char)} : trimEnd body = [] ↔ body.filterMap componentOf? = [] := by
  rw [trimEnd, List.reverse_eq_nil_iff, List.dropWhile_eq_nil_iff, List.filterMap_eq_nil_iff]
  simp only [List.mem_reverse]
  refine forall₂_congr fun stretch _ => ⟨componentOf?_of_isIdle, fun hnone => ?_⟩
  by_contra hidle
  have hsome := isSome_componentOf? (Bool.eq_false_iff.mpr hidle)
  rw [hnone] at hsome
  cases hsome

/-- A path without idle stretches at its end. -/
def trimmed (p : Path) : Path := ofFrontAndBody p.frontAndBody.1 (trimEnd p.frontAndBody.2)

lemma trimmed_same (p : Path) : p.trimmed.Same p := by
  rcases hp : p.frontAndBody with ⟨front, body⟩
  obtain ⟨hslash, hfront⟩ := front_cases hp
  rw [Same, trimmed, hp, components_of_frontAndBody hp, components_ofFrontAndBody
    (fun stretch hm => hslash stretch ((isPrefix_trimEnd body).subset hm)) hfront, filterMap_trimEnd]

lemma trimmed_ne_empty {p : Path} (hne : p.text ≠ "") : p.trimmed.text ≠ "" := by
  intro h
  have hnone : p.trimmed.components = [] := by
    rw [components, frontAndBody, h]
    rfl
  exact components_ne_nil hne ((trimmed_same p).symm.trans hnone)

/-! ## Below a path -/

section

variable {base rest : Path} {last : List Char} {above : List (List Char)}

/-- The front of a path below another is that of the other one. -/
lemma exists_frontAndBody_join (hne : base.text ≠ "") :
    ∃ body idle, base.frontAndBody.2 = body ++ idle ∧ trimEnd idle = [] ∧
      ∀ rest : Path, rest.isAbsolute = false →
        (base.join rest).frontAndBody =
          (base.frontAndBody.1, body ++ splitAtSlashes rest.text.toList) := by
  obtain ⟨stretch, front, hbase, hjoin⟩ := exists_splitAtSlashes_join hne
  have hidle : trimEnd (if base.endsInSlash then [[]] else []) = [] := by split_ifs <;> rfl
  by_cases hempty : stretch = []
  · subst hempty
    have hroot {p : Path} {body : List (List Char)} (hs : splitAtSlashes p.text.toList = [] :: body)
        (hb : body ≠ []) : p.frontAndBody = (some .root, body) := by
      obtain ⟨second, others, rfl⟩ := List.exists_cons_of_ne_nil hb
      exact frontAndBody_of_root hs
    have hback : (front ++ if base.endsInSlash then [[]] else []) ≠ [] := by
      intro hnil
      have htext := joinWithSlashes_splitAtSlashes base.text.toList
      rw [hbase, hnil] at htext
      exact hne (String.toList_eq_nil_iff.mp htext.symm)
    have hbody := hroot hbase hback
    refine ⟨front, _, congrArg Prod.snd hbody, hidle, fun rest hrest => ?_⟩
    rw [congrArg Prod.fst hbody]
    exact hroot (hjoin rest hrest) (List.append_ne_nil_of_right_ne_nil _ (splitAtSlashes_ne_nil _))
  by_cases hdot : stretch = ['.']
  · subst hdot
    have hbody := frontAndBody_of_current hbase
    refine ⟨front, _, congrArg Prod.snd hbody, hidle, fun rest hrest => ?_⟩
    rw [congrArg Prod.fst hbody]
    exact frontAndBody_of_current (hjoin rest hrest)
  · have htelling : isIdle stretch = false := by simp [isIdle, hempty, hdot]
    have hbody := frontAndBody_of_telling hbase htelling
    refine ⟨stretch :: front, _, congrArg Prod.snd hbody, hidle, fun rest hrest => ?_⟩
    rw [congrArg Prod.fst hbody]
    exact frontAndBody_of_telling (hjoin rest hrest) htelling

/-- What the first stretches of a relative path spell is a relative path. -/
lemma splitAtSlashes_of_kept {kept dropped : List (List Char)} (hrest : rest.isAbsolute = false)
    (hs : splitAtSlashes rest.text.toList = kept ++ dropped) (hne : kept ≠ []) :
    splitAtSlashes (Path.text ⟨String.ofList (joinWithSlashes kept)⟩).toList = kept ∧
      Path.isAbsolute ⟨String.ofList (joinWithSlashes kept)⟩ = false := by
  have hslash : ∀ stretch ∈ kept, '/' ∉ stretch := fun stretch hm =>
    slash_notMem_of_mem_splitAtSlashes (hs ▸ List.mem_append_left _ hm)
  have hbegin : joinWithSlashes kept <+: rest.text.toList := by
    rw [← joinWithSlashes_splitAtSlashes rest.text.toList, hs]
    exact joinWithSlashes_prefix dropped kept
  rw [isAbsolute, decide_eq_false_iff_not] at hrest ⊢
  rw [String.toList_ofList, splitAtSlashes_joinWithSlashes hne hslash]
  refine ⟨rfl, fun habs => hrest ?_⟩
  obtain ⟨more, hmore⟩ := List.head?_eq_some_iff.mp habs
  obtain ⟨below, hbelow⟩ := hbegin
  rw [← hbelow, hmore]
  rfl

/-- **The parent of what is written below a path.** -/
lemma parent?_join (hne : base.text ≠ "") (hrest : rest.isAbsolute = false)
    (hdrop : (splitAtSlashes rest.text.toList).reverse.dropWhile isIdle = last :: above) :
    (base.join rest).parent? = some (if trimEnd above.reverse = [] then base.trimmed
      else base.join ⟨String.ofList (joinWithSlashes (trimEnd above.reverse))⟩) := by
  obtain ⟨body, idle, hbody, hidle, hjoin⟩ := exists_frontAndBody_join hne
  obtain ⟨dropped, hsplit, -⟩ := body_eq_of_dropWhile hdrop
  have hparent : (base.join rest).parent? =
      some (ofFrontAndBody base.frontAndBody.1 (trimEnd (body ++ above.reverse))) := by
    rw [parent?, hjoin rest hrest]
    dsimp only
    rw [List.reverse_append, List.dropWhile_append, hdrop, List.isEmpty_cons,
      if_neg Bool.false_ne_true, List.cons_append]
    dsimp only
    rw [List.reverse_append, List.reverse_reverse]
  rw [hparent, trimEnd_append]
  split_ifs with hkept
  · rw [trimmed, hbody, trimEnd_append, if_pos hidle]
  · obtain ⟨hsame, hrelative⟩ := splitAtSlashes_of_kept hrest hsplit hkept
    have hspelled := ofFrontAndBody_frontAndBody
      (base.join ⟨String.ofList (joinWithSlashes (trimEnd above.reverse))⟩)
    rw [hjoin _ hrelative, hsame] at hspelled
    exact congrArg some hspelled

/-- The stretches of a path that say something. -/
def telling (p : Path) : List Component := (splitAtSlashes p.text.toList).filterMap componentOf?

lemma ne_empty_of_telling (h : rest.telling ≠ []) : rest.text ≠ "" := by
  intro he
  rw [telling, he] at h
  exact h rfl

lemma exists_cons_of_telling (h : rest.telling ≠ []) :
    ∃ last above, (splitAtSlashes rest.text.toList).reverse.dropWhile isIdle = last :: above := by
  refine List.exists_cons_of_ne_nil fun hnil => h (trimEnd_eq_nil_iff.mp ?_)
  rw [trimEnd, hnil]
  rfl

lemma isIdle_of_dropWhile {body : List (List Char)} (hdrop : body.reverse.dropWhile isIdle = last :: above) :
    isIdle last = false := by
  have := List.head_dropWhile_not isIdle (l := body.reverse) (by simp [hdrop])
  simpa [hdrop] using this

/-- Without the last of them there is one less. -/
lemma length_telling (hdrop : (splitAtSlashes rest.text.toList).reverse.dropWhile isIdle = last :: above) :
    rest.telling.length = ((trimEnd above.reverse).filterMap componentOf?).length + 1 := by
  obtain ⟨c, hc⟩ := Option.isSome_iff_exists.mp (isSome_componentOf? (isIdle_of_dropWhile hdrop))
  have htelling := filterMap_dropWhile_isIdle (splitAtSlashes rest.text.toList).reverse
  rw [hdrop, List.filterMap_cons_some hc, List.filterMap_reverse] at htelling
  rw [telling, ← List.length_reverse, ← htelling, List.length_cons, filterMap_trimEnd,
    List.filterMap_reverse, List.length_reverse]

end

/-! ## Ancestors -/

/-- The parent of a path has all components but the last one. -/
lemma components_of_parent? {p folder : Path} (h : p.parent? = some folder) :
    ∃ c, p.components = folder.components ++ [c] := by
  rcases hp : p.frontAndBody with ⟨front, body⟩
  obtain ⟨hslash, hfront⟩ := front_cases hp
  rw [parent?, hp] at h
  dsimp only at h
  split at h
  · next last above hdrop =>
      cases h
      have htrim : trimEnd body = above.reverse ++ [last] := by rw [trimEnd, hdrop, List.reverse_cons]
      have hkept : trimEnd above.reverse <+: trimEnd body := by
        rw [htrim]
        exact (isPrefix_trimEnd above.reverse).trans (List.prefix_append _ _)
      obtain ⟨c, hc⟩ := Option.isSome_iff_exists.mp
        (isSome_componentOf? (isIdle_of_dropWhile hdrop))
      refine ⟨c, ?_⟩
      rw [components_of_frontAndBody hp, ← filterMap_trimEnd body, htrim, List.filterMap_append,
        List.filterMap_cons_some hc, List.filterMap_nil, components_ofFrontAndBody
          (fun stretch hm => hslash stretch ((hkept.trans (isPrefix_trimEnd body)).subset hm)) ?_,
        filterMap_trimEnd, List.append_assoc]
      refine hfront.imp_right (Or.imp_right fun hnone => ⟨hnone.1, fun stretch hm => ?_⟩)
      obtain ⟨more, hmore⟩ := hkept
      obtain ⟨others, ho⟩ := List.head?_eq_some_iff.mp hm
      exact hnone.2 stretch (by rw [← hmore, ho]; rfl)
  · next hdrop =>
      split_ifs at h with hcurrent
      cases h
      have hnone : body.filterMap componentOf? = [] := by
        rw [← trimEnd_eq_nil_iff, trimEnd, hdrop, List.reverse_nil]
      refine ⟨.current, ?_⟩
      rw [components_of_frontAndBody hp, hnone, hcurrent]
      rfl

/-- What is above a path is its parent and what is above that. -/
lemma ancestors_of_parent? {p folder : Path} (h : p.parent? = some folder) :
    p.ancestors = p :: folder.ancestors := by
  obtain ⟨c, hc⟩ := components_of_parent? h
  rw [ancestors, hc, List.length_append, List.length_singleton, parents, h]
  rfl

end AddonRegistry.Path
