import AddonRegistry.Template
import Mathlib.Data.List.Infix

/-!
# What a registry file looks like

The declarations are put into the template before the imports are, and the place of the imports is at
its very beginning.  So neither replacement sees what the other one has put in, and a registry file is
its two blocks with fixed text in between.

* `replaceFirst_append` — the first occurrence of a text, replaced.
* `fillTemplate_eq` — the template with texts in its two places.
* **`rendering_is_verbatim`** — what each of the two replacements does, and the registry file they make.
-/

namespace AddonRegistry

/-! ## Replacing a text -/

/-- A text that begins with what is replaced. -/
lemma replaceFirst_self_append {old : List Char} (hne : old ≠ []) (new after : List Char) :
    replaceFirst old new (old ++ after) = new ++ after := by
  cases old with
  | nil => exact absurd rfl hne
  | cons c rest =>
      have hbegins : (c :: rest).isPrefixOf (c :: (rest ++ after)) = true :=
        List.isPrefixOf_iff_prefix.mpr (List.prefix_append (c :: rest) after)
      rw [List.cons_append, replaceFirst, if_pos hbegins, ← List.cons_append, List.drop_left]

/-- A text in which what is replaced occurs, but not further to the left. -/
lemma replaceFirst_append {old : List Char} (hne : old ≠ []) (new after : List Char) :
    ∀ before : List Char, (∀ i < before.length, ¬ old <+: (before ++ (old ++ after)).drop i) →
      replaceFirst old new (before ++ (old ++ after)) = before ++ (new ++ after)
  | [], _ => replaceFirst_self_append hne new after
  | c :: rest, h => by
      have hfirst : ¬ old.isPrefixOf (c :: (rest ++ (old ++ after))) = true := fun hp =>
        h 0 (Nat.succ_pos _) (List.isPrefixOf_iff_prefix.mp hp)
      rw [List.cons_append, replaceFirst, if_neg hfirst,
        replaceFirst_append hne new after rest fun i hi => h (i + 1) (Nat.succ_lt_succ hi)]
      rfl

/-! ## The template -/

/-- What stands between the imports and the declarations. -/
def heading : String := "\n\nexport default interface AddonRegistry \x7b\n"

/-- What stands behind the declarations. -/
def closing : String := "\n\x7d\n"

lemma replaceFirst_declarationsPlaceholder (declarations : List Char) :
    replaceFirst declarationsPlaceholder declarations template =
      importsPlaceholder ++ heading.toList ++ (declarations ++ closing.toList) := by
  have hsplit : template = importsPlaceholder ++ heading.toList ++
      (declarationsPlaceholder ++ closing.toList) := by
    rw [template, heading, closing, ← List.append_assoc]
  have hfirst : ∀ i < (importsPlaceholder ++ heading.toList).length,
      ¬ declarationsPlaceholder <+: (importsPlaceholder ++ heading.toList ++
        (declarationsPlaceholder ++ closing.toList)).drop i := by
    decide +kernel
  rw [hsplit, replaceFirst_append (by decide +kernel) _ _ _ hfirst]

lemma importsPlaceholder_ne_nil : importsPlaceholder ≠ [] := by decide +kernel

/-- **The template, filled.**  Nothing that is put in is looked at again. -/
lemma fillTemplate_eq (imports declarations : String) :
    fillTemplate imports declarations = imports ++ heading ++ declarations ++ closing := by
  rw [fillTemplate, replaceFirst_declarationsPlaceholder, List.append_assoc,
    replaceFirst_self_append importsPlaceholder_ne_nil]
  simp only [String.ofList_append, String.ofList_toList, String.append_assoc]

/-- **Rendering puts the lines in as they are.**  Whatever text is put in for the declarations, it goes to
the place of the declarations; whatever text is put in for the imports then, it goes to the beginning, and
everything behind that stays.  So a registry file is the import lines, the heading, the declaration lines
and the closing, also where the lines hold a placeholder, a part of one, line feeds or the template. -/
theorem rendering_is_verbatim (imports declarations : List String) :
    (∀ lines : List Char, replaceFirst declarationsPlaceholder lines template =
      importsPlaceholder ++ heading.toList ++ (lines ++ closing.toList)) ∧
    (∀ lines behind : List Char, replaceFirst importsPlaceholder lines (importsPlaceholder ++ behind) =
      lines ++ behind) ∧
    render ⟨imports, declarations⟩ =
      "\n".intercalate imports ++ "\n\nexport default interface AddonRegistry \x7b\n" ++
        "\n".intercalate declarations ++ "\n\x7d\n" := by
  refine ⟨replaceFirst_declarationsPlaceholder,
    fun lines behind => replaceFirst_self_append importsPlaceholder_ne_nil lines behind, ?_⟩
  rw [render, fillTemplate_eq]
  rfl

end AddonRegistry
