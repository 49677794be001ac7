import AddonRegistry.Proofs.Template

/-!
# The lines of a registry file

A registry file is two blocks of lines with fixed lines around them.  Read line by line it is known where
the blocks end: no line of a block is empty, an empty line follows the imports, and what follows the
declarations is always the same.  The one thing to mind is that a block without lines leaves an empty line,
which is told apart from the one that follows by coming first.

* `shownLines` — the lines on which a block stands.
* `registryLines`, `splitOn_render` — the lines of a registry file.
* `takeWhile_shownLines` — a block is read back from its lines.
* `eq_of_registryLines_eq` — and so is the whole body.
* **`render_inj`** — a registry file tells the lines that it was written with.
-/

namespace AddonRegistry

/-! ## Lines of texts -/

/-- That a text takes one line, and that something stands on it. -/
def IsLine (text : String) : Prop := text ≠ "" ∧ '\n' ∉ text.toList

/-- That every line of a body is one. -/
structure Body.IsLined (body : Body) : Prop where
  imports : ∀ line ∈ body.imports, IsLine line
  declarations : ∀ line ∈ body.declarations, IsLine line

/-- Two texts of lines, one below the other. -/
lemma intercalate_append {front back : List (List Char)} (hfront : front ≠ []) (hback : back ≠ []) :
    ['\n'].intercalate (front ++ back) =
      ['\n'].intercalate front ++ '\n' :: ['\n'].intercalate back := by
  induction front with
  | nil => exact absurd rfl hfront
  | cons line rest ih =>
      cases rest with
      | nil => rw [List.singleton_append, List.intercalate_cons_of_ne_nil hback,
          List.intercalate_singleton, List.append_assoc, List.singleton_append]
      | cons next more =>
          rw [List.cons_append, List.cons_append, List.intercalate_cons_cons, ← List.cons_append,
            ih (List.cons_ne_nil next more), List.intercalate_cons_cons, ← List.append_assoc]

/-! ## Blocks -/

/-- The lines on which a block stands.  One without lines leaves an empty line. -/
def shownLines (lines : List String) : List (List Char) :=
  if lines = [] then [[]] else lines.map String.toList

lemma shownLines_ne_nil (lines : List String) : shownLines lines ≠ [] := by
  rw [shownLines]
  split_ifs with h
  · exact List.cons_ne_nil [] []
  · exact mt List.map_eq_nil_iff.mp h

lemma intercalate_shownLines (lines : List String) :
    ['\n'].intercalate (shownLines lines) = ("\n".intercalate lines).toList := by
  rw [String.toList_intercalate, shownLines]
  split_ifs with h
  · rw [h]
    rfl
  · rfl

lemma newline_notMem_of_mem_shownLines {lines : List String} {line : List Char}
    (h : ∀ text ∈ lines, IsLine text) (hline : line ∈ shownLines lines) : '\n' ∉ line := by
  rw [shownLines] at hline
  split_ifs at hline
  · rw [List.mem_singleton.mp hline]
    exact List.not_mem_nil
  · obtain ⟨text, ht, rfl⟩ := List.mem_map.mp hline
    exact (h text ht).2

/-- **A block is read back** up to the first empty line. -/
lemma takeWhile_shownLines {lines : List String} (h : ∀ text ∈ lines, IsLine text)
    (rest : List (List Char)) :
    (shownLines lines ++ [] :: rest).takeWhile (· ≠ []) = lines.map String.toList := by
  rw [shownLines]
  split_ifs with hnil
  · rw [hnil]
    rfl
  · rw [List.takeWhile_append_of_pos, List.takeWhile_cons_of_neg (by simp), List.append_nil]
    intro line hline
    obtain ⟨text, ht, rfl⟩ := List.mem_map.mp hline
    exact decide_eq_true fun hempty => (h text ht).1 (String.toList_eq_nil_iff.mp hempty)

/-- Blocks with an empty line behind them are known from their lines. -/
lemma eq_of_shownLines_eq {lines others : List String} {rest more : List (List Char)}
    (hlines : ∀ text ∈ lines, IsLine text) (hothers : ∀ text ∈ others, IsLine text)
    (h : shownLines lines ++ [] :: rest = shownLines others ++ [] :: more) : lines = others := by
  have htaken := congrArg (List.takeWhile (· ≠ [])) h
  rw [takeWhile_shownLines hlines, takeWhile_shownLines hothers] at htaken
  exact List.map_injective_iff.mpr (fun _ _ => String.toList_inj.mp) htaken

/-! ## Whole files -/

/-- The line between the imports and the declarations. -/
def headLine : List Char := "export default interface AddonRegistry \x7b".toList

/-- The lines of a registry file. -/
def registryLines (body : Body) : List (List Char) :=
  shownLines body.imports ++ [] :: headLine :: (shownLines body.declarations ++ [['\x7d'], []])

lemma toList_render (body : Body) :
    (render body).toList = ['\n'].intercalate (registryLines body) := by
  have hdeclarations : shownLines body.declarations ++ [['\x7d'], []] ≠ [] :=
    List.append_ne_nil_of_left_ne_nil (shownLines_ne_nil _) _
  rw [registryLines, intercalate_append (shownLines_ne_nil _) (List.cons_ne_nil _ _),
    List.intercalate_cons_cons, List.intercalate_cons_of_ne_nil hdeclarations,
    intercalate_append (shownLines_ne_nil _) (List.cons_ne_nil _ _), intercalate_shownLines,
    intercalate_shownLines, render, fillTemplate_eq, Body.importsBlock, Body.declarationsBlock]
  simp only [String.toList_append, List.append_assoc]
  rfl

/-- **The lines of a registry file** are those it was written with. -/
lemma splitOn_render {body : Body} (h : body.IsLined) :
    (render body).toList.splitOn '\n' = registryLines body := by
  rw [toList_render]
  refine List.splitOn_intercalate '\n' (fun line hline => ?_)
    (List.append_ne_nil_of_left_ne_nil (shownLines_ne_nil _) _)
  rw [registryLines] at hline
  simp only [List.mem_append, List.mem_cons, List.not_mem_nil, or_false] at hline
  rcases hline with hline | rfl | rfl | hline | rfl | rfl
  · exact newline_notMem_of_mem_shownLines h.imports hline
  · decide
  · decide
  · exact newline_notMem_of_mem_shownLines h.declarations hline
  · decide
  · decide

/-- **A body is read back** from the lines of its file. -/
lemma eq_of_registryLines_eq {body other : Body} (hbody : body.IsLined) (hother : other.IsLined)
    (h : registryLines body = registryLines other) : body = other := by
  obtain ⟨imports, declarations⟩ := body
  obtain ⟨imports', declarations'⟩ := other
  rw [registryLines, registryLines] at h
  obtain rfl : imports = imports' := eq_of_shownLines_eq hbody.imports hother.imports h
  -- the empty line at the end of the file is behind the declarations too
  have hblocks : shownLines declarations ++ [['\x7d'], []] =
      shownLines declarations' ++ [['\x7d'], []] := by
    simpa using h
  have hends : shownLines declarations ++ [[]] = shownLines declarations' ++ [[]] :=
    congrArg (· ++ [[]]) (List.append_cancel_right hblocks)
  obtain rfl : declarations = declarations' :=
    eq_of_shownLines_eq hbody.declarations hother.declarations hends
  rfl

/-- **A registry file tells its lines.** -/
theorem render_inj {body other : Body} (hbody : body.IsLined) (hother : other.IsLined) :
    render body = render other ↔ body = other := by
  refine ⟨fun h => eq_of_registryLines_eq hbody hother ?_, congrArg render⟩
  rw [← splitOn_render hbody, ← splitOn_render hother, h]

end AddonRegistry
