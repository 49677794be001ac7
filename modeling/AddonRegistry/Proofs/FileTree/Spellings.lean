import AddonRegistry.Proofs.FileTree.Walks

/-!
# Spellings of one path

Where a path leads is written on its components: the slash in front goes to the root, a pair of dots
goes up, and a name goes down.  So two spellings of the same components lead to one place, if both lead
to a file.

* `Component.apply` — where a component leads.
* `place_eq_foldl_components` — where a path to a file leads.
* **`locate_eq_of_same`** — two spellings of one path.
-/

namespace AddonRegistry

/-- Where a component leads. -/
def Component.apply : Component → List String → List String
  | .root, _ => []
  | .current, place => place
  | .parent, place => place.dropLast
  | .name text, place => place ++ [text]

namespace Path

/-- Behind the front of a path, steps and components lead alike. -/
lemma foldl_steps_eq_foldl_components : ∀ (stretches : List (List Char)) (place : List String),
    (stretches.filterMap stepOf?).foldl (fun place step => step.apply place) place =
      (stretches.filterMap componentOf?).foldl (fun place c => c.apply place) place
  | [], _ => rfl
  | stretch :: rest, place => by
      have ih := foldl_steps_eq_foldl_components rest
      by_cases hempty : stretch = []
      · rw [List.filterMap_cons_none (by simp [stepOf?, hempty]),
          List.filterMap_cons_none (by simp [componentOf?, isIdle, hempty]), ih]
      by_cases hdot : stretch = ['.']
      · rw [List.filterMap_cons_some (by simp [stepOf?, hdot] : stepOf? stretch = some .stay),
          List.filterMap_cons_none (by simp [componentOf?, isIdle, hdot]), List.foldl_cons, ih]
        rfl
      by_cases hdots : stretch = ['.', '.']
      · rw [List.filterMap_cons_some (by simp [stepOf?, hdots] : stepOf? stretch = some .up),
          List.filterMap_cons_some
            (by simp [componentOf?, isIdle, hdots] : componentOf? stretch = some .parent),
          List.foldl_cons, List.foldl_cons, ih]
        rfl
      · rw [List.filterMap_cons_some
            (by simp [stepOf?, hempty, hdot, hdots] :
              stepOf? stretch = some (.into (String.ofList stretch))),
          List.filterMap_cons_some
            (by simp [componentOf?, isIdle, hempty, hdot, hdots] :
              componentOf? stretch = some (.name (String.ofList stretch))),
          List.foldl_cons, List.foldl_cons, ih]
        rfl

/-- An absolute path has an empty stretch in front of its first slash. -/
lemma exists_splitAtSlashes_of_isAbsolute {p : Path} (h : p.isAbsolute) :
    ∃ second rest, splitAtSlashes p.text.toList = [] :: second :: rest := by
  rw [isAbsolute, decide_eq_true_eq, List.head?_eq_some_iff] at h
  obtain ⟨below, hb⟩ := h
  obtain ⟨second, rest, hs⟩ := List.exists_cons_of_ne_nil (splitAtSlashes_ne_nil below)
  exact ⟨second, rest, by rw [hb, splitAtSlashes, if_pos rfl, hs]⟩

lemma isAbsolute_of_splitAtSlashes {p : Path} {second : List Char} {rest : List (List Char)}
    (h : splitAtSlashes p.text.toList = [] :: second :: rest) : p.isAbsolute := by
  rw [isAbsolute, decide_eq_true_eq]
  cases ht : p.text.toList with
  | nil => rw [ht, splitAtSlashes] at h; cases h
  | cons c below =>
      by_cases hc : c = '/'
      · rw [hc]; rfl
      · rw [ht, splitAtSlashes, if_neg hc] at h
        split at h <;> cases h

end Path

namespace FileTree

variable {tree : FileTree} {p q : Path} {place : List String}

/-- **Where a path leads** is written on its components. -/
lemma foldl_start_eq_foldl_components (tree : FileTree) (p : Path) :
    p.steps.foldl (fun place step => step.apply place) (tree.start p) =
      p.components.foldl (fun place c => c.apply place) tree.here := by
  rw [Path.steps, Path.foldl_steps_eq_foldl_components, start, Path.components]
  by_cases ha : p.isAbsolute
  · obtain ⟨second, rest, hs⟩ := Path.exists_splitAtSlashes_of_isAbsolute ha
    rw [if_pos ha, Path.frontAndBody, hs]
    rfl
  · rw [if_neg ha]
    rcases hfront : p.frontAndBody with ⟨front, body⟩
    rw [Path.frontAndBody] at hfront
    split at hfront
    · next second rest hs => exact absurd (Path.isAbsolute_of_splitAtSlashes hs) ha
    · next rest hs =>
        cases hfront
        rw [hs]
        rfl
    · cases hfront
      rfl

/-- Where a path to a file leads. -/
lemma place_eq_foldl_components {content : ByteArray} (hl : tree.locate p = .ok place)
    (hf : tree.root.get? place = some (.file content)) :
    place = p.components.foldl (fun place c => c.apply place) tree.here := by
  rw [← foldl_start_eq_foldl_components]
  exact walk_eq_foldl (follow_eq_ok.mp (locate_file hl hf).2).2

/-- **Two spellings of one path** lead to one place if there is a file. -/
lemma locate_eq_of_same {content other : ByteArray} (hsame : p.Same q)
    (hp : tree.readBytes p = .ok content) (hq : tree.readBytes q = .ok other) :
    tree.locate p = tree.locate q := by
  obtain ⟨place, hl, hf⟩ := readBytes_eq_ok.mp hp
  obtain ⟨place', hl', hf'⟩ := readBytes_eq_ok.mp hq
  rw [hl, hl', place_eq_foldl_components hl hf, place_eq_foldl_components hl' hf', hsame]

end FileTree

end AddonRegistry
