import AddonRegistry.Proofs.FileTree.Entries

/-!
# Paths that turn back

Where a path leads is written on its steps, whether or not anything is there.  The files only decide
whether one gets there: a path through a missing folder leads nowhere, until the folder is made, and from
then on to the place that was written on it all the time.  Below a missing folder there is nothing.  But a
path can turn back from there with a pair of dots, and then the place can be one where something is.

* `target` — the place that is written on a path.
* `turnsBack` — whether a path goes up from where nothing is.
* `stored?_foldl_of_none`, `stored?_foldl_of_notFound` — steps that do not turn back lead from nothing to
  nothing.
* **`stored?_target_of_notFound`** — the same for a path.
-/

namespace AddonRegistry.FileTree

variable {tree after : FileTree} {p : Path} {place : List String} {step : Step} {steps : List Step}

/-- The place that is written on a path, whether or not anything is there. -/
def target (tree : FileTree) (p : Path) : List String :=
  p.allSteps.foldl (fun place step => step.apply place) (tree.start p)

/-- Whether steps go up from where nothing is. -/
def turnsBackFrom (tree : FileTree) : List String → List Step → Bool
  | _, [] => false
  | place, step :: rest =>
      (step = .up && (tree.stored? place).isNone) || tree.turnsBackFrom (step.apply place) rest

/-- Whether a path goes up from where nothing is. -/
def turnsBack (tree : FileTree) (p : Path) : Bool := tree.turnsBackFrom (tree.start p) p.allSteps

lemma target_of_locate (h : tree.locate p = .ok place) : tree.target p = place :=
  (walk_eq_foldl (follow_eq_ok.mp h).2).symm

lemma target_of_here (h : after.here = tree.here) (p : Path) : after.target p = tree.target p := by
  rw [target, target, start, start, h]

lemma turnsBackFrom_cons : tree.turnsBackFrom place (step :: steps) = false ↔
    (step = .up → (tree.stored? place).isSome) ∧ tree.turnsBackFrom (step.apply place) steps = false := by
  rw [turnsBackFrom]
  cases tree.stored? place <;> simp

/-- There is nothing below a place where nothing is. -/
lemma stored?_concat_of_none (h : tree.stored? place = none) (name : String) :
    tree.stored? (place ++ [name]) = none := by
  rw [stored?_eq_none] at h ⊢
  rw [Node.get?_append, h]
  rfl

/-- Steps that do not turn back lead from nothing to nothing. -/
lemma stored?_foldl_of_none : ∀ {steps : List Step} {place : List String}, tree.stored? place = none →
    tree.turnsBackFrom place steps = false →
      tree.stored? (steps.foldl (fun place step => step.apply place) place) = none
  | [], _, h, _ => h
  | step :: steps, place, h, hturn => by
      obtain ⟨hup, hrest⟩ := turnsBackFrom_cons.mp hturn
      rw [List.foldl_cons]
      refine stored?_foldl_of_none ?_ hrest
      cases step with
      | stay => exact h
      | up =>
          rw [h] at hup
          cases hup rfl
      | into name => exact stored?_concat_of_none h name

/-- Steps that miss something and do not turn back lead to nothing. -/
lemma stored?_foldl_of_notFound : ∀ {steps : List Step} {place : List String},
    tree.walk place steps = .error .notFound → tree.turnsBackFrom place steps = false →
      tree.stored? (steps.foldl (fun place step => step.apply place) place) = none
  | [], place, hw, _ => by simp at hw
  | step :: steps, place, hw, hturn => by
      rcases walk_cons_eq_error.mp hw with ⟨hnone, -⟩ | ⟨-, hf⟩ | ⟨-, -, hf⟩ | ⟨-, -, hrest⟩
      · exact stored?_foldl_of_none hnone hturn
      · cases hf
      · cases hf
      · rw [List.foldl_cons]
        exact stored?_foldl_of_notFound hrest (turnsBackFrom_cons.mp hturn).2

/-- **A path that is not found and does not turn back** has a place written on it where nothing is. -/
theorem stored?_target_of_notFound (hne : p.text ≠ "") (h : tree.find p = .error .notFound)
    (hturn : tree.turnsBack p = false) : tree.stored? (tree.target p) = none := by
  rcases find_eq_error.mp h with hlocate | ⟨-, place, hlocate, hnone⟩
  · rcases follow_eq_error.mp hlocate with hspelling | ⟨-, hw⟩
    · -- the only path that is not found for its spelling is the empty one
      rw [spellingFault?] at hspelling
      split_ifs at hspelling with hnul hempty hlong <;> cases hspelling
      exact absurd (by simpa using hempty) hne
    · exact stored?_foldl_of_notFound hw hturn
  · rw [target_of_locate hlocate]
    exact hnone

end AddonRegistry.FileTree
