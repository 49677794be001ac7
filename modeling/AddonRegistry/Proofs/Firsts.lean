import AddonRegistry.Body
import Mathlib.Data.List.Nodup
import Mathlib.Data.List.Perm.Basic

/-!
# First occurrences

A registry keeps the first line of each wording, and a scan the first spelling of each path.  Both are
first occurrences: of a list whose members are told apart by a key.

* `firsts` — the first occurrence of each key, in order.
* `filter_firsts` — leaving out keys before or afterwards.
* **`firsts_append`** — what a second list adds to the first one; `firsts_concat_of_mem` and
  `firsts_concat_of_notMem` — what one more adds.
* `firsts_map`, `firsts_filterMap`, `firsts_congr` — in a list that comes from another one, and by another
  key.
* **`perm_map_firsts`** — in another order there are the same first occurrences, but for what the key does
  not tell.
-/

namespace AddonRegistry

variable {α β γ : Type} [DecidableEq β] {key : α → β} {l xs ys : List α} {x : α}

/-- The first occurrence of each key in a list, in order. -/
def firsts (key : α → β) : List α → List α
  | [] => []
  | x :: rest => x :: (firsts key rest).filter fun y => key y ≠ key x

lemma distinct_eq_firsts : ∀ lines : List String, distinct lines = firsts id lines
  | [] => rfl
  | line :: rest => by
      rw [distinct, firsts, distinct_eq_firsts rest]
      rfl

lemma mem_of_mem_firsts (h : x ∈ firsts key l) : x ∈ l := by
  induction l with
  | nil => exact h
  | cons first rest ih =>
      rw [firsts, List.mem_cons, List.mem_filter] at h
      rcases h with rfl | ⟨h, -⟩
      · exact List.mem_cons_self
      · exact List.mem_cons_of_mem first (ih h)

/-- Every key of a list has a first occurrence. -/
lemma exists_mem_firsts (key : α → β) (h : x ∈ l) : ∃ y ∈ firsts key l, key y = key x := by
  induction l with
  | nil => cases h
  | cons first rest ih =>
      rw [firsts]
      by_cases hkey : key x = key first
      · exact ⟨first, List.mem_cons_self, hkey.symm⟩
      · have hx : x ∈ rest := List.mem_of_ne_of_mem (fun he => hkey (by rw [he])) h
        obtain ⟨y, hy, he⟩ := ih hx
        refine ⟨y, List.mem_cons_of_mem first (List.mem_filter.mpr ⟨hy, ?_⟩), he⟩
        rw [he]
        exact decide_eq_true hkey

lemma nodup_map_firsts (key : α → β) : ∀ l, ((firsts key l).map key).Nodup
  | [] => List.nodup_nil
  | x :: rest => by
      have hsub : (((firsts key rest).filter fun y => key y ≠ key x).map key).Sublist
          ((firsts key rest).map key) := List.filter_sublist.map key
      rw [firsts, List.map_cons, List.nodup_cons]
      refine ⟨?_, (nodup_map_firsts key rest).sublist hsub⟩
      intro hm
      obtain ⟨y, hy, he⟩ := List.mem_map.mp hm
      simp [he] at hy

/-- What occurs once anyway is a first occurrence. -/
lemma firsts_of_nodup (h : (l.map key).Nodup) : firsts key l = l := by
  induction l with
  | nil => rfl
  | cons x rest ih =>
      rw [List.map_cons, List.nodup_cons] at h
      rw [firsts, ih h.2, List.filter_eq_self.mpr]
      intro y hy
      refine decide_eq_true fun he => h.1 ?_
      rw [← he]
      exact List.mem_map_of_mem hy

lemma firsts_firsts (key : α → β) (l : List α) : firsts key (firsts key l) = firsts key l :=
  firsts_of_nodup (nodup_map_firsts key l)

/-- Keys can be left out before or afterwards. -/
lemma filter_firsts {p : α → Bool} (hp : ∀ x ∈ l, ∀ y ∈ l, key x = key y → p x = p y) :
    (firsts key l).filter p = firsts key (l.filter p) := by
  induction l with
  | nil => rfl
  | cons x rest ih =>
      have hrest := ih fun y hy z hz => hp y (List.mem_cons_of_mem x hy) z (List.mem_cons_of_mem x hz)
      rw [firsts]
      cases hx : p x with
      | true =>
          rw [List.filter_cons_of_pos hx, List.filter_cons_of_pos hx, firsts, ← hrest,
            List.filter_filter, List.filter_filter]
          simp only [Bool.and_comm]
      | false =>
          have hx' : ¬ p x = true := by simp [hx]
          rw [List.filter_cons_of_neg hx', List.filter_cons_of_neg hx', ← hrest, List.filter_filter]
          refine List.filter_congr fun y hy => ?_
          -- what has the key of `x` is left out with it
          have hy' : y ∈ x :: rest := List.mem_cons_of_mem x (mem_of_mem_firsts hy)
          by_cases he : key y = key x
          · rw [hp y hy' x List.mem_cons_self he, hx, Bool.false_and]
          · simp [he]

/-- What comes to nothing can be left out. -/
lemma flatMap_filter_of_nil {g : α → List γ} {p : α → Bool} (h : ∀ x ∈ l, p x = false → g x = []) :
    (l.filter p).flatMap g = l.flatMap g := by
  induction l with
  | nil => rfl
  | cons x rest ih =>
      rw [List.forall_mem_cons] at h
      rw [List.flatMap_cons]
      cases hx : p x with
      | true => rw [List.filter_cons_of_pos hx, List.flatMap_cons, ih h.2]
      | false => rw [List.filter_cons_of_neg (by simp [hx]), ih h.2, h.1 hx, List.nil_append]

/-- **What a second list adds** are the keys that are not in the first one. -/
lemma firsts_append (key : α → β) (xs ys : List α) : firsts key (xs ++ ys) =
    firsts key xs ++ (firsts key ys).filter fun y => ∀ x ∈ xs, key y ≠ key x := by
  induction xs with
  | nil => simp [firsts]
  | cons x xs ih =>
      rw [List.cons_append, firsts, firsts, ih, List.filter_append, List.filter_filter,
        List.cons_append]
      simp only [List.forall_mem_cons, Bool.decide_and]

/-- A key that is there already adds nothing. -/
lemma firsts_concat_of_mem (h : key x ∈ xs.map key) : firsts key (xs ++ [x]) = firsts key xs := by
  obtain ⟨y, hy, he⟩ := List.mem_map.mp h
  rw [firsts_append, List.filter_eq_nil_iff.mpr, List.append_nil]
  intro z hz
  rw [List.mem_singleton.mp hz, decide_eq_true_eq]
  exact fun hall => hall y hy he.symm

/-- A new key comes last. -/
lemma firsts_concat_of_notMem (h : key x ∉ xs.map key) :
    firsts key (xs ++ [x]) = firsts key xs ++ [x] := by
  have hsingle : firsts key [x] = [x] := rfl
  rw [firsts_append, hsingle, List.filter_eq_self.mpr]
  intro z hz
  rw [List.mem_singleton.mp hz, decide_eq_true_eq]
  exact fun y hy he => h (he ▸ List.mem_map_of_mem hy)

/-- Of the first list only the first occurrences matter. -/
lemma firsts_firsts_append (key : α → β) (xs ys : List α) :
    firsts key (firsts key xs ++ ys) = firsts key (xs ++ ys) := by
  rw [firsts_append, firsts_append, firsts_firsts]
  congr 1
  refine List.filter_congr fun y _ => decide_eq_decide.mpr ⟨fun h x hx => ?_, fun h x hx => ?_⟩
  · obtain ⟨z, hz, he⟩ := exists_mem_firsts key hx
    rw [← he]
    exact h z hz
  · exact h x (mem_of_mem_firsts hx)

/-- First occurrences of what comes from another list. -/
lemma firsts_map (key : α → β) (f : γ → α) (l : List γ) :
    firsts key (l.map f) = (firsts (fun x => key (f x)) l).map f := by
  induction l with
  | nil => rfl
  | cons x rest ih =>
      rw [List.map_cons, firsts, ih, firsts, List.map_cons, List.filter_map]
      rfl

/-- First occurrences of what some members of another list come to. -/
lemma firsts_filterMap {f : γ → Option α} {other : γ → β} {l : List γ}
    (hkey : ∀ x ∈ l, ∀ y, f x = some y → key y = other x)
    (hsome : ∀ x ∈ l, ∀ y ∈ l, other x = other y → (f x).isSome = (f y).isSome) :
    firsts key (l.filterMap f) = (firsts other l).filterMap f := by
  induction l with
  | nil => rfl
  | cons x rest ih =>
      have hrest := ih (fun y hy => hkey y (List.mem_cons_of_mem x hy))
        fun y hy z hz => hsome y (List.mem_cons_of_mem x hy) z (List.mem_cons_of_mem x hz)
      have hmem : ∀ y ∈ firsts other rest, y ∈ x :: rest := fun y hy =>
        List.mem_cons_of_mem x (mem_of_mem_firsts hy)
      rw [firsts, List.filterMap_cons, List.filterMap_cons]
      cases hx : f x with
      | none =>
          -- what has the key of `x` comes to nothing either
          simp only
          rw [hrest, List.filterMap_filter]
          refine List.filterMap_congr fun y hy => ?_
          by_cases hother : other y = other x
          · have hnone := hsome y (hmem y hy) x List.mem_cons_self hother
            rw [hx, Option.isSome_none, Option.isSome_eq_false_iff, Option.isNone_iff_eq_none] at hnone
            simp [hnone]
          · simp [hother]
      | some value =>
          have hvalue : key value = other x := hkey x List.mem_cons_self value hx
          simp only
          rw [firsts, hrest, List.filter_filterMap, List.filterMap_filter]
          congr 1
          refine List.filterMap_congr fun y hy => ?_
          cases hy' : f y with
          | none => simp
          | some found =>
              have hfound : key found = other y := hkey y (hmem y hy) found hy'
              simp [Option.filter, hvalue, hfound]

/-- Two keys that tell the same apart have the same first occurrences. -/
lemma firsts_congr [DecidableEq γ] {key : α → β} {other : α → γ}
    (h : ∀ x ∈ l, ∀ y ∈ l, key x = key y ↔ other x = other y) : firsts key l = firsts other l := by
  induction l with
  | nil => rfl
  | cons x rest ih =>
      rw [firsts, firsts,
        ih fun y hy z hz => h y (List.mem_cons_of_mem x hy) z (List.mem_cons_of_mem x hz)]
      congr 1
      refine List.filter_congr fun y hy => decide_eq_decide.mpr (not_congr ?_)
      exact h y (List.mem_cons_of_mem x (mem_of_mem_firsts hy)) x List.mem_cons_self

/-- In another order the same keys come with the same values. -/
lemma perm_map_pair_firsts {g : α → γ} (h : xs.Perm ys) :
    (∀ x ∈ xs, ∀ y ∈ xs, key x = key y → g x = g y) →
      ((firsts key xs).map fun x => (key x, g x)).Perm ((firsts key ys).map fun x => (key x, g x)) := by
  -- leaving out a key can be told from the pair
  have hfilter (k : β) (l : List α) :
      (l.filter fun y => key y ≠ k).map (fun x => (key x, g x)) =
        (l.map fun x => (key x, g x)).filter fun pair => pair.1 ≠ k := by
    rw [List.filter_map]
    rfl
  induction h with
  | nil => exact fun _ => .refl _
  | cons x _ ih =>
      intro hg
      have hrest := ih fun y hy z hz => hg y (List.mem_cons_of_mem x hy) z (List.mem_cons_of_mem x hz)
      rw [firsts, firsts, List.map_cons, List.map_cons, hfilter, hfilter]
      exact (hrest.filter _).cons _
  | swap x y l =>
      intro hg
      simp only [firsts, List.map_cons, hfilter]
      by_cases hkey : key x = key y
      · have hvalue : g x = g y := hg x (by simp) y (by simp) hkey
        simp [hkey, hvalue]
      · simp only [ne_eq, hkey, Ne.symm hkey, not_false_eq_true, decide_true, List.filter_cons_of_pos,
          List.filter_filter, Bool.and_comm]
        exact .swap _ _ _
  | trans hfirst _ ihfirst ihsecond =>
      intro hg
      refine (ihfirst hg).trans (ihsecond fun x hx y hy => ?_)
      exact hg x (hfirst.mem_iff.mpr hx) y (hfirst.mem_iff.mpr hy)

/-- **In another order** there are the same first occurrences, but for what the key does not tell. -/
lemma perm_map_firsts {g : α → γ} (h : xs.Perm ys)
    (hg : ∀ x ∈ xs, ∀ y ∈ xs, key x = key y → g x = g y) :
    ((firsts key xs).map g).Perm ((firsts key ys).map g) := by
  have hpair := (perm_map_pair_firsts h hg).map Prod.snd
  rwa [List.map_map, List.map_map] at hpair

end AddonRegistry
