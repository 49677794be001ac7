import Mathlib.Tactic.Common

/-!
# Results that may be failures

* `eq_ok_of_toOption`, `toOption_eq_some_iff`, `toOption_map` — a result that is computed is known by its
  value.
* `bind_eq_ok_iff` — what comes of one computation after another.
* `mapM_eq_ok_iff`, `mapM_eq_ok_iff_forall`, `mapM_eq_error_iff` — what a list comes to whose members are
  read one after the other.
-/

namespace AddonRegistry

variable {α β ε : Type} {f : α → Except ε β} {x : α} {y : β} {e : ε}

lemma eq_ok_of_toOption : ∀ {result : Except ε α}, result.toOption = some x → result = .ok x
  | .ok _, h => congrArg Except.ok (Option.some.inj h)

lemma toOption_eq_some_iff {result : Except ε α} : result.toOption = some x ↔ result = .ok x := by
  cases result <;> simp [Except.toOption]

lemma toOption_map (g : α → β) (result : Except ε α) :
    (result.map g).toOption = result.toOption.map g := by
  cases result <;> rfl

/-- What comes of one computation after another. -/
lemma bind_eq_ok_iff {result : Except ε α} : result >>= f = .ok y ↔ ∃ x, result = .ok x ∧ f x = .ok y := by
  cases result with
  | error e => exact ⟨nofun, nofun⟩
  | ok x => exact ⟨fun h => ⟨x, rfl, h⟩, fun ⟨_, hx, h⟩ => by cases hx; exact h⟩

lemma mapM_cons_of_error (h : f x = .error e) (rest : List α) : (x :: rest).mapM f = .error e := by
  rw [List.mapM_cons, h]
  rfl

lemma mapM_cons_of_ok (h : f x = .ok y) (rest : List α) :
    (x :: rest).mapM f = (rest.mapM f).map (y :: ·) := by
  rw [List.mapM_cons, h]
  cases rest.mapM f <;> rfl

/-- A list is read when each of its members is. -/
lemma mapM_eq_ok_iff : ∀ {l : List α} {values : List β},
    l.mapM f = .ok values ↔ l.map f = values.map .ok
  | [], values => by
      rw [List.mapM_nil, List.map_nil, eq_comm (a := []), List.map_eq_nil_iff]
      exact ⟨fun h => by cases h; rfl, fun h => by rw [h]; rfl⟩
  | x :: rest, values => by
      cases hx : f x with
      | error e =>
          rw [mapM_cons_of_error hx, List.map_cons, hx]
          refine ⟨nofun, fun h => ?_⟩
          cases values <;> cases h
      | ok y =>
          rw [mapM_cons_of_ok hx, List.map_cons, hx]
          constructor
          · intro h
            cases hr : rest.mapM f with
            | error e => rw [hr] at h; cases h
            | ok ys =>
                rw [hr] at h
                cases h
                rw [List.map_cons, mapM_eq_ok_iff.mp hr]
          · intro h
            cases values with
            | nil => cases h
            | cons v vs =>
                obtain ⟨hv, hvs⟩ := List.cons.inj h
                cases hv
                rw [mapM_eq_ok_iff.mpr hvs]
                rfl

/-- A list is read when each of its members is, and then as these are. -/
lemma mapM_eq_ok_iff_forall [Inhabited β] {l : List α} {values : List β} :
    l.mapM f = .ok values ↔
      (∀ x ∈ l, ∃ y, f x = .ok y) ∧ values = l.map fun x => (f x).toOption.getD default := by
  rw [mapM_eq_ok_iff]
  constructor
  · intro h
    have hread : ∀ x ∈ l, ∃ y, f x = .ok y := by
      intro x hx
      obtain ⟨y, -, hy⟩ := List.mem_map.mp (h ▸ List.mem_map_of_mem hx)
      exact ⟨y, hy.symm⟩
    refine ⟨hread, ?_⟩
    have hvalues := congrArg (List.map fun result => (Except.toOption result).getD default) h
    rw [List.map_map, List.map_map] at hvalues
    exact (hvalues.trans (List.map_id _)).symm
  · rintro ⟨hread, rfl⟩
    rw [List.map_map]
    refine List.map_congr_left fun x hx => ?_
    obtain ⟨y, hy⟩ := hread x hx
    rw [Function.comp_apply, hy]
    rfl

/-- What is read comes from a member of the list. -/
lemma exists_mem_of_mapM_eq_ok {l : List α} {values : List β} (h : l.mapM f = .ok values)
    (hy : y ∈ values) : ∃ x ∈ l, f x = .ok y := by
  have hmem : Except.ok y ∈ l.map f := mapM_eq_ok_iff.mp h ▸ List.mem_map_of_mem hy
  exact List.mem_map.mp hmem

/-- A list is not read when one of its members is not, and the first of these says why. -/
lemma mapM_eq_error_iff : ∀ {l : List α},
    l.mapM f = .error e ↔ ∃ before x after, l = before ++ x :: after ∧
      (∀ b ∈ before, ∃ y, f b = .ok y) ∧ f x = .error e
  | [] => by
      refine ⟨nofun, ?_⟩
      rintro ⟨_ | ⟨b, before⟩, y, after, hl, -, -⟩ <;> cases hl
  | x :: rest => by
      cases hx : f x with
      | error e' =>
          rw [mapM_cons_of_error hx]
          constructor
          · intro h
            cases h
            exact ⟨[], x, rest, rfl, nofun, hx⟩
          · rintro ⟨_ | ⟨b, before⟩, y, after, hl, hb, hy⟩
            · cases hl
              cases hx.symm.trans hy
              rfl
            · cases hl
              obtain ⟨v, hv⟩ := hb x List.mem_cons_self
              cases hx.symm.trans hv
      | ok v =>
          have hrest : (rest.mapM f).map (v :: ·) = .error e ↔ rest.mapM f = .error e := by
            cases rest.mapM f with
            | error e' => exact ⟨fun h => by cases h; rfl, fun h => by cases h; rfl⟩
            | ok ys => exact ⟨nofun, nofun⟩
          rw [mapM_cons_of_ok hx, hrest, mapM_eq_error_iff]
          constructor
          · rintro ⟨before, y, after, rfl, hb, hy⟩
            refine ⟨x :: before, y, after, rfl, fun b hm => ?_, hy⟩
            rcases List.mem_cons.mp hm with rfl | hm
            · exact ⟨v, hx⟩
            · exact hb b hm
          · rintro ⟨_ | ⟨b, before⟩, y, after, hl, hb, hy⟩
            · cases hl
              cases hx.symm.trans hy
            · cases hl
              exact ⟨before, y, after, rfl, fun b hm => hb b (List.mem_cons_of_mem _ hm), hy⟩

end AddonRegistry
