import AddonRegistry.Proofs.Extraction.Walks
import Mathlib.Data.List.Flatten

/-!
# What is read off a module

Registries are looked for anywhere below a declaration of the registry module, but the walk below it
does not go into an interface, whatever its name.  An interface can have others in it — the key of a
property may be any expression in brackets, and there may be a function in it — so a registry that
another interface covers is not read.

* **`uncovered_registries_are_read`** — a module is read off its registries that no interface covers,
  and how this compares to what all of its registries come to.
* `covered_registry_is_missed` — a registry that is not read.
-/

namespace AddonRegistry

open TypeScript

/-! ## Lists of elements -/

/-- That an element has the accepted form. -/
def Accepted (element : Element) : Prop :=
  ∃ member, memberOfElement element = .ok member

/-- That elements are all accepted, and which members they declare. -/
def ReadAs (elements : List Element) (members : List Member) : Prop :=
  elements.map memberOfElement = members.map .ok

/-- That elements are not all accepted, and what the first one says that is not. -/
def RejectedWith (elements : List Element) (error : ExtractionError) : Prop :=
  ∃ before element after, elements = before ++ element :: after ∧
    (∀ other ∈ before, Accepted other) ∧ memberOfElement element = .error error

lemma readingOf_eq_ok_iff {registries : List Occurrence} {members : List Member} :
    readingOf registries = .ok members ↔ ReadAs (registries.flatMap Occurrence.body) members :=
  mapM_eq_ok_iff

lemma readingOf_eq_error_iff {registries : List Occurrence} {error : ExtractionError} :
    readingOf registries = .error error ↔ RejectedWith (registries.flatMap Occurrence.body) error :=
  mapM_eq_error_iff

/-- There are as many members as elements. -/
lemma ReadAs.length_eq {elements : List Element} {members : List Member} (h : ReadAs elements members) :
    elements.length = members.length := by
  have hl := congrArg List.length h
  rwa [List.length_map, List.length_map] at hl

/-- A list with a rejected element in it is rejected for the first of these. -/
lemma readingOf_append_cons {before after : List Occurrence} {o : Occurrence} {error : ExtractionError}
    (hbefore : ∀ b ∈ before, ∀ element ∈ b.body, Accepted element)
    (ho : RejectedWith o.body error) : readingOf (before ++ o :: after) = .error error := by
  obtain ⟨accepted, element, rest, hbody, haccepted, he⟩ := ho
  refine readingOf_eq_error_iff.mpr ⟨before.flatMap Occurrence.body ++ accepted, element,
    rest ++ after.flatMap Occurrence.body, ?_, fun other hm => ?_, he⟩
  · rw [List.flatMap_append, List.flatMap_cons, hbody]
    simp only [List.append_assoc, List.cons_append]
  · rcases List.mem_append.mp hm with hm | hm
    · obtain ⟨b, hb, hm⟩ := List.mem_flatMap.mp hm
      exact hbefore b hb other hm
    · exact haccepted other hm

/-- One of the registries is the first that is rejected, unless all are accepted. -/
lemma exists_first_rejected : ∀ registries : List Occurrence,
    (∀ o ∈ registries, ∀ element ∈ o.body, Accepted element) ∨
      ∃ before o after error, registries = before ++ o :: after ∧
        (∀ b ∈ before, ∀ element ∈ b.body, Accepted element) ∧ RejectedWith o.body error
  | [] => .inl nofun
  | o :: rest => by
      cases ho : o.body.mapM memberOfElement with
      | error error => exact .inr ⟨[], o, rest, error, rfl, nofun, mapM_eq_error_iff.mp ho⟩
      | ok members =>
          have hself : ∀ element ∈ o.body, Accepted element := by
            intro element hm
            have hmap := List.mem_map_of_mem (f := memberOfElement) hm
            rw [mapM_eq_ok_iff.mp ho] at hmap
            obtain ⟨member, -, he⟩ := List.mem_map.mp hmap
            exact ⟨member, he.symm⟩
          rcases exists_first_rejected rest with hrest | ⟨before, r, after, error, rfl, hb, hr⟩
          · refine .inl fun b hb => ?_
            rcases List.mem_cons.mp hb with rfl | hb
            · exact hself
            · exact hrest b hb
          · refine .inr ⟨o :: before, r, after, error, rfl, fun b hm => ?_, hr⟩
            rcases List.mem_cons.mp hm with rfl | hm
            · exact hself
            · exact hb b hm

/-! ## Leaving registries out -/

/-- Registries without elements can be left out. -/
lemma flatMap_body_filter {keep : Occurrence → Bool} : ∀ {registries : List Occurrence},
    (∀ o ∈ registries, keep o = false → o.body = []) →
      (registries.filter keep).flatMap Occurrence.body = registries.flatMap Occurrence.body
  | [], _ => rfl
  | o :: rest, h => by
      have ih := flatMap_body_filter fun r hr => h r (List.mem_cons_of_mem _ hr)
      cases hk : keep o with
      | true => rw [List.filter_cons_of_pos hk, List.flatMap_cons, List.flatMap_cons, ih]
      | false =>
          rw [List.filter_cons_of_neg (by rw [hk]; exact Bool.false_ne_true), List.flatMap_cons, ih,
            h o List.mem_cons_self hk]
          rfl

/-- Others cannot. -/
lemma body_eq_nil_of_length_filter {keep : Occurrence → Bool} {registries : List Occurrence}
    (h : ((registries.filter keep).flatMap Occurrence.body).length =
      (registries.flatMap Occurrence.body).length) :
    ∀ o ∈ registries, keep o = false → o.body = [] := by
  intro o ho hk
  obtain ⟨before, after, rfl⟩ := List.append_of_mem ho
  have hle (others : List Occurrence) : ((others.filter keep).flatMap Occurrence.body).length ≤
      (others.flatMap Occurrence.body).length :=
    (List.filter_sublist.flatMap Occurrence.body).length_le
  have hb := hle before
  have ha := hle after
  rw [List.filter_append, List.filter_cons_of_neg (by rw [hk]; exact Bool.false_ne_true),
    List.flatMap_append, List.flatMap_append, List.flatMap_cons, List.length_append,
    List.length_append, List.length_append] at h
  exact List.length_eq_zero_iff.mp (by omega)

/-- **What is read off a module.**  It is read off the registries that no interface covers, in
pre-order: if all of their elements are accepted the members are those of the elements, and else the
error is that of the first element that is not.  Nothing else in the module matters.

This is what all of the registries come to if those that are covered have no elements, and if a module
has members, only then.  If it has none, the first registry that is rejected gives the error, unless
it is covered. -/
theorem uncovered_registries_are_read (items : List Phrase) :
    (∀ members, membersOfItems items = .ok members ↔
      ReadAs ((uncoveredRegistriesOf items).flatMap Occurrence.body) members) ∧
    (∀ error, membersOfItems items = .error error ↔
      RejectedWith ((uncoveredRegistriesOf items).flatMap Occurrence.body) error) ∧
    (∀ others, (uncoveredRegistriesOf others).map Occurrence.body =
        (uncoveredRegistriesOf items).map Occurrence.body →
      membersOfItems others = membersOfItems items) ∧
    ((∀ o ∈ registriesOf items, o.isCovered → o.body = []) →
      membersOfItems items = readingOf (registriesOf items)) ∧
    (∀ members, membersOfItems items = .ok members →
      (readingOf (registriesOf items) = .ok members ↔
        ∀ o ∈ registriesOf items, o.isCovered → o.body = [])) ∧
    (∀ error, membersOfItems items = .error error →
      ∃ before o after first, registriesOf items = before ++ o :: after ∧
        (∀ b ∈ before, ∀ element ∈ b.body, Accepted element) ∧ RejectedWith o.body first ∧
        readingOf (registriesOf items) = .error first ∧ (¬ o.isCovered → first = error)) := by
  have hcovered {o : Occurrence} : (!o.isCovered) = false ↔ o.isCovered := by
    rw [Bool.not_eq_false']
  have hagree (h : ∀ o ∈ registriesOf items, o.isCovered → o.body = []) :
      membersOfItems items = readingOf (registriesOf items) := by
    rw [membersOfItems_eq_readingOf, readingOf, readingOf, uncoveredRegistriesOf,
      flatMap_body_filter fun o ho hk => h o ho (hcovered.mp hk)]
  refine ⟨fun members => ?_, fun error => ?_, fun others hsame => ?_, hagree, fun members hm => ?_,
    fun error he => ?_⟩
  · rw [membersOfItems_eq_readingOf, readingOf_eq_ok_iff]
  · rw [membersOfItems_eq_readingOf, readingOf_eq_error_iff]
  · rw [membersOfItems_eq_readingOf, membersOfItems_eq_readingOf, readingOf, readingOf,
      List.flatMap_def, List.flatMap_def, hsame]
  · refine ⟨fun hall => ?_, fun h => by rw [← hagree h, hm]⟩
    rw [membersOfItems_eq_readingOf, readingOf_eq_ok_iff] at hm
    rw [readingOf_eq_ok_iff] at hall
    have hempty := body_eq_nil_of_length_filter (hm.length_eq.trans hall.length_eq.symm)
    exact fun o ho hc => hempty o ho (hcovered.mpr hc)
  · rw [membersOfItems_eq_readingOf, uncoveredRegistriesOf] at he
    rcases exists_first_rejected (registriesOf items) with
      hall | ⟨before, o, after, first, hr, hb, ho⟩
    · obtain ⟨accepted, element, rest, hl, -, hx⟩ := readingOf_eq_error_iff.mp he
      have hm : element ∈ ((registriesOf items).filter (!·.isCovered)).flatMap Occurrence.body :=
        hl ▸ List.mem_append_right _ List.mem_cons_self
      obtain ⟨r, hr, hm⟩ := List.mem_flatMap.mp hm
      obtain ⟨member, hok⟩ := hall r (List.mem_filter.mp hr).1 element hm
      cases hok.symm.trans hx
    · refine ⟨before, o, after, first, hr, hb, ho, hr ▸ readingOf_append_cons hb ho, fun hc => ?_⟩
      rw [hr, List.filter_append, List.filter_cons_of_pos (by rwa [Bool.not_eq_true', ← Bool.not_eq_true]),
        readingOf_append_cons (fun b hm => hb b (List.mem_filter.mp hm).1) ho] at he
      cases he
      rfl

/-- A registry in a function that is in the key of a property. -/
def coveredRegistry : String :=
  "declare module '@glint/environment-ember-loose/registry' \x7b\n" ++
  "  interface Foo \x7b [function () \x7b interface Registry \x7b 'a': typeof A \x7d \x7d]: string \x7d\n" ++
  "\x7d\n"

/-- A registry below a declaration of the registry module that is not read, since another interface
covers it. -/
theorem covered_registry_is_missed :
    ∃ items, parse coveredRegistry.toList false = .ok items ∧
      membersOfItems items = .ok [] ∧ readingOf (registriesOf items) = .ok [⟨"a", "A"⟩] := by
  have hread : (parse coveredRegistry.toList false).toOption.map (fun items =>
      ((membersOfItems items).toOption, (readingOf (registriesOf items)).toOption)) =
      some (some [], some [⟨"a", "A"⟩]) := by
    decide +kernel
  obtain ⟨items, hitems, hboth⟩ := Option.map_eq_some_iff.mp hread
  obtain ⟨hmembers, hreading⟩ := Prod.mk.inj hboth
  exact ⟨items, eq_ok_of_toOption hitems, eq_ok_of_toOption hmembers, eq_ok_of_toOption hreading⟩

end AddonRegistry
