import AddonRegistry.Proofs.Except
import AddonRegistry.Proofs.Extraction.Interfaces

/-!
# The two walks, and the list they stand for

The walks that read the registries of a module carry what they have gathered from one phrase to the
next and stop at the first thing that is wrong.  Here they are folds over a list: each goes over the
phrases as if it took one interface after the other from the list of all interfaces, but only those
that the walk gets to.

* `Gathering.take`, `Gathering.result_foldl_take` — interfaces taken one after the other come to what
  their elements come to together.
* `openBodies` — the registries that the walks get to: those that no interface covers.
* `gather_eq_foldl` — the walk below a declaration of the registry module.
* `seek_eq_foldl` — the walk that looks for these declarations.
* **`membersOfItems_eq_readingOf`** — a module is read off its registries that no interface covers.
-/

namespace AddonRegistry

open TypeScript

/-! ## Taking one interface after the other -/

namespace Gathering

/-- Adds the members of a registry interface, unless something was wrong before. -/
def take (gathered : Gathering) (body : List Element) : Gathering :=
  if gathered.error.isSome then gathered else gathered.add body

lemma foldl_take_of_error {gathered : Gathering} (h : gathered.error.isSome) :
    ∀ bodies : List (List Element), bodies.foldl take gathered = gathered
  | [] => rfl
  | body :: rest => by
      rw [List.foldl_cons, take, if_pos h]
      exact foldl_take_of_error h rest

/-- **Interfaces taken one after the other** come to what their elements come to together. -/
lemma result_foldl_take :
    ∀ (bodies : List (List Element)) (members : List Member),
      (bodies.foldl take ⟨members, none⟩).result =
        (bodies.flatten.mapM memberOfElement).map (members ++ ·)
  | [], members => by
      rw [List.foldl_nil, List.flatten_nil, List.mapM_nil]
      exact congrArg Except.ok (List.append_nil members).symm
  | body :: rest, members => by
      have hstep : take ⟨members, none⟩ body = add ⟨members, none⟩ body := rfl
      rw [List.foldl_cons, List.flatten_cons, List.mapM_append, hstep, add]
      cases hb : body.mapM memberOfElement with
      | error error =>
          rw [foldl_take_of_error rfl]
          rfl
      | ok more =>
          rw [result_foldl_take rest (members ++ more)]
          cases rest.flatten.mapM memberOfElement with
          | error error => rfl
          | ok others => exact congrArg Except.ok (List.append_assoc members more others)

end Gathering

/-! ## The registries that are got to -/

/-- The bodies of the registries that no interface covers. -/
def openBodies (interfaces : List Occurrence) : List (List Element) :=
  (interfaces.filter fun o => o.isRegistry && !o.isCovered).map Occurrence.body

lemma openBodies_append (first second : List Occurrence) :
    openBodies (first ++ second) = openBodies first ++ openBodies second := by
  rw [openBodies, List.filter_append, List.map_append]
  rfl

lemma openBodies_eq_nil {interfaces : List Occurrence}
    (h : ∀ o ∈ interfaces, o.isRegistry → o.isCovered) : openBodies interfaces = [] := by
  rw [openBodies, List.map_eq_nil_iff, List.filter_eq_nil_iff]
  intro o ho hopen
  rw [Bool.and_eq_true, Bool.not_eq_true'] at hopen
  rw [h o ho hopen.1] at hopen
  cases hopen.2

/-- Nothing is got to in an interface below a module declaration. -/
lemma openBodies_eq_nil_of_interface {around : List Enclosure} {name : ModuleName}
    (ha : outermostModule? around = some name) {interfaces : List Occurrence}
    (h : ∀ o ∈ interfaces, ∃ inner, o.around = around ++ [.interface] ++ inner) :
    openBodies interfaces = [] := by
  refine openBodies_eq_nil fun o ho _ => ?_
  obtain ⟨inner, hi⟩ := h o ho
  rw [Occurrence.isCovered, hi, List.append_assoc, hasInterfaceInModule_append_of_some ha]
  simp

/-- Nothing is got to in the declaration of another module. -/
lemma openBodies_eq_nil_of_module {around : List Enclosure} {name : ModuleName}
    (ha : outermostModule? around = none) (hn : name ≠ .specifier (some registryModule))
    {interfaces : List Occurrence}
    (h : ∀ o ∈ interfaces, ∃ inner, o.around = around ++ [.module name] ++ inner) :
    openBodies interfaces = [] := by
  refine openBodies_eq_nil fun o ho hr => ?_
  obtain ⟨inner, hi⟩ := h o ho
  rw [Occurrence.isRegistry, hi, outermostModule?_append, outermostModule?_append, ha] at hr
  simp [outermostModule?, hn] at hr

/-! ## The walk below a declaration of the registry module -/

/-- That a walk is below a declaration of the registry module and in no interface there. -/
structure BelowRegistry (around : List Enclosure) : Prop where
  outermost : outermostModule? around = some (.specifier (some registryModule))
  uncovered : hasInterfaceInModule around = false

lemma BelowRegistry.of_module {around : List Enclosure} (h : BelowRegistry around)
    (name : ModuleName) : BelowRegistry (around ++ [.module name]) where
  outermost := by rw [outermostModule?_append, h.outermost]; rfl
  uncovered := by rw [hasInterfaceInModule_append_of_some h.outermost, h.uncovered]; rfl

/-- An interface below a declaration of the registry module is got to if it has the right name. -/
lemma BelowRegistry.openBodies_singleton {around : List Enclosure} (h : BelowRegistry around)
    (name : String) (body : List Element) :
    openBodies [⟨around, name, body⟩] = if name = registryInterface then [body] else [] := by
  by_cases hn : name = registryInterface
  · simp [openBodies, Occurrence.isRegistry, Occurrence.isCovered, h.outermost, h.uncovered, hn]
  · simp [openBodies, Occurrence.isRegistry, hn]

mutual

lemma gather_eq_foldl :
    ∀ (phrase : Phrase) {around : List Enclosure}, BelowRegistry around → ∀ gathered : Gathering,
      phrase.gather gathered = (openBodies (phrase.interfaces around)).foldl .take gathered
  | .node _ _ parts, _, h, gathered => gatherFromPhrases_eq_foldl parts h gathered
  | .module _ name body, _, h, gathered =>
      gatherFromPhrases_eq_foldl body (h.of_module name) gathered
  | .interface line name heritage body, around, h, gathered => by
      have hinner : openBodies (interfacesInPhrases (around ++ [.interface]) heritage ++
          interfacesInElements (around ++ [.interface]) body) = [] := by
        refine openBodies_eq_nil_of_interface h.outermost fun o ho => ?_
        rcases List.mem_append.mp ho with ho | ho
        · exact exists_around_of_mem_interfacesInPhrases ho
        · exact exists_around_of_mem_interfacesInElements ho
      rw [Phrase.interfaces, ← List.singleton_append, openBodies_append, hinner, List.append_nil,
        h.openBodies_singleton, Phrase.gather]
      by_cases hn : name = registryInterface
      · simp [hn, Gathering.take]
      · simp [hn]
  | .objectType _ body, _, h, gathered => gatherFromElements_eq_foldl body h gathered

lemma gatherFromPhrases_eq_foldl :
    ∀ (phrases : List Phrase) {around : List Enclosure}, BelowRegistry around →
      ∀ gathered : Gathering, gatherFromPhrases phrases gathered =
        (openBodies (interfacesInPhrases around phrases)).foldl .take gathered
  | [], _, _, _ => rfl
  | phrase :: rest, _, h, gathered => by
      rw [gatherFromPhrases, interfacesInPhrases, openBodies_append, List.foldl_append,
        gather_eq_foldl phrase h, gatherFromPhrases_eq_foldl rest h]

lemma elementGather_eq_foldl :
    ∀ (element : Element) {around : List Enclosure}, BelowRegistry around →
      ∀ gathered : Gathering,
        element.gather gathered = (openBodies (element.interfaces around)).foldl .take gathered
  | .property _ _ key none, _, h, gathered => gather_eq_foldl key h gathered
  | .property _ _ key (some type), _, h, gathered => by
      rw [Element.gather, Element.interfaces, openBodies_append, List.foldl_append,
        gather_eq_foldl key h, gather_eq_foldl type h]
  | .signature _ _ parts, _, h, gathered => gatherFromPhrases_eq_foldl parts h gathered

lemma gatherFromElements_eq_foldl :
    ∀ (elements : List Element) {around : List Enclosure}, BelowRegistry around →
      ∀ gathered : Gathering, gatherFromElements elements gathered =
        (openBodies (interfacesInElements around elements)).foldl .take gathered
  | [], _, _, _ => rfl
  | element :: rest, _, h, gathered => by
      rw [gatherFromElements, interfacesInElements, openBodies_append, List.foldl_append,
        elementGather_eq_foldl element h, gatherFromElements_eq_foldl rest h]

end

/-! ## The walk that looks for these declarations -/

mutual

lemma seek_eq_foldl :
    ∀ (phrase : Phrase) {around : List Enclosure}, outermostModule? around = none →
      ∀ gathered : Gathering,
        phrase.seek gathered = (openBodies (phrase.interfaces around)).foldl .take gathered
  | .node _ _ parts, _, h, gathered => seekInPhrases_eq_foldl parts h gathered
  | .module _ name body, around, h, gathered => by
      rw [Phrase.seek, Phrase.interfaces]
      by_cases he : gathered.error.isSome
      · rw [Gathering.foldl_take_of_error he, if_pos (by simp [he])]
      · by_cases hn : name = .specifier (some registryModule)
        · have hbelow : BelowRegistry (around ++ [.module name]) := by
            refine ⟨by simp [h, hn, outermostModule?], ?_⟩
            rw [hasInterfaceInModule_append_of_none h]
            rfl
          rw [if_neg (by simp [he, hn]), gatherFromPhrases_eq_foldl body hbelow]
        · rw [if_pos (by simp [hn]), openBodies_eq_nil_of_module h hn fun o ho =>
            exists_around_of_mem_interfacesInPhrases ho]
          rfl
  | .interface line name heritage body, around, h, gathered => by
      have hinner : outermostModule? (around ++ [.interface]) = none := by
        rw [outermostModule?_append, h]
        rfl
      have hself : openBodies [⟨around, name, body⟩] = [] := by
        simp [openBodies, Occurrence.isRegistry, h]
      rw [Phrase.seek, Phrase.interfaces, ← List.singleton_append, openBodies_append, hself,
        List.nil_append, openBodies_append, List.foldl_append, seekInPhrases_eq_foldl heritage hinner,
        seekInElements_eq_foldl body hinner]
  | .objectType _ body, _, h, gathered => seekInElements_eq_foldl body h gathered

lemma seekInPhrases_eq_foldl :
    ∀ (phrases : List Phrase) {around : List Enclosure}, outermostModule? around = none →
      ∀ gathered : Gathering, seekInPhrases phrases gathered =
        (openBodies (interfacesInPhrases around phrases)).foldl .take gathered
  | [], _, _, _ => rfl
  | phrase :: rest, _, h, gathered => by
      rw [seekInPhrases, interfacesInPhrases, openBodies_append, List.foldl_append,
        seek_eq_foldl phrase h, seekInPhrases_eq_foldl rest h]

lemma elementSeek_eq_foldl :
    ∀ (element : Element) {around : List Enclosure}, outermostModule? around = none →
      ∀ gathered : Gathering,
        element.seek gathered = (openBodies (element.interfaces around)).foldl .take gathered
  | .property _ _ key none, _, h, gathered => seek_eq_foldl key h gathered
  | .property _ _ key (some type), _, h, gathered => by
      rw [Element.seek, Element.interfaces, openBodies_append, List.foldl_append,
        seek_eq_foldl key h, seek_eq_foldl type h]
  | .signature _ _ parts, _, h, gathered => seekInPhrases_eq_foldl parts h gathered

lemma seekInElements_eq_foldl :
    ∀ (elements : List Element) {around : List Enclosure}, outermostModule? around = none →
      ∀ gathered : Gathering, seekInElements elements gathered =
        (openBodies (interfacesInElements around elements)).foldl .take gathered
  | [], _, _, _ => rfl
  | element :: rest, _, h, gathered => by
      rw [seekInElements, interfacesInElements, openBodies_append, List.foldl_append,
        elementSeek_eq_foldl element h, seekInElements_eq_foldl rest h]

end

/-- **A module is read off** its registries that no interface covers. -/
lemma membersOfItems_eq_readingOf (items : List Phrase) :
    membersOfItems items = readingOf (uncoveredRegistriesOf items) := by
  have hwalk := seekInPhrases_eq_foldl items (rfl : outermostModule? [] = none) {}
  have hbodies : (openBodies (interfacesInPhrases [] items)).flatten =
      (uncoveredRegistriesOf items).flatMap Occurrence.body := by
    rw [uncoveredRegistriesOf, registriesOf, List.filter_filter, openBodies, List.flatMap_def]
    simp only [Bool.and_comm]
  rw [membersOfItems, hwalk, Gathering.result_foldl_take, hbodies, readingOf]
  cases ((uncoveredRegistriesOf items).flatMap Occurrence.body).mapM memberOfElement <;> rfl

end AddonRegistry
