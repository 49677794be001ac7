import AddonRegistry.Extraction
import Mathlib.Tactic.Common

/-!
# The interfaces of a module, one after the other

A walk over a tree has rules on where not to go.  Against it stands a list that has no such rules: all
interface declarations of a module, in pre-order, each with what stands around it.

* `Phrase.interfaces` — the interfaces in a phrase, in pre-order.
* `Occurrence.isRegistry` — whether an interface is a registry: it is called `Registry`, and the
  outermost module declaration around it is that of the registry module.
* `Occurrence.isCovered` — whether another interface stands between it and that declaration.
* `exists_around_of_mem_interfaces` — what is around a phrase is around everything in it.
-/

namespace AddonRegistry

open TypeScript

/-! ## What stands around an interface -/

/-- A declaration that has others in it. -/
inductive Enclosure where
  | module (name : ModuleName)
  | interface
  deriving DecidableEq, Repr

/-- The name of the outermost module declaration. -/
def outermostModule? : List Enclosure → Option ModuleName
  | [] => none
  | .module name :: _ => some name
  | .interface :: inner => outermostModule? inner

/-- Whether there is an interface inside of the outermost module declaration. -/
def hasInterfaceInModule : List Enclosure → Bool
  | [] => false
  | .module _ :: inner => inner.contains .interface
  | .interface :: inner => hasInterfaceInModule inner

@[simp]
lemma outermostModule?_append (outer inner : List Enclosure) :
    outermostModule? (outer ++ inner) = (outermostModule? outer).or (outermostModule? inner) := by
  induction outer with
  | nil => rfl
  | cons enclosure rest ih => cases enclosure <;> simp [outermostModule?, ih]

lemma hasInterfaceInModule_append_of_none {outer : List Enclosure}
    (h : outermostModule? outer = none) (inner : List Enclosure) :
    hasInterfaceInModule (outer ++ inner) = hasInterfaceInModule inner := by
  induction outer with
  | nil => rfl
  | cons enclosure rest ih =>
      cases enclosure with
      | module name => cases h
      | interface => exact ih h

lemma hasInterfaceInModule_append_of_some {outer : List Enclosure} {name : ModuleName}
    (h : outermostModule? outer = some name) (inner : List Enclosure) :
    hasInterfaceInModule (outer ++ inner) =
      (hasInterfaceInModule outer || inner.contains .interface) := by
  induction outer with
  | nil => cases h
  | cons enclosure rest ih =>
      cases enclosure with
      | module first => simp [hasInterfaceInModule]
      | interface => exact ih h

/-! ## The list -/

/-- An interface declaration where it stands. -/
structure Occurrence where
  /-- The modules and interfaces that it is in, from the outside in. -/
  around : List Enclosure
  name : String
  body : List Element

namespace Occurrence

/-- Whether an interface is a registry. -/
def isRegistry (o : Occurrence) : Bool :=
  o.name = registryInterface && outermostModule? o.around = some (.specifier (some registryModule))

/-- Whether an interface is inside of another one, below the outermost module. -/
def isCovered (o : Occurrence) : Bool :=
  hasInterfaceInModule o.around

end Occurrence

namespace TypeScript

mutual

/-- The interfaces in a phrase, in pre-order. -/
def Phrase.interfaces (around : List Enclosure) : Phrase → List Occurrence
  | .node _ _ parts => interfacesInPhrases around parts
  | .module _ name body => interfacesInPhrases (around ++ [.module name]) body
  | .interface _ name heritage body =>
      ⟨around, name, body⟩ :: (interfacesInPhrases (around ++ [.interface]) heritage ++
        interfacesInElements (around ++ [.interface]) body)
  | .objectType _ body => interfacesInElements around body

/-- The interfaces in a list of phrases. -/
def interfacesInPhrases (around : List Enclosure) : List Phrase → List Occurrence
  | [] => []
  | phrase :: rest => phrase.interfaces around ++ interfacesInPhrases around rest

/-- The interfaces in an element. -/
def Element.interfaces (around : List Enclosure) : Element → List Occurrence
  | .property _ _ key none => key.interfaces around
  | .property _ _ key (some type) => key.interfaces around ++ type.interfaces around
  | .signature _ _ parts => interfacesInPhrases around parts

/-- The interfaces in a list of elements. -/
def interfacesInElements (around : List Enclosure) : List Element → List Occurrence
  | [] => []
  | element :: rest => element.interfaces around ++ interfacesInElements around rest

end

end TypeScript

/-- The registries of a module, in pre-order. -/
def registriesOf (items : List Phrase) : List Occurrence :=
  (interfacesInPhrases [] items).filter Occurrence.isRegistry

/-- The registries of a module that no interface covers, in pre-order. -/
def uncoveredRegistriesOf (items : List Phrase) : List Occurrence :=
  (registriesOf items).filter (!·.isCovered)

/-- What registries come to together: the members of all of their elements, or the diagnostic of the
first element that does not fit. -/
def readingOf (registries : List Occurrence) : Except ExtractionError (List Member) :=
  (registries.flatMap Occurrence.body).mapM memberOfElement

/-! ## What is around a phrase is around everything in it -/

section Around

variable {o : Occurrence}

mutual

lemma exists_around_of_mem_interfaces :
    ∀ {phrase : Phrase} {around : List Enclosure}, o ∈ phrase.interfaces around →
      ∃ inner, o.around = around ++ inner
  | .node _ _ parts, _, h => exists_around_of_mem_interfacesInPhrases h
  | .module _ name body, around, h => by
      obtain ⟨inner, hi⟩ := exists_around_of_mem_interfacesInPhrases h
      exact ⟨.module name :: inner, by rw [hi, List.append_assoc, List.singleton_append]⟩
  | .interface _ _ heritage body, around, h => by
      have extend : (∃ inner, o.around = around ++ [.interface] ++ inner) →
          ∃ inner, o.around = around ++ inner := by
        rintro ⟨inner, hi⟩
        exact ⟨.interface :: inner, by rw [hi, List.append_assoc, List.singleton_append]⟩
      rcases List.mem_cons.mp h with rfl | h
      · exact ⟨[], by rw [List.append_nil]⟩
      · rcases List.mem_append.mp h with h | h
        · exact extend (exists_around_of_mem_interfacesInPhrases h)
        · exact extend (exists_around_of_mem_interfacesInElements h)
  | .objectType _ body, _, h => exists_around_of_mem_interfacesInElements h

lemma exists_around_of_mem_interfacesInPhrases :
    ∀ {phrases : List Phrase} {around : List Enclosure}, o ∈ interfacesInPhrases around phrases →
      ∃ inner, o.around = around ++ inner
  | phrase :: rest, _, h => by
      rcases List.mem_append.mp h with h | h
      · exact exists_around_of_mem_interfaces h
      · exact exists_around_of_mem_interfacesInPhrases h

lemma exists_around_of_mem_elementInterfaces :
    ∀ {element : Element} {around : List Enclosure}, o ∈ element.interfaces around →
      ∃ inner, o.around = around ++ inner
  | .property _ _ key none, _, h => exists_around_of_mem_interfaces h
  | .property _ _ key (some type), _, h => by
      rcases List.mem_append.mp h with h | h
      · exact exists_around_of_mem_interfaces h
      · exact exists_around_of_mem_interfaces h
  | .signature _ _ parts, _, h => exists_around_of_mem_interfacesInPhrases h

lemma exists_around_of_mem_interfacesInElements :
    ∀ {elements : List Element} {around : List Enclosure}, o ∈ interfacesInElements around elements →
      ∃ inner, o.around = around ++ inner
  | element :: rest, _, h => by
      rcases List.mem_append.mp h with h | h
      · exact exists_around_of_mem_elementInterfaces h
      · exact exists_around_of_mem_interfacesInElements h

end

end Around

end AddonRegistry
