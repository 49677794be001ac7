import AddonRegistry.Conventions
import AddonRegistry.TypeScript.Module

/-!
# Reading the registered names off a module

A source file registers names by declaring an interface `Registry` inside a declaration of the
registry module.  Two walks over the tree of the module find these interfaces: one looks for the
declarations of the registry module and goes into no other module declaration, and the other looks
for the interfaces below such a declaration and goes into no interface.  Both add to what has been
gathered, until the first element that does not fit.

* `memberOfElement` — the one accepted form of an element: `name: typeof Identifier`.
* `Phrase.gather` — the walk below a declaration of the registry module.
* `Phrase.seek` — the walk that looks for these declarations.
* `membersOf` — the registered names of a source file, or the first thing wrong with it.
-/

namespace AddonRegistry

open TypeScript

/-- A registered name and the type it stands for. -/
structure Member where
  name : String
  target : String
  deriving DecidableEq, Repr

/-! ## Elements -/

/-- Annotations that are not `typeof` followed by one identifier. -/
inductive TypeForm where
  | missing
  | qualifiedName
  | importedModule
  | instantiatedQuery
  | reference
  | keyword
  | other
  deriving DecidableEq, Repr

/-- What is wrong with an element of a registry. -/
inductive Misfit where
  /-- The element is no property. -/
  | signature (kind : SignatureKind)
  /-- The key is neither a string nor an identifier. -/
  | key
  /-- The property called `name` is not annotated with `typeof` and one identifier. -/
  | type (form : TypeForm) (name : String)
  deriving DecidableEq, Repr

namespace Misfit

/-- What should stand instead. -/
def expected : Misfit → String
  | .signature _ => "a property signature"
  | .key => "a string or identifier key"
  | .type _ _ => "a `typeof Identifier` annotation"

/-- How an annotation is named. -/
def typeWording : TypeForm → String
  | .missing => "missing type annotation"
  | .qualifiedName => "qualified name"
  | .importedModule => "type query"
  | .instantiatedQuery => "instantiated type query"
  | .reference => "type reference without `typeof`"
  | .keyword => "keyword type"
  | .other => "type annotation"

/-- What stands there. -/
def found : Misfit → String
  | .signature .method => "method signature"
  | .signature .index => "index signature"
  | .signature .call => "call signature"
  | .signature .construct => "construct signature"
  | .signature .getter => "getter signature"
  | .signature .setter => "setter signature"
  | .key => "property key"
  | .type form name => typeWording form ++ " for '" ++ name ++ "'"

end Misfit

/-- Why the registered names of a source file cannot be read. -/
inductive ExtractionError where
  /-- The file is no module. -/
  | parse (fault : Fault)
  /-- An element of a registry has the wrong form. -/
  | unexpectedShape (line : Nat) (misfit : Misfit)
  deriving DecidableEq, Repr

/-- The wording of an error. -/
def ExtractionError.message : ExtractionError → String
  | .parse fault =>
      "failed to parse source at line " ++ toString fault.line ++ ": " ++ fault.cause.message
  | .unexpectedShape line misfit =>
      "unexpected " ++ misfit.found ++ " in `Registry` at line " ++ toString line ++
        ", expected " ++ misfit.expected

/-- The name that a key gives to a property.  A string counts even in brackets. -/
def nameOfKey? (computed : Bool) (key : Phrase) : Option String :=
  match key.kind? with
  | some (.string value) => value
  | some (.identifier name) => if computed then none else some name
  | _ => none

/-- The identifier that an annotation asks the type of. -/
def targetOfType : Option Phrase → Except TypeForm String
  | none => .error .missing
  | some type =>
      match type.kind? with
      | some (.typeQuery _ true) => .error .instantiatedQuery
      | some (.typeQuery (.name name) false) => .ok name
      | some (.typeQuery .qualified false) => .error .qualifiedName
      | some (.typeQuery .importedModule false) => .error .importedModule
      | some .typeReference => .error .reference
      | some .keywordType => .error .keyword
      | _ => .error .other

/-- The registered name that an element declares. -/
def memberOfElement : Element → Except ExtractionError Member
  | .signature kind line _ => .error (.unexpectedShape line (.signature kind))
  | .property line computed key type =>
      match nameOfKey? computed key with
      | none => .error (.unexpectedShape line .key)
      | some name =>
          match targetOfType type with
          | .ok target => .ok ⟨name, target⟩
          | .error form => .error (.unexpectedShape line (.type form name))

/-! ## The two walks -/

/-- What the walks over a module have gathered. -/
structure Gathering where
  members : List Member := []
  /-- The first thing wrong with a registry interface.  Nothing is gathered behind it. -/
  error : Option ExtractionError := none
  deriving DecidableEq, Repr

namespace Gathering

/-- Adds the members of a registry interface, if all of its elements have the accepted form. -/
def add (gathered : Gathering) (body : List Element) : Gathering :=
  match body.mapM memberOfElement with
  | .ok members => { gathered with members := gathered.members ++ members }
  | .error error => { gathered with error := some error }

/-- What the walks come to. -/
def result (gathered : Gathering) : Except ExtractionError (List Member) :=
  match gathered.error with
  | some error => .error error
  | none => .ok gathered.members

end Gathering

namespace TypeScript

mutual

/-- The walk over what is below a declaration of the registry module.  It does not go into
interfaces. -/
def Phrase.gather : Phrase → Gathering → Gathering
  | .node _ _ parts, gathered => gatherFromPhrases parts gathered
  | .module _ _ body, gathered => gatherFromPhrases body gathered
  | .interface _ name _ body, gathered =>
      if gathered.error.isSome || name ≠ registryInterface then gathered else gathered.add body
  | .objectType _ body, gathered => gatherFromElements body gathered

/-- The walk over phrases below a declaration of the registry module. -/
def gatherFromPhrases : List Phrase → Gathering → Gathering
  | [], gathered => gathered
  | phrase :: rest, gathered => gatherFromPhrases rest (phrase.gather gathered)

/-- The walk over an element below a declaration of the registry module. -/
def Element.gather : Element → Gathering → Gathering
  | .property _ _ key none, gathered => key.gather gathered
  | .property _ _ key (some type), gathered => type.gather (key.gather gathered)
  | .signature _ _ parts, gathered => gatherFromPhrases parts gathered

/-- The walk over elements below a declaration of the registry module. -/
def gatherFromElements : List Element → Gathering → Gathering
  | [], gathered => gathered
  | element :: rest, gathered => gatherFromElements rest (element.gather gathered)

end

mutual

/-- The walk that looks for declarations of the registry module.  It does not go into other module
declarations. -/
def Phrase.seek : Phrase → Gathering → Gathering
  | .node _ _ parts, gathered => seekInPhrases parts gathered
  | .module _ name body, gathered =>
      if gathered.error.isSome || name ≠ .specifier (some registryModule) then gathered
      else gatherFromPhrases body gathered
  | .interface _ _ heritage body, gathered => seekInElements body (seekInPhrases heritage gathered)
  | .objectType _ body, gathered => seekInElements body gathered

/-- The walk over phrases outside the registry module. -/
def seekInPhrases : List Phrase → Gathering → Gathering
  | [], gathered => gathered
  | phrase :: rest, gathered => seekInPhrases rest (phrase.seek gathered)

/-- The walk over an element outside the registry module. -/
def Element.seek : Element → Gathering → Gathering
  | .property _ _ key none, gathered => key.seek gathered
  | .property _ _ key (some type), gathered => type.seek (key.seek gathered)
  | .signature _ _ parts, gathered => seekInPhrases parts gathered

/-- The walk over elements outside the registry module. -/
def seekInElements : List Element → Gathering → Gathering
  | [], gathered => gathered
  | element :: rest, gathered => seekInElements rest (element.seek gathered)

end

end TypeScript

/-! ## Source files -/

/-- Whether a file name is that of a module with markup. -/
def hasMarkup (fileName : String) : Bool :=
  ".tsx".toList.isSuffixOf fileName.toList

/-- The registered names of a module's items, in the order of the text, or the first element that
does not fit. -/
def membersOfItems (items : List Phrase) : Except ExtractionError (List Member) :=
  (seekInPhrases items {}).result

/-- The registered names of a source file, in the order of its text. -/
def membersOf (code fileName : String) : Except ExtractionError (List Member) :=
  match parse code.toList (hasMarkup fileName) with
  | .error fault => .error (.parse fault)
  | .ok items => membersOfItems items

end AddonRegistry
