import AddonRegistry.TypeScript.Grammar.Types

/-!
# Functions

The parts that function declarations, function expressions, methods and arrow functions share.

* `functionPieces` — everything behind the name of a function: type parameters, parameters, result
  and body.  The body of an announced function is missing.
* `functionParts` — the same as the parts of a phrase.
* `function` — a function with its name; `arrowBody` — what follows an arrow.
-/

namespace AddonRegistry.TypeScript

open Reading

namespace Grammar

variable (read : Reader)

/-- Which words a function's own code gives a meaning to. -/
structure FunctionForm where
  /-- Whether `await` suspends it. -/
  asynchronous : Bool
  /-- Whether `yield` suspends it. -/
  generator : Bool

/-- A function that runs through. -/
def FunctionForm.plain : FunctionForm := ⟨false, false⟩

/-- The setting inside a function. -/
def FunctionForm.enter (form : FunctionForm) (s : Setting) : Setting :=
  { s with asynchronous := form.asynchronous, generator := form.generator }

/-- The setting inside the body of a function. -/
def FunctionForm.enterBody (form : FunctionForm) (s : Setting) : Setting :=
  { form.enter s with colonAwaited := false, enclosed := true }

/-- The body of a function, or nothing where a statement may end. -/
def body? (form : FunctionForm) : Reading (List Phrase) := under form.enterBody do
  let block : Reading (List Phrase) := (fun b => [b]) <$> withMembership (read .block)
  if ← atMark .openBrace then block
  else if ← eatStatementEnd then return []
  else block

/-- What follows the name of a function, piece by piece. -/
structure FunctionPieces where
  types : List Phrase
  parameters : List Phrase
  /-- The type of the result, if there is one. -/
  result : List Phrase
  /-- The body, if there is one. -/
  body : List Phrase

/-- What follows the name of a function. -/
def functionPieces (form : FunctionForm) : Reading FunctionPieces := under form.enter do
  let types ← typeParameters? read
  expect .openParen
  let values ← parameters read
  expect .closeParen
  let result ← returnType? read
  let body ← body? read form
  return ⟨types, values, result, body⟩

/-- The parts of a function behind its name; `marks` are the decorators in front of it. -/
def functionParts (form : FunctionForm) (marks : List Phrase) : Reading (List Phrase) := do
  let function ← functionPieces read form
  return function.parameters ++ marks ++ function.body ++ function.types ++ function.result

/-- A function from the keyword on.  Its name may be missing unless `named` says otherwise. -/
def function (kind : Kind) (line : Nat) (asynchronous named : Bool) (marks : List Phrase) :
    Reading Phrase := do
  bump
  let generator ← eat .star
  let name ← if named || (← atReference) then (fun n => [n]) <$> boundName else pure []
  let parts ← functionParts read ⟨asynchronous, generator⟩ marks
  return .node kind line (name ++ parts)

/-- What follows the arrow of an arrow function. -/
def arrowBody (asynchronous : Bool) : Reading Phrase :=
  under (FunctionForm.enterBody ⟨asynchronous, false⟩) do
    if ← atMark .openBrace then read .block else read .assignment

end Grammar

end AddonRegistry.TypeScript
