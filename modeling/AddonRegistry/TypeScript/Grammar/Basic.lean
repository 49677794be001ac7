import AddonRegistry.TypeScript.Reading

/-!
# The parts that phrases share

The phrases of the language contain each other.  Each family of phrases is read by functions that
take an argument `read`, which reads a phrase of any category; the recursion is tied once, over
all of them, in `Phrase.read`.

* `Category` — the categories of phrases that contain each other.
* `arguments`, `typeArguments` — lists in parentheses and in angle brackets.
* `propertyName` — the name of a property or member.
* `decorators` — the decorators in front of a class, member or parameter.
-/

namespace AddonRegistry.TypeScript

/-- A category of phrases. -/
inductive Category where
  /-- Assignments separated by commas. -/
  | expression
  | assignment
  /-- An operand; `arrow` says whether it may be an arrow function. -/
  | unary (arrow : Bool)
  /-- What can stand in front of an assignment operator. -/
  | leftHand
  /-- A left-hand side without calls, as behind `new`. -/
  | construction
  /-- Binary operators that bind more tightly than `strength`, and their right operands. -/
  | operations (left : Phrase) (strength : Nat)
  /-- Calls and member accesses behind an expression, with or without calls and brackets. -/
  | subscripts (base : Phrase) (calls brackets : Bool)
  | object
  /-- A tag and what it encloses; `inside` says whether it stands inside another one. -/
  | markup (inside : Bool)
  | pattern
  | type
  /-- A type that is not a conditional type. -/
  | unconditionalType
  /-- An operand of a type operator. -/
  | typeOperand
  /-- A statement; `declarations` says whether it may be a lexical declaration. -/
  | statement (declarations : Bool)
  /-- A statement, import or export. -/
  | item
  | block

/-- How a phrase of any category is read. -/
abbrev Reader := Category → Reading Phrase

open Reading

namespace Grammar

variable (read : Reader)

/-- A phrase in which `in` is an operator. -/
def withMembership {α : Type} (step : Reading α) : Reading α :=
  under (fun s => { s with membership := true }) step

/-- A phrase that is bracketed, so that a colon behind it is its own. -/
def bracketed {α : Type} (step : Reading α) : Reading α :=
  under (fun s => { s with colonAwaited := false }) step

/-- An element of an array or an argument, which three dots may spread. -/
def spreadable : Reading Phrase := do
  let line ← currentLine
  if ← eat .ellipsis then
    let value ← read .assignment
    return .node .spread line [value]
  else read .assignment

/-- Arguments in parentheses. -/
def arguments : Reading (List Phrase) := bracketed do
  expect .openParen
  let values ← listed .closeParen (withMembership (spreadable read))
  expect .closeParen
  return values

/-- Type arguments in angle brackets. -/
def typeArguments : Reading (List Phrase) := do
  move Cursor.splitLess
  expect .less
  let types ← listed .greater (read .type)
  expect .greater
  return types

/-- Whether type arguments may start here. -/
def atTypeArguments : Reading Bool := do
  return (← atMark .less) || (← atMark .shiftLeft)

/-- An annotation: a colon and a type. -/
def typeBehind? : Reading (List Phrase) := do
  if ← eat .colon then
    let type ← read .type
    return [type]
  else return []

/-- A template, whose first stretch is the current token; `part` reads what stands between the
stretches.  Only behind a tag may escape sequences be malformed. -/
def template (tagged : Bool) (part : Reading Phrase) : Reading (List Phrase) :=
  List.reverse <$> iterate (fun parts => do
    match (← cursor).token with
    | .template closed fault =>
        match if tagged then none else fault with
        | some fault => failWith fault
        | none =>
            bump
            if closed then return (parts, false)
            else do
              let value ← part
              let c ← cursor
              if c.isMark .closeBrace then
                move (·.reread (Lexeme.templatePiece c.line c.bound c.rest c.restLine none))
                return (value :: parts, true)
              else unexpected "\x60\x7d\x60"
    | .bad fault => failWith fault
    | _ => unexpected "\x60\x7d\x60") []

/-- The name of a property in an object, pattern or class. -/
def propertyName : Reading Phrase := do
  let c ← cursor
  match c.token with
  | .word name _ =>
      bump
      return .node (.identifier name) c.line []
  | .string value =>
      bump
      return .node (.string value) c.line []
  | .number =>
      bump
      return .node .number c.line []
  | .bigInt =>
      bump
      return .node .bigInt c.line []
  | .mark .openBracket =>
      bump
      let first ← withMembership (read .assignment)
      let others ← collect (eat .comma) (withMembership (read .assignment))
      expect .closeBracket
      return .node .computedKey c.line (first :: others)
  | _ => unexpected "identifier, string literal, numeric literal or [ for the computed key"

/-- A decorator: a name with members and calls behind it, or an expression in parentheses. -/
def decorator : Reading Phrase := do
  let line ← currentLine
  bump
  let target ←
    if ← eat .openParen then do
      let value ← read .expression
      expect .closeParen
      pure value
    else do
      let name ← boundName
      read (.subscripts name true false)
  let types ← if ← atMark .less then typeArguments read else pure []
  let values ← if !types.isEmpty || (← atMark .openParen) then arguments read else pure []
  return .node .decorator line (target :: values ++ types)

/-- The decorators that stand here. -/
def decorators (exportAllowed : Bool) : Reading (List Phrase) := do
  let line ← currentLine
  let found ← collect (atMark .at) (decorator read)
  if !found.isEmpty && !exportAllowed && !(← setting).enclosed && (← atKeyword "export") then
    failWith ⟨line, .exportNotAllowed⟩
  else return found

end Grammar

end AddonRegistry.TypeScript
