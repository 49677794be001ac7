import AddonRegistry.TypeScript.Grammar.Basic

/-!
# Patterns and parameters

What a value is bound to: a name, or a pattern that takes an array or an object apart.

* `binding` — a name or pattern; `element` — with a default value.
* `parameters` — the parameters of a function; `constructorParameters` — those that may declare
  properties as well.
* `Phrase.asPattern` — an expression that turns out to be a pattern, as in `[a, b] = c` or in the
  head of an arrow function.
-/

namespace AddonRegistry.TypeScript

open Reading

namespace Phrase

/-- A phrase with further parts. -/
def append : Phrase → List Phrase → Phrase
  | .node kind line parts, more => .node kind line (parts ++ more)
  | phrase, _ => phrase

/-- Expressions that stay what they are as elements of a pattern that is assigned to. -/
def isTarget (kind : Kind) : Bool :=
  match kind with
  | .member _ | .call _ | .construct _ | .string _ | .number | .bigInt | .boolean | .null
  | .regularExpression | .identifier _ | .function | .classBody | .parenthesized | .template
  | .asserted => true
  | _ => false

mutual

/-- Takes an expression as a pattern, in an assignment (`assigned`) or in parameters.  A property
that is a method or accessor is refused; anything else that is no pattern is dropped. -/
def asPattern (assigned : Bool) : Phrase → Except Fault Phrase
  | .node .object line properties =>
      match propertyPatterns assigned properties with
      | .ok parts => .ok (.node .objectPattern line parts)
      | .error fault => .error fault
  | .node .array line elements =>
      match elementPatterns assigned elements with
      | .ok parts => .ok (.node .arrayPattern line parts)
      | .error fault => .error fault
  | .node (.assignment true) line parts => .ok (.node .defaulted line parts)
  | .node (.identifier name) line parts => .ok (.node (.identifier name) line parts)
  | .node kind line parts =>
      .ok (if assigned && isTarget kind then .node kind line parts else .node .missing line [])
  | phrase => .ok (.node .missing phrase.line [])

/-- The properties of an object as those of a pattern. -/
def propertyPatterns (assigned : Bool) : List Phrase → Except Fault (List Phrase)
  | [] => .ok []
  | .node .keyValue line [key, value] :: rest =>
      match asPattern assigned value with
      | .error fault => .error fault
      | .ok value =>
          match propertyPatterns assigned rest with
          | .error fault => .error fault
          | .ok rest => .ok (.node .keyValue line [key, value] :: rest)
  | .node .spread line [value] :: rest =>
      match asPattern assigned value with
      | .error fault => .error fault
      | .ok value =>
          match propertyPatterns assigned rest with
          | .error fault => .error fault
          | .ok rest => .ok (.node .rest line [value] :: rest)
  | property :: rest =>
      match property.kind? with
      | some .method | some .getter | some .setter => .error ⟨property.line, .notAPattern⟩
      | _ =>
          match propertyPatterns assigned rest with
          | .error fault => .error fault
          | .ok rest => .ok (property :: rest)

/-- The elements of an array as those of a pattern.  Only the last may be a rest element. -/
def elementPatterns (assigned : Bool) : List Phrase → Except Fault (List Phrase)
  | [] => .ok []
  | .node .hole line parts :: rest =>
      match elementPatterns assigned rest with
      | .error fault => .error fault
      | .ok rest => .ok (.node .hole line parts :: rest)
  | .node .spread line [value] :: [] =>
      match asPattern assigned value with
      | .error fault => .error fault
      | .ok value => .ok [.node .rest line [value]]
  | .node .spread _ _ :: rest => elementPatterns assigned rest
  | element :: rest =>
      match asPattern assigned element with
      | .error fault => .error fault
      | .ok element =>
          match elementPatterns assigned rest with
          | .error fault => .error fault
          | .ok rest => .ok (element :: rest)

end

end Phrase

namespace Grammar

/-- Takes an expression as a pattern, or fails. -/
def asPattern (assigned : Bool) (phrase : Phrase) : Reading Phrase :=
  match phrase.asPattern assigned with
  | .ok pattern => return pattern
  | .error fault => failWith fault

variable (read : Reader)

/-- A pattern with a default value, if one follows. -/
def element : Reading Phrase := do
  let left ← read .pattern
  if ← eat .assign then
    let value ← withMembership (read .assignment)
    return .node .defaulted left.line [left, value]
  else return left

/-- An array pattern. -/
def arrayPattern : Reading Phrase := do
  let line ← currentLine
  bump
  let elements ← collect (do return !(← atEnd) && !(← atMark .closeBracket)) do
    let line ← currentLine
    if ← eat .comma then return .node .hole line []
    else do
      let part ←
        if ← eat .ellipsis then do
          let target ← read .pattern
          pure (Phrase.node .rest line [target])
        else element read
      if !(← atMark .closeBracket) then expect .comma
      return part
  expect .closeBracket
  if (← setting).ambient then let _ ← eat .question
  return .node .arrayPattern line elements

/-- A property of an object pattern. -/
def patternProperty : Reading Phrase := do
  let line ← currentLine
  if ← eat .ellipsis then
    let target ← read .pattern
    return .node .rest line [target]
  else do
    let key ← propertyName read
    if ← eat .colon then
      let value ← element read
      return .node .keyValue line [key, value]
    else
      match key.identifier? with
      | none => unexpected "an identifier"
      | some name =>
          if ← eat .assign then
            let value ← withMembership (read .assignment)
            return .node (.shorthandDefault name) line [value]
          else return .node (.shorthand name) line []

/-- An object pattern.  A rest property at its end has to be a name. -/
def objectPattern : Reading Phrase := do
  let line ← currentLine
  bump
  let properties ← listed .closeBrace (patternProperty read)
  expect .closeBrace
  match properties.getLast? with
  | some (.node .rest line [target]) =>
      if target.identifier?.isNone then failWith ⟨line, .restWithoutIdentifier⟩
  | _ => pure ()
  if (← setting).ambient then let _ ← eat .question
  return .node .objectPattern line properties

/-- A name that is declared.  A lexical declaration cannot bind `let`. -/
def declaredName (lexical : Bool) : Reading Phrase := do
  if lexical && (← atKeyword "let") then
    unexpected "let is reserved in const, let, class declaration"
  else boundName

/-- A name or pattern that something is bound to. -/
def binding (lexical : Bool) : Reading Phrase := do
  match (← cursor).token with
  | .word _ _ => declaredName lexical
  | .mark .openBracket => arrayPattern read
  | .mark .openBrace => objectPattern read
  | _ => unexpected "yield, an identifier, [ or \x7b"

/-- Whether a pattern may be marked as optional. -/
def canBeOptional (pattern : Phrase) : Bool :=
  match pattern.kind? with
  | some (.identifier _) | some .arrayPattern | some .objectPattern => true
  | _ => false

/-- A parameter without its decorators.  A type behind a default value is no part of it. -/
def plainParameter : Reading Phrase := do
  let _ ← eatAccessModifier
  let left ← element read
  let line ← currentLine
  if ← eat .question then
    if !canBeOptional left && !(← setting).ambient then failWith ⟨line, .optionalPattern⟩
  let type ← typeBehind? read
  let left := if left.kind? = some .defaulted then left else left.append type
  if ← eat .assign then
    let value ← read .assignment
    return .node .defaulted left.line [left, value]
  else return left

/-- A rest parameter, from behind its three dots on. -/
def restParameter (line : Nat) : Reading Phrase := do
  let target ← read .pattern
  let value ← if ← eat .assign then (fun value => [value]) <$> read .assignment else pure []
  let type ← typeBehind? read
  let _ ← eat .question
  return .node .rest line (target :: value ++ type)

/-- A parameter with its decorators; the pattern is its last part. -/
def parameter : Reading Phrase := do
  let line ← currentLine
  let marks ← decorators read false
  let start ← currentLine
  let pattern ← if ← eat .ellipsis then restParameter read start else plainParameter read
  return .node .parameter line (marks ++ [pattern])

/-- The pattern of a parameter, without its decorators. -/
def patternOf? (parameter : Phrase) : Option Phrase :=
  parameter.parts.getLast?

/-- The parameters of a function, up to the closing parenthesis. -/
def parameters : Reading (List Phrase) :=
  listed .closeParen (parameter read)

/-- Modifiers of a class member or constructor parameter that regulate access. -/
def accessModifier? : Reading (Option String) :=
  modifier? ["public", "protected", "private", "in", "out"]

/-- A parameter of a constructor. -/
def constructorParameter : Reading Phrase := do
  let line ← currentLine
  let marks ← decorators read false
  let start ← currentLine
  if ← eat .ellipsis then
    let target ← read .pattern
    let type ← typeBehind? read
    return .node .parameter line (marks ++ [.node .rest start (target :: type)])
  else do
    let access ← accessModifier?
    let override ← modifier? ["override"]
    let readonly ← modifier? ["readonly"]
    let patternLine ← currentLine
    let pattern ← plainParameter read
    if access.isNone && override.isNone && readonly.isNone then
      return .node .parameter line (marks ++ [pattern])
    else
      match pattern.kind? with
      | some (.identifier _) | some .defaulted =>
          return .node .parameterProperty line (marks ++ [pattern])
      | _ => failWith ⟨patternLine, .patternParameterProperty⟩

/-- The parameters of a constructor, up to the closing parenthesis. -/
def constructorParameters : Reading (List Phrase) :=
  listed .closeParen (constructorParameter read)

/-- The patterns of the parameters of a signature, with the closing parenthesis.  A signature has no
default values. -/
def signatureParameters : Reading (List Phrase) := do
  let patterns := (← parameters read).filterMap patternOf?
  let isPlain (pattern : Phrase) : Bool :=
    match pattern.kind? with
    | some (.identifier _) | some .arrayPattern | some .objectPattern | some .rest => true
    | _ => false
  if patterns.all isPlain then
    expect .closeParen
    return patterns
  else
    unexpected ("an identifier, [ for an array pattern, \x7b for an object patter or ... " ++
      "for a rest pattern")

end Grammar

end AddonRegistry.TypeScript
