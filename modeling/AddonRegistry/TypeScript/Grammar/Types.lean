import AddonRegistry.TypeScript.Grammar.Patterns

/-!
# Types

Types, type parameters, and the elements of interfaces and object types.

* `type`, `unconditionalType`, `operandType` — types, from the loosest to the tightest.
* `returnType` — the type behind a signature, which may be a predicate such as `x is T`.
* `typeParameters?` — the type parameters of a declaration or signature.
* `elements` — the body of an interface or object type.
-/

namespace AddonRegistry.TypeScript

open Reading

namespace Grammar

variable (read : Reader)

/-! ## Names of types -/

/-- The first name of a dotted name, and whether there are more.  A dot that no name follows ends
the name. -/
def dottedName (anyWord : Bool) : Reading (String × Bool) := do
  let (name, _) ← word
  let dotted ← iterate (fun dotted => do
    if ← eat .dot then
      if (← atWord) || (← atMark .hash) then
        if anyWord then let _ ← word else let _ ← boundName
        return (true, true)
      else return (dotted, false)
    else return (dotted, false)) false
  return (name, dotted)

/-- Type arguments, if some start on this line. -/
def typeArguments? : Reading (Option (List Phrase)) := do
  if !(← lineBroke) && (← atTypeArguments) then some <$> typeArguments read else return none

/-- A type that is given by its name. -/
def typeReference : Reading Phrase := do
  let line ← currentLine
  let _ ← eatAccessModifier
  let _ ← dottedName true
  let types ← typeArguments? read
  return .node .typeReference line (types.getD [])

/-- A type that is taken from a module, `import('…').T`. -/
def importType : Reading Phrase := do
  let line ← currentLine
  bump
  expect .openParen
  bump
  let options ←
    if ← eat .comma then
      if ← eat .openBrace then do
        expectKeyword "with"
        expect .colon
        let value ← read .object
        let _ ← eat .comma
        expect .closeBrace
        pure [value]
      else pure []
    else pure []
  expect .closeParen
  if ← eat .dot then let _ ← dottedName false
  let types ← if ← atTypeArguments then typeArguments read else pure []
  return .node .importType line (types ++ options)

/-- The type of a variable, `typeof x`. -/
def typeQuery : Reading Phrase := do
  let line ← currentLine
  bump
  let (target, parts) ←
    if ← atKeyword "import" then do
      let module ← importType read
      pure (QueryTarget.importedModule, [module])
    else do
      let (name, dotted) ← dottedName true
      pure (if dotted then QueryTarget.qualified else .name name, [])
  let types ← typeArguments? read
  return .node (.typeQuery target types.isSome) line (parts ++ types.getD [])

/-! ## Type parameters and signatures -/

/-- A type parameter. -/
def typeParameter : Reading Phrase := do
  let line ← currentLine
  let _ ← collectSome (modifier? ["public", "private", "protected", "readonly", "abstract",
    "const", "override", "in", "out"])
  let _ ← word
  let bound ← if ← eatKeyword "extends" then (fun t => [t]) <$> read .type else pure []
  let default ← if ← eat .assign then (fun t => [t]) <$> read .type else pure []
  return .node .typeParameter line (bound ++ default)

/-- Type parameters in angle brackets. -/
def typeParameters : Reading (List Phrase) := do
  expect .less
  let found ← listed .greater (typeParameter read)
  expect .greater
  return found

/-- Type parameters, if some stand here. -/
def typeParameters? : Reading (List Phrase) := do
  if ← atMark .less then typeParameters read else return []

/-- The type behind the mark of a signature, or a predicate about one of its parameters. -/
def returnType (mark : Mark) : Reading Phrase := do
  expect mark
  let line ← currentLine
  let asserts := (← atKeyword "asserts") && (← peek).token.isReference
  if asserts then bump
  let n ← peek
  let tests := (← atReference) && n.isKeyword "is" && !n.broke
  if !asserts && !tests then read .type
  else do
    let name ← nameWord
    if tests then
      bump
      let type ← read .type
      return .node .predicateType line [name, type]
    else return .node .predicateType line [name]

/-- The type behind a colon, or a predicate, if there is a colon. -/
def returnType? : Reading (List Phrase) := do
  if ← atMark .colon then (fun t => [t]) <$> returnType read .colon else return []

/-- A function type or constructor type. -/
def functionType (constructs : Bool) : Reading Phrase := do
  let line ← currentLine
  if constructs then
    let _ ← eatKeyword "abstract"
    expectKeyword "new"
  let types ← typeParameters? read
  expect .openParen
  let values ← signatureParameters read
  let result ← returnType read .arrow
  return .node (if constructs then .constructorType else .functionType) line
    (values ++ types ++ [result])

/-! ## Elements of interfaces and object types -/

/-- An element ends with a comma or where a statement could end. -/
def endElement : Reading Unit := do
  if ← eat .comma then return () else endStatement

/-- The name of a property of a type, and whether it is computed.  A string or number is read like
an expression, so that what follows it can belong to it. -/
def typePropertyName : Reading (Bool × Phrase) := do
  match (← cursor).token with
  | .mark .openBracket =>
      bump
      let key ← read .assignment
      expect .closeBracket
      return (true, key)
  | .string _ | .number | .bigInt => return (false, ← read .construction)
  | _ => return (false, ← memberName)

/-- A call signature or construct signature. -/
def signature (kind : SignatureKind) : Reading Element := do
  let line ← currentLine
  if kind = .construct then bump
  let types ← typeParameters? read
  expect .openParen
  let values ← signatureParameters read
  let result ← returnType? read
  endElement
  return .signature kind line (values ++ result ++ types)

/-- The parts of an index signature, if one stands here: `[key: K]: V`. -/
def indexParts? : Reading (Option (List Phrase)) := do
  if !(← atMark .openBracket) then return none
  else
    let starts ← lookAhead do
      bump
      if ← atWord then
        bump
        return (← atMark .colon) || (← atMark .comma)
      else return false
    if !starts then return none
    else
      bump
      let name ← nameWord
      if !(← eat .comma) then expect .colon
      let keys ← read .type
      expect .closeBracket
      let values ← typeBehind? read
      endElement
      return some (name :: keys :: values)

/-- A getter or setter in an interface.  A setter has its first parameter only. -/
def accessorSignature : Reading Element := do
  let line ← currentLine
  if ← eatKeyword "get" then
    let (_, key) ← typePropertyName read
    expect .openParen
    expect .closeParen
    let type ← typeBehind? read
    endElement
    return .signature .getter line (key :: type)
  else
    expectKeyword "set"
    let (_, key) ← typePropertyName read
    expect .openParen
    let values ← signatureParameters read
    if values.isEmpty then fail .setterParameter
    endElement
    return .signature .setter line (key :: values.take 1)

/-- A property or method of an interface, behind its modifiers. -/
def propertySignature (line : Nat) (readonly : Bool) : Reading Element := do
  let (computed, key) ← typePropertyName read
  let _ ← eat .question
  if (← atMark .openParen) || (← atMark .less) then
    if readonly then fail .readonlyMethod
    let types ← typeParameters? read
    expect .openParen
    let values ← signatureParameters read
    let result ← returnType? read
    endElement
    return .signature .method line (key :: values ++ result ++ types)
  else
    let type ← typeBehind? read
    endElement
    return .property line computed key type.head?

/-- An element of an interface or object type. -/
def typeElement : Reading Element := do
  let c ← cursor
  if c.isMark .openParen || c.isMark .less then signature read .call
  else if c.isKeyword "new" && (c.next.isMark .openParen || c.next.isMark .less) then
    signature read .construct
  else do
    let readonly := (← modifier? ["readonly"]).isSome
    match ← indexParts? read with
    | some parts => return .signature .index c.line parts
    | none =>
        let accessor ← attempt do
          if readonly then fail .readonlyAccessor
          some <$> accessorSignature read
        match accessor with
        | some accessor => return accessor
        | none => propertySignature read c.line readonly

/-- The elements of an interface or object type, in braces. -/
def elements : Reading (List Element) := do
  expect .openBrace
  let found ← collect (do return !(← atMark .closeBrace)) (typeElement read)
  expect .closeBrace
  return found

/-! ## Bracketed types -/

/-- A mapped type, `{ [K in T]: V }`. -/
def mappedType : Reading Phrase := do
  let line ← currentLine
  expect .openBrace
  if (← atMark .plus) || (← atMark .minus) then
    bump
    expectKeyword "readonly"
  else let _ ← eatKeyword "readonly"
  expect .openBracket
  let parameterLine ← currentLine
  let _ ← word
  if !(← eatKeyword "in") then unexpected "in"
  let keys ← read .type
  let name ← if ← eatKeyword "as" then (fun t => [t]) <$> read .type else pure []
  expect .closeBracket
  if (← atMark .plus) || (← atMark .minus) then
    bump
    expect .question
  else let _ ← eat .question
  let value ← typeBehind? read
  endStatement
  expect .closeBrace
  return .node .mappedType line (.node .typeParameter parameterLine [keys] :: name ++ value)

/-- Whether a brace opens a mapped type. -/
def startsMappedType : Reading Bool := lookAhead do
  bump
  if (← atMark .plus) || (← atMark .minus) then
    bump
    atKeyword "readonly"
  else
    let _ ← eatKeyword "readonly"
    if ← eat .openBracket then
      if ← atReference then
        bump
        atKeyword "in"
      else return false
    else return false

/-- An element of a tuple type, with its label. -/
def tupleElement : Reading Phrase := do
  let line ← currentLine
  let _ ← attempt do
    let _ ← eat .ellipsis
    let _ ← word
    let _ ← eat .question
    expect .colon
    return some ()
  if ← eat .ellipsis then
    let type ← read .type
    return .node .restType line [type]
  else do
    let type ← read .type
    if ← eat .question then return .node .optionalType line [type] else return type

/-- A tuple type. -/
def tupleType : Reading Phrase := do
  let line ← currentLine
  expect .openBracket
  let found ← listed .closeBracket (tupleElement read)
  expect .closeBracket
  return .node .tupleType line found

/-- A type in parentheses. -/
def parenthesizedType : Reading Phrase := do
  let line ← currentLine
  expect .openParen
  let type ← read .type
  expect .closeParen
  return .node .parenthesizedType line [type]

/-! ## From the tightest to the loosest -/

/-- Words that are types on their own. -/
def keywordTypes : List String :=
  ["any", "boolean", "bigint", "never", "number", "object", "string", "symbol", "unknown",
    "undefined", "intrinsic", "void", "null"]

/-- What a type can consist of. -/
def typeWording : String :=
  "an identifier, void, yield, null, await, break, a string literal, a numeric literal, true, " ++
    "false, \x60, -, import, this, typeof, \x7b, [, ("

/-- The predicate behind `this` in the result of a method. -/
def thisPredicate (line : Nat) : Reading Phrase := do
  if ← eatKeyword "is" then
    let type ← read .type
    return .node .predicateType line [type]
  else return .node .predicateType line []

/-- A type without operators. -/
def primaryType : Reading Phrase := do
  let c ← cursor
  match c.token with
  | .word _ keyword =>
      if c.isKeyword "true" || c.isKeyword "false" then
        bump
        return .node .literalType c.line []
      else if c.isKeyword "import" then importType read
      else if c.isKeyword "typeof" then typeQuery read
      else if c.isKeyword "this" then
        bump
        if !(← lineBroke) && (← atKeyword "is") then thisPredicate read c.line
        else return .node .thisType c.line []
      else if keyword.any fun k =>
          alwaysReserved.contains k && !(["void", "null", "break"].contains k) then
        unexpected typeWording
      else if c.isKeyword "asserts" && c.next.isKeyword "this" then
        bump
        bump
        thisPredicate read c.line
      else if keyword.any keywordTypes.contains && !c.next.isMark .dot then
        bump
        return .node .keywordType c.line []
      else typeReference read
  | .string _ | .number | .bigInt =>
      bump
      return .node .literalType c.line []
  | .template _ _ =>
      let parts ← template false (read .type)
      return .node .literalType c.line parts
  | .mark .minus =>
      bump
      match (← cursor).token with
      | .number | .bigInt =>
          bump
          return .node .literalType c.line []
      | _ => unexpected "numeric literal or bigint literal"
  | .mark .openBrace =>
      if ← startsMappedType then mappedType read
      else do
        let body ← elements read
        return .objectType c.line body
  | .mark .openBracket => tupleType read
  | .mark .openParen => parenthesizedType read
  | _ => unexpected typeWording

/-- A type with array brackets and indices behind it. -/
def arrayType : Reading Phrase := do
  let type ← primaryType read
  iterate (fun type => do
    if !(← lineBroke) && (← atMark .openBracket) then
      bump
      if ← eat .closeBracket then return (.node .arrayType type.line [type], true)
      else
        let index ← read .type
        expect .closeBracket
        return (.node .indexedType type.line [type, index], true)
    else return (type, false)) type

/-- A type variable that a conditional type infers, with its bound. -/
def inferType : Reading Phrase := do
  let line ← currentLine
  bump
  let _ ← word
  let bound ← attempt do
    expectKeyword "extends"
    let bound ← read .unconditionalType
    if (← setting).extendsTaken || !(← atMark .question) then return some bound else return none
  return .node .inferType line bound.toList

/-- A type with type operators in front of it. -/
def operandType : Reading Phrase := do
  let c ← cursor
  if c.isKeyword "keyof" || c.isKeyword "unique" || c.isKeyword "readonly" then
    bump
    let type ← read .typeOperand
    return .node .operatorType c.line [type]
  else if c.isKeyword "infer" then inferType read
  else do
    let _ ← modifier? ["readonly"]
    arrayType read

/-- Types joined by an operator, which may also stand in front of the first. -/
def joinedTypes (kind : Kind) (operator : Mark) (part : Reading Phrase) : Reading Phrase := do
  let line ← currentLine
  let _ ← eat operator
  let first ← part
  if ← atMark operator then
    let others ← collect (eat operator) part
    return .node kind line (first :: others)
  else return first

/-- Whether a function type starts here.  A parenthesis starts one if it is empty, if its first
parameter is spread, or if what follows the name of the first parameter can only stand in a list of
parameters. -/
def startsFunctionType : Reading Bool := do
  if ← atMark .less then return true
  else if !(← atMark .openParen) then return false
  else lookAhead do
    bump
    if (← atMark .closeParen) || (← atMark .ellipsis) then return true
    else
      let _ ← eatAccessModifier
      let named ←
        if ← atWord then do
          bump
          pure true
        else if (← atMark .openBrace) || (← atMark .openBracket) then do
          let _ ← read .pattern
          pure true
        else pure false
      let c ← cursor
      if !named then return false
      else if c.isMark .colon || c.isMark .comma || c.isMark .assign || c.isMark .question then
        return true
      else return c.isMark .closeParen && c.next.isMark .arrow

/-- A type that is not a conditional type. -/
def unconditionalType : Reading Phrase := do
  if ← startsFunctionType read then functionType read false
  else
    let c ← cursor
    if c.isKeyword "new" || (c.isKeyword "abstract" && c.next.isKeyword "new") then
      functionType read true
    else
      joinedTypes .unionType .pipe
        (joinedTypes .intersectionType .ampersand (operandType read))

/-- A type. -/
def type : Reading Phrase := do
  let checked ← under (fun s => { s with extendsTaken := false }) (read .unconditionalType)
  if (← lineBroke) || !(← atKeyword "extends") then return checked
  else
    bump
    let bound ← under (fun s => { s with extendsTaken := true }) (read .unconditionalType)
    expect .question
    let met ← read .type
    expect .colon
    let unmet ← read .type
    return .node .conditionalType checked.line [checked, bound, met, unmet]

/-- The types that a class implements or an interface extends. -/
def heritage : Reading (List Phrase) :=
  listedUntil
    (do return (← atMark .openBrace) || (← atKeyword "implements") || (← atKeyword "extends"))
    do
      let name ← nameWord
      let base ← read (.subscripts name false false)
      let types ← if ← atMark .less then typeArguments read else pure []
      return base.append types

end Grammar

end AddonRegistry.TypeScript
