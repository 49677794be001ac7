import AddonRegistry.TypeScript.Grammar.Classes

/-!
# Expressions

Expressions from the tightest to the loosest: primary expressions, calls and member accesses,
operands, binary operators, conditional expressions, assignments, sequences.

What stands in parentheses may turn out to be the parameters of an arrow function.  It is read as
a list of items (`GroupItem`), each an expression unless a type annotation or a question mark shows
that it is a parameter; `group` decides afterwards.

A missing operand is passed over where an operator follows that can go on without it.
-/

namespace AddonRegistry.TypeScript

open Reading

namespace Grammar

variable (read : Reader)

/-! ## Literals -/

/-- Whether a token can start an expression. -/
def startsExpression : Token → Bool
  | .word _ keyword => keyword.all fun name => !isReserved name ||
      ["this", "super", "null", "true", "false", "function", "class", "new", "delete", "typeof",
        "void", "await", "yield", "import"].contains name
  | .string _ | .number | .bigInt | .regularExpression | .template _ _ => true
  | .mark m => m = .openParen || m = .openBracket || m = .openBrace || m = .slash ||
      m = .slashAssign || m = .plus || m = .minus || m = .tilde || m = .bang ||
      m = .increment || m = .decrement || m = .less || m = .hash || m = .at
  | _ => false

/-- Whether a token is written like a binary operator. -/
def isOperator : Token → Bool
  | .mark m => m.strength?.isSome
  | _ => false

/-- An array. -/
def array : Reading Phrase := do
  let line ← currentLine
  bump
  let elements ← collect (do return !(← atMark .closeBracket)) do
    let line ← currentLine
    if ← eat .comma then return .node .hole line []
    else do
      let value ← withMembership (spreadable read)
      if !(← atMark .closeBracket) then expect .comma
      return value
  expect .closeBracket
  return .node .array line elements

/-- A property of an object.  A getter has a key, a result and a body; a setter has a key, at most
two parameters, the first of which is then `this`, and a body. -/
def objectProperty : Reading Phrase := do
  let line ← currentLine
  if ← eat .ellipsis then
    let value ← read .assignment
    return .node .spread line [value]
  else if ← eat .star then
    let key ← propertyName read
    let parts ← functionParts read ⟨false, true⟩ []
    return .node .method line (key :: parts)
  else do
    let _ ← eatAccessModifier
    let key ← propertyName read
    let c ← cursor
    let continues := match c.token with
      | .word _ _ | .string _ | .number | .bigInt => true
      | .mark m => m = .openParen || m = .openBracket || m = .colon || m = .comma ||
          m = .question || m = .assign || m = .star || m = .hash || m = .less ||
          (m = .closeBrace && key.identifier?.isSome)
      | _ => false
    if !continues then return .node .keyValue line [key, .node .missing line []]
    else if ← eat .colon then
      let value ← read .assignment
      return .node .keyValue line [key, value]
    else if c.isMark .openParen || c.isMark .less then
      let parts ← functionParts read .plain []
      return .node .method line (key :: parts)
    else
      match key.identifier? with
      | none => unexpected "identifier"
      | some name =>
          let _ ← eat .question
          if ← eat .assign then
            let value ← read .assignment
            return .node (.shorthandDefault name) line [value]
          else if (← atMark .comma) || (← atMark .closeBrace) then
            return .node (.shorthand name) line []
          else if name = "get" then
            let key ← propertyName read
            let function ← functionPieces read .plain
            return .node .getter line (key :: function.result ++ function.body)
          else if name = "set" then
            let key ← propertyName read
            let function ← functionPieces read .plain
            let patterns := (function.parameters.take 2).filterMap patternOf?
            return .node .setter line (key :: patterns ++ function.body)
          else if name = "async" then
            let generator ← eat .star
            let key ← propertyName read
            let parts ← functionParts read ⟨true, generator⟩ []
            return .node .method line (key :: parts)
          else
            unexpected ("... , *,  (, [, :, , ?, =, an identifier, public, protected, " ++
              "private, readonly, <.")

/-- An object. -/
def object : Reading Phrase := do
  let line ← currentLine
  expect .openBrace
  let properties ← listed .closeBrace (objectProperty read)
  expect .closeBrace
  return .node .object line properties

/-! ## Calls and member accesses -/

/-- Whether an expression is part of an optional chain. -/
def isOptional (phrase : Phrase) : Bool :=
  match phrase with
  | .node (.member optional) _ _ => optional
  | .node (.call optional) _ _ => optional
  | .node .nonNull _ [inner] =>
      match inner.kind? with
      | some (.member optional) | some (.call optional) => optional
      | _ => false
  | _ => false

/-- A template behind an expression. -/
def taggedTemplate (tag : Phrase) (types : List Phrase) : Reading Phrase := do
  let parts ← bracketed (template true (withMembership (read .expression)))
  return .node .taggedTemplate tag.line (tag :: types ++ parts)

/-- Whether a template starts here. -/
def atTemplate : Reading Bool := do
  match (← cursor).token with
  | .template _ _ => return true
  | _ => return false

/-- A call, behind what is called. -/
def call (base : Phrase) (types : List Phrase) (optional : Bool) : Reading Phrase := do
  let values ← arguments read
  if base.kind? = some .importReference then
    if values.isEmpty || values.length > 2 then failWith ⟨base.line, .importArguments⟩
    return .node .importCall base.line values
  else
    return .node (.call (optional || isOptional base)) base.line (base :: values ++ types)

/-- Type arguments with the call or template they belong to. -/
def genericSubscript (base : Phrase) (calls : Bool) : Reading (Option (Phrase × Bool)) := do
  let types ← typeArguments read
  let c ← cursor
  if calls && c.isMark .openParen then
    let value ← call read base types false
    return some (value, true)
  else if ← atTemplate then
    let value ← taggedTemplate read base types
    return some (value, true)
  else if c.isMark .assign || c.isKeyword "as" || c.isKeyword "satisfies" then
    return some (.node .instantiation base.line (base :: types), false)
  else return none

/-- One call, member access, template or exclamation mark behind an expression. -/
def subscript (calls brackets : Bool) (base : Phrase) : Reading (Phrase × Bool) := do
  let c ← cursor
  let isExpression :=
    base.kind? ≠ some .superReference && base.kind? ≠ some .importReference
  if isExpression && !c.broke && c.isMark .bang then
    bump
    return (.node .nonNull base.line [base], true)
  else do
    let generic ←
      if isExpression && (← atTypeArguments) then attempt (genericSubscript read base calls)
      else pure none
    match generic with
    | some result => return result
    | none =>
        let chained := c.isMark .question && c.next.isMark .dot
        if chained then
          bump
          bump
        let optional := chained || isOptional base
        if brackets && (← atMark .openBracket) then
          bump
          let index ← withMembership (read .expression)
          expect .closeBracket
          return (.node (.member optional) base.line [base, index], true)
        else if (chained || calls) && (← atMark .openParen) then
          let value ← call read base [] chained
          return (value, true)
        else if chained || (← eat .dot) then
          let name ← memberName
          return (.node (.member optional) base.line [base, name], true)
        else if base.kind? = some .superReference then
          if calls then fail .invalidSuper else fail .invalidSuperCall
        else if base.kind? = some .importReference then fail .importNotAllowed
        else if ← atTemplate then
          let value ← taggedTemplate read base []
          return (value, true)
        else return (base, false)

/-- Everything that is called or accessed behind an expression. -/
def subscripts (base : Phrase) (calls brackets : Bool) : Reading Phrase :=
  iterate (subscript read calls brackets) base

/-- An expression that starts with `import`. -/
def importExpression (calls : Bool) : Reading Phrase := do
  let line ← currentLine
  bump
  if ← eat .dot then
    let (name, _) ← word
    if name = "meta" then subscripts read (.node .metaProperty line []) calls true
    else if name = "defer" || name = "source" then
      subscripts read (.node .importReference line []) calls true
    else unexpected "meta"
  else subscripts read (.node .importReference line []) calls true

/-! ## Arrow functions and parentheses -/

/-- An item of a list in parentheses. -/
inductive GroupItem where
  | expression (value : Phrase)
  | parameter (pattern : Phrase)

/-- The items of a list in parentheses as parameters.  Only the last may be a rest parameter. -/
def groupParameters : List GroupItem → Reading (List Phrase)
  | [] => return []
  | [item] => do
      match item with
      | .expression (.node .spread line [value]) =>
          let pattern ← asPattern false value
          return [.node .rest line [pattern]]
      | .expression value => (fun p => [p]) <$> asPattern false value
      | .parameter pattern => return [pattern]
  | item :: items => do
      let first ← match item with
        | .expression (.node .spread _ _) => pure []
        | .expression value => (fun p => [p]) <$> asPattern false value
        | .parameter (.node .rest _ _) => pure []
        | .parameter pattern => pure [pattern]
      let others ← groupParameters items
      return first ++ others

/-- The phrase of an arrow function. -/
def arrowPhrase (line : Nat) (values : List Phrase) (body : Phrase) (types : List Phrase)
    (result : Option Phrase) : Phrase :=
  .node (.arrow result.isSome) line (values ++ [body] ++ types ++ result.toList)

/-- An arrow function, from behind its arrow on. -/
def arrowFunction (line : Nat) (asynchronous : Bool) (values types : List Phrase)
    (result : Option Phrase) : Reading Phrase := do
  let body ← arrowBody read asynchronous
  return arrowPhrase line values body types result

/-- An arrow function with the type parameters in front of it, which replace those that it has. -/
def withTypeParameters (types : List Phrase) : Phrase → Phrase
  | .node (.arrow typed) line parts =>
      let (front, result) := parts.splitAt (if typed then parts.length - 1 else parts.length)
      let front := front.filter fun part => part.kind? ≠ some .typeParameter
      .node (.arrow typed) line (front ++ types ++ result)
  | phrase => phrase

/-- An operand and the binary operators behind it.  An operand that is missing in front of an
operator is passed over. -/
def binary (arrow : Bool) : Reading Phrase := do
  let c ← cursor
  let left ← fun s start =>
    match read (.unary arrow) s start with
    | .done left next => .done left next
    | .failed fault next =>
        if isOperator next.token || next.isKeyword "in" || next.isKeyword "instanceof" then
          .done (.node .missing c.line []) next
        else .failed fault next
  if left.isArrow then return left else read (.operations left 0)

/-- What an assignment assigns to. -/
def assignmentTarget (plain : Bool) (left : Phrase) : Reading Phrase := do
  match left.kind? with
  | some .object | some .array =>
      if plain then asPattern true left else failWith ⟨left.line, .invalidAssignmentTarget⟩
  | some (.identifier _) | some (.member _) | some .parenthesized | some .asserted
  | some .nonNull | some .instantiation => return left
  | some (.call true) => return left
  | _ => failWith ⟨left.line, .invalidAssignmentTarget⟩

/-- The rest of an assignment, if an assignment operator stands here. -/
def finishAssignment (left : Phrase) : Reading Phrase := do
  match (← cursor).token with
  | .mark m =>
      if m.isAssignment then
        let target ← assignmentTarget (m = .assign) left
        bump
        let right ← read .assignment
        return .node (.assignment (m = .assign)) left.line [target, right]
      else return left
  | _ => return left

/-- The branches of a conditional expression, from behind the question mark on. -/
def branches : Reading (List Phrase) := do
  let met ← under
    (fun s => { s with inConditional := true, colonAwaited := true, membership := true })
    (read .assignment)
  expect .colon
  let unmet ← under (fun s => { s with inConditional := true, colonAwaited := false })
    (read .assignment)
  return [met, unmet]

/-- An expression in a list in parentheses. -/
def groupArgument (arrow : Bool) : Reading Phrase := do
  let c ← cursor
  if c.token.isReference then
    let value ← binary read arrow
    finishAssignment read value
  else if c.isMark .ellipsis && c.next.token.isReference then
    bump
    let value ← binary read false
    return .node .spread c.line [value]
  else spreadable read

/-- An item of a list in parentheses. -/
def groupItem : Reading GroupItem := do
  let modified ← eatAccessModifier
  let argument ← groupArgument read !modified
  let (spread, core) := match argument with
    | .node .spread _ [value] => (true, value)
    | value => (false, value)
  let c ← cursor
  let follows := c.next
  let optional := c.isMark .question && (follows.isMark .comma || follows.isMark .assign ||
    follows.isMark .closeParen || follows.isMark .colon)
  if optional then
    bump
    if core.identifier?.isNone then failWith ⟨argument.line, .optionalPattern⟩
  let argument ←
    if !optional && !spread && c.isMark .question then do
      bump
      let parts ← branches read
      pure (Phrase.node .conditional argument.line (argument :: parts))
    else pure argument
  if optional || (← atMark .colon) then
    let core := match argument with
      | .node .spread _ [value] => value
      | value => value
    let pattern ← asPattern false core
    let pattern := if spread then Phrase.node .rest argument.line [pattern] else pattern
    let annotated := match pattern.kind? with
      | some (.identifier _) | some .arrayPattern | some .objectPattern | some .rest => true
      | _ => false
    let type ← if annotated then typeBehind? read else pure []
    let pattern := pattern.append type
    if ← eat .assign then
      let value ← read .assignment
      return .parameter (.node .defaulted pattern.line [pattern, value])
    else return .parameter pattern
  else return .expression argument

/-- The items of a list in parentheses. -/
def groupItems : Reading (List GroupItem) := do
  expect .openParen
  let items ← iterate (fun items => do
    if ← atMark .closeParen then return (items, false)
    else do
      let line ← currentLine
      let item ← groupItem read
      let items := items ++ [item]
      let startsWithName := match items.head? with
        | some (.expression value) | some (.parameter value) => value.identifier?.isSome
        | none => false
      let items ←
        if ← eat .arrow then
          if startsWithName then do
            let values ← groupParameters items
            let function ← arrowFunction read line false values [] none
            pure (items ++ [.expression function])
          else pure items
        else pure items
      if !(← atMark .closeParen) then expect .comma
      return (items, true)) []
  expect .closeParen
  return items

/-- The expressions of a list in parentheses that holds no parameters. -/
def groupExpressions : List GroupItem → Reading (List Phrase)
  | [] => return []
  | .expression value :: items => (value :: ·) <$> groupExpressions items
  | .parameter pattern :: _ => failWith ⟨pattern.line, .notAnExpression⟩

/-- Expressions in parentheses. -/
def parenthesized (line : Nat) (values : List Phrase) : Reading Phrase := do
  let spread := values.findSome? fun value => match value with
    | .node .spread _ [inner] => some inner.line
    | _ => none
  match spread, values with
  | some line, _ => failWith ⟨line, .spreadInParentheses⟩
  | none, [] => failWith ⟨line, .emptyParentheses⟩
  | none, [value] => return .node .parenthesized line [value]
  | none, values => return .node .parenthesized line [.node .sequence line values]

/-- Expressions in parentheses, or an arrow function; `asyncLine` is where the word `async` stands,
if it stands in front. -/
def group (arrow : Bool) (asyncLine : Option Nat) : Reading Phrase := do
  let s ← setting
  let line := asyncLine.getD (← currentLine)
  let items ← bracketed (withMembership (groupItems read))
  let nested ←
    if s.inConditional && (← atMark .colon) then
      attempt do
        let result ← returnType read .colon
        expect .arrow
        let values ← groupParameters items
        let function ← arrowFunction read line asyncLine.isSome values [] (some result)
        if s.colonAwaited && !(← atMark .colon) then return none else return some function
    else pure none
  match nested with
  | some function => return function
  | none =>
      let result ←
        if !s.colonAwaited && (← atMark .colon) then
          attempt do
            let result ← returnType read .colon
            if ← atMark .arrow then return some result else return none
        else pure none
      let hasParameter := items.any fun item => match item with
        | .parameter _ => true
        | .expression _ => false
      if hasParameter || result.isSome || (← atMark .arrow) then
        if ← lineBroke then failWith ⟨line, .lineBreakBeforeArrow⟩
        if !arrow then failWith ⟨line, .arrowNotAllowed⟩
        expect .arrow
        let values ← groupParameters items
        let body ← arrowBody read asyncLine.isSome
        let function := arrowPhrase line values body [] result
        if body.kind? = some .block && isOperator (← cursor).token then
          read (.operations function 0)
        else return function
      else do
        let values ← groupExpressions items
        match asyncLine with
        | some line =>
            return .node (.call false) line (.node (.identifier "async") line [] :: values)
        | none => parenthesized line values

/-- An asynchronous arrow function with type parameters, from its type parameters on. -/
def genericAsyncArrow (line : Nat) : Reading (Option Phrase) := do
  let types ← typeParameters read
  expect .openParen
  let values ← parameters read
  expect .closeParen
  let result ← returnType? read
  expect .arrow
  some <$> arrowFunction read line true (values.filterMap patternOf?) types result.head?

/-! ## Primary expressions -/

/-- What starts with a word that can be a variable. -/
def reference (arrow : Bool) : Reading Phrase := do
  let c ← cursor
  let name ← boundName
  let n ← cursor
  if arrow && c.isKeyword "async" && !n.broke && n.token.isReference then
    if (← setting).loopHead && n.isKeyword "of" && !n.next.isMark .arrow then return name
    else do
      let parameter ← boundName
      if n.isKeyword "as" && !(← atMark .arrow) then
        let type ← read .type
        return .node .asserted c.line [name, type]
      else do
        expect .arrow
        arrowFunction read c.line true [parameter] [] none
  else if arrow && !n.broke && n.isMark .arrow then
    bump
    arrowFunction read c.line false [name] [] none
  else return name

/-- A class, with the decorators in front of it. -/
def classExpression : Reading Phrase := do
  let line ← currentLine
  let marks ← decorators read false
  if ← atKeyword "class" then classPhrase read .classBody line marks false
  else fail .expectedExpression

/-- What starts with `async`, unless it is a variable of that name. -/
def asyncExpression? (arrow : Bool) : Reading (Option Phrase) := do
  let c ← cursor
  let n := c.next
  if n.isKeyword "function" && !n.broke then
    bump
    some <$> function read .function c.line true false []
  else do
    let generic ←
      if arrow && n.isMark .less then
        attempt do
          bump
          genericAsyncArrow read c.line
      else pure none
    match generic with
    | some function => return some function
    | none =>
        if arrow && n.isMark .openParen && !n.broke then
          bump
          some <$> group read arrow (some c.line)
        else return none

/-- An expression that consists of one token. -/
def single (kind : Kind) : Reading Phrase := do
  let line ← currentLine
  bump
  return .node kind line []

/-- A primary expression; `arrow` says whether it may be an arrow function. -/
def primary (arrow : Bool) : Reading Phrase := do
  let c ← cursor
  match c.token with
  | .string value => single (.string value)
  | .number => single .number
  | .bigInt => single .bigInt
  | .template _ _ =>
      let parts ← bracketed (template false (withMembership (read .expression)))
      return .node .template c.line parts
  | .mark .openParen => group read arrow none
  | .mark .openBracket => bracketed (array read)
  | .mark .openBrace => bracketed (object read)
  | .mark .at => classExpression read
  | .mark .hash => privateValue
  | .mark m =>
      if m = .slash || m = .slashAssign then
        move (·.reread (Lexeme.regularExpression c.text c.line))
        match (← cursor).token with
        | .bad fault => failWith fault
        | _ => single .regularExpression
      else fail .expectedExpression
  | .word _ _ =>
      if c.isKeyword "this" then single .thisReference
      else if c.isKeyword "null" then single .null
      else if c.isKeyword "true" || c.isKeyword "false" then single .boolean
      else if c.isKeyword "function" then function read .function c.line false false []
      else if c.isKeyword "class" then classExpression read
      else do
        let special ← if c.isKeyword "async" then asyncExpression? read arrow else pure none
        match special with
        | some phrase => return phrase
        | none =>
            if c.isKeyword "let" || c.token.isReference then reference read arrow
            else fail .expectedExpression
  | _ => fail .expectedExpression

/-! ## Left-hand sides -/

/-- Type arguments that no call follows; they make an expression of their own. -/
def instantiation? : Reading (Option (List Phrase)) := attempt do
  let types ← typeArguments read
  let c ← cursor
  let continues := (← atTemplate) || c.isMark .openParen || c.isMark .less || c.isMark .greater ||
    c.isMark .plus || c.isMark .minus
  if continues then return none
  else if c.broke || isOperator c.token || !startsExpression c.token then return some types
  else return none

/-- A left-hand side without calls. -/
def construction (arrow : Bool) : Reading Phrase := do
  let c ← cursor
  if c.isKeyword "new" then
    bump
    if ← eat .dot then
      if ← eatKeyword "target" then subscripts read (.node .metaProperty c.line []) false true
      else unexpected "target"
    else do
      let callee ← read .construction
      if callee.isArrow then return callee
      else do
        if isOptional callee then failWith ⟨callee.line, .optionalConstruction⟩
        let types ←
          if ← atTypeArguments then
            attempt do
              let types ← typeArguments read
              if ← atMark .openParen then return some types else return none
          else pure none
        let types := types.getD []
        if ← atMark .openParen then
          let values ← arguments read
          subscripts read (.node (.construct true) c.line (callee :: values ++ types)) false true
        else return .node (.construct false) c.line (callee :: types)
  else if c.isKeyword "super" then
    bump
    subscripts read (.node .superReference c.line []) false true
  else if c.isKeyword "import" then importExpression read false
  else do
    let base ← primary read arrow
    if base.isArrow then return base
    else do
      let types ← if ← atTypeArguments then instantiation? read else pure none
      match types with
      | some types => subscripts read (.node .instantiation base.line (base :: types)) false true
      | none => subscripts read base false true

/-- What can stand in front of an assignment operator. -/
def leftHand (arrow : Bool) : Reading Phrase := do
  let c ← cursor
  if (← setting).markup && c.isMark .less then read (.markup false)
  else if c.isKeyword "super" then
    bump
    subscripts read (.node .superReference c.line []) true true
  else if c.isKeyword "import" then importExpression read true
  else do
    let callee ← construction read arrow
    if callee.isArrow then return callee
    else do
      let types ←
        if ← atTypeArguments then
          attempt do
            let types ← typeArguments read
            if ← atMark .openParen then return some types else return none
        else pure none
      if callee.kind? = some (.construct false) then
        if types.isSome then expect .openParen
        return callee
      else if ← atMark .openParen then
        let value ← call read callee (types.getD []) false
        subscripts read value true true
      else return callee

/-! ## Operators -/

/-- An expression that waits, from the word `await` on.  Outside of asynchronous functions the word
is a name where no operand can follow. -/
def awaitExpression : Reading Phrase := do
  let line ← currentLine
  bump
  let c ← cursor
  if c.isMark .star then fail .awaitStar
  else if !(← setting).asynchronous &&
      (c.endsStatement || c.isMark .closeParen || c.isMark .closeBracket || c.isMark .comma) then
    return .node (.identifier "await") line []
  else do
    let value ← read (.unary false)
    return .node .await line [value]

/-- A type assertion in angle brackets. -/
def assertion : Reading Phrase := do
  let line ← currentLine
  bump
  if ← eatKeyword "const" then
    expect .greater
    let value ← read (.unary false)
    return .node .constAsserted line [value]
  else do
    let type ← read .type
    expect .greater
    let value ← read (.unary false)
    return .node .asserted line [value, type]

/-- An operand with the unary operators in front of it. -/
def unary (arrow : Bool) : Reading Phrase := do
  let c ← cursor
  let isPrefix := c.isMark .plus || c.isMark .minus || c.isMark .tilde || c.isMark .bang ||
    c.isKeyword "typeof" || c.isKeyword "void" || c.isKeyword "delete"
  if c.isMark .less && !(← setting).markup then assertion read
  else if c.isMark .increment || c.isMark .decrement then
    bump
    let value ← read (.unary false)
    return .node .update c.line [value]
  else if isPrefix then
    bump
    let line ← currentLine
    let value ← lenient (read (.unary false))
    return .node (if c.isKeyword "delete" then .deletion else .unary) c.line
      [value.getD (.node .missing line [])]
  else if c.isKeyword "await" then awaitExpression read
  else do
    let value ← leftHand read arrow
    if value.isArrow || (← lineBroke) then return value
    else if (← atMark .increment) || (← atMark .decrement) then
      bump
      return .node .update value.line [value]
    else return value

/-- One binary operator with its right operand, if it binds more tightly than `strength`. -/
def operation (strength : Nat) (left : Phrase) : Reading (Phrase × Bool) := do
  let c ← cursor
  if !c.broke && strength < 7 && (c.isKeyword "as" || c.isKeyword "satisfies") then
    bump
    if c.isKeyword "as" && (← atKeyword "const") then
      bump
      return (.node .constAsserted left.line [left], true)
    else do
      let type ← read .type
      return (.node .asserted left.line [left, type], true)
  else do
    move Cursor.joinGreater
    let c ← cursor
    let found :=
      if c.isKeyword "instanceof" || (c.isKeyword "in" && (← setting).membership) then some 7
      else match c.token with
        | .mark m => m.strength?
        | _ => none
    match found with
    | none => return (left, false)
    | some found =>
        if found ≤ strength then return (left, false)
        else do
          bump
          let isPower := c.isMark .power
          let kind := left.kind?
          if isPower && (kind = some .unary || kind = some .deletion || kind = some .await) then
            fail .unaryBeforePower
          let first ← read (.unary false)
          let right ← read (.operations first (if isPower then found - 1 else found))
          return (.node .binary left.line [left, right], true)

/-- The binary operators behind an operand that bind more tightly than `strength`. -/
def operations (left : Phrase) (strength : Nat) : Reading Phrase :=
  iterate (operation read strength) left

/-- A binary expression, or a conditional expression with one as its condition. -/
def conditional (arrow : Bool) : Reading Phrase := do
  let test ← binary read arrow
  if test.isArrow then return test
  else if ← eat .question then
    let parts ← branches read
    return .node .conditional test.line (test :: parts)
  else return test

/-- An expression that gives a value to the caller of a generator. -/
def yieldExpression : Reading Phrase := do
  let line ← currentLine
  bump
  let c ← cursor
  if c.endsStatement || !(c.isMark .star || startsExpression c.token) then
    return .node .yield line []
  else do
    let _ ← eat .star
    let value ← read .assignment
    return .node .yield line [value]

/-- An assignment, or an expression that is none. -/
def plainAssignment : Reading Phrase := do
  let c ← cursor
  if (← setting).generator && c.isKeyword "yield" then yieldExpression read
  else
    match c.token with
    | .bad fault => failWith fault
    | _ =>
        let arrow := c.isMark .openParen || c.token.isReference
        let left ← conditional read arrow
        match left.kind? with
        | some (.arrow _) | some .conditional | some .binary | some .unary | some .deletion
        | some .update => return left
        | _ => finishAssignment read left

/-- Whether an angle bracket opens type parameters in a module with markup: only if something
follows the first name that no attribute can start with. -/
def startsTypeParameters : Reading Bool := lookAhead do
  bump
  let _ ← eatKeyword "const"
  let _ ← word
  let c ← cursor
  let n := c.next
  if c.isMark .comma || c.isMark .assign then return true
  else return c.isKeyword "extends" && !(n.isMark .assign || n.isMark .greater || n.isMark .slash)

/-- An assignment, or an arrow function with type parameters. -/
def assignment : Reading Phrase := do
  let c ← cursor
  let generic ←
    if c.isMark .less && c.next.token.isWord &&
        (!(← setting).markup || (← startsTypeParameters)) then
      attempt (bracketed do
        let types ← typeParameters read
        let value ← plainAssignment read
        if value.isArrow then return some (withTypeParameters types value) else return none)
    else pure none
  match generic with
  | some function => return function
  | none => plainAssignment read

/-- Assignments separated by commas. -/
def expression : Reading Phrase := do
  let first ← read .assignment
  if ← atMark .comma then
    let others ← collect (eat .comma) (read .assignment)
    return .node .sequence first.line (first :: others)
  else return first

end Grammar

end AddonRegistry.TypeScript
