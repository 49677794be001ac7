import AddonRegistry.TypeScript.Grammar.Declarations

/-!
# Statements

Statements and blocks.

A statement that is a variable alone may be a label, or the first word of a declaration
(`declarationBehind?`).  Where an expression is followed by an operator it cannot be an operand of,
the operator is read all the same.
-/

namespace AddonRegistry.TypeScript

open Reading

namespace Grammar

variable (read : Reader)

/-- A block.  The end of the text closes it too. -/
def block : Reading Phrase := do
  let line ← currentLine
  expect .openBrace
  let statements ← collect (do return !(← atEnd) && !(← atMark .closeBrace))
    (read (.statement true))
  let _ ← eat .closeBrace
  return .node .block line statements

/-- A condition or other expression in parentheses. -/
def headExpression : Reading Phrase := do
  expect .openParen
  let value ← withMembership (read .expression)
  expect .closeParen
  return value

/-! ## Branches -/

/-- An `if` statement.  The closing parenthesis of its condition may be missing. -/
def branch (line : Nat) : Reading Phrase := do
  bump
  expect .openParen
  let test ← withMembership (read .expression)
  let _ ← eat .closeParen
  let met ← read (.statement false)
  if ← eatKeyword "else" then
    let unmet ← read (.statement false)
    return .node .branch line [test, met, unmet]
  else return .node .branch line [test, met]

/-- Whether a case of a `switch` statement starts here. -/
def atCase : Reading Bool := do
  return (← atKeyword "case") || (← atKeyword "default")

/-- One case of a `switch` statement; `defaulted` says whether there was a default case before. -/
def switchCase (defaulted : Bool) : Reading (Phrase × Bool) := do
  let line ← currentLine
  let isDefault ← atKeyword "default"
  bump
  let test ← if isDefault then pure [] else (fun v => [v]) <$> withMembership (read .expression)
  if isDefault && defaulted then fail .repeatedDefault
  expect .colon
  let statements ← collect
    (do return !(← atCase) && !(← atMark .closeBrace) && !(← atEnd)) (read (.statement true))
  return (.node .switchClause line (test ++ statements), defaulted || isDefault)

/-- A `switch` statement. -/
def switchStatement (line : Nat) : Reading Phrase := do
  bump
  let value ← headExpression read
  expect .openBrace
  let (cases, _) ← iterate (fun (cases, defaulted) => do
    if ← atCase then
      let (next, defaulted) ← switchCase read defaulted
      return ((next :: cases, defaulted), true)
    else return ((cases, defaulted), false)) ([], false)
  expect .closeBrace
  return .node .switchStatement line (value :: cases.reverse)

/-! ## Loops -/

/-- A `do` loop.  Its condition comes before its body. -/
def doLoop (line : Nat) : Reading Phrase := do
  bump
  let body ← read (.statement false)
  expectKeyword "while"
  let test ← headExpression read
  let _ ← eatStatementEnd
  return .node .loop line [test, body]

/-- Whether the head of a loop names what the loop runs over next. -/
def atRange : Reading Bool := do
  return (← atKeyword "of") || (← atKeyword "in")

/-- What stands between the parentheses of a `for` loop. -/
structure LoopHead where
  parts : List Phrase
  /-- Whether the loop runs over the elements of something, with `of`. -/
  overElements : Bool

/-- A loop that runs over something, from the word `of` or `in` on. -/
def range (target : Phrase) : Reading LoopHead := do
  let isOf ← atKeyword "of"
  bump
  let values ← withMembership (read (if isOf then .assignment else .expression))
  return ⟨[target, values], isOf⟩

/-- A loop that counts, from its test on. -/
def counted (first : List Phrase) : Reading LoopHead := do
  let test ←
    if ← eat .semicolon then pure []
    else do
      let test ← withMembership (read .expression)
      let _ ← eat .semicolon
      pure [test]
  let step ←
    if ← atMark .closeParen then pure [] else (fun v => [v]) <$> withMembership (read .expression)
  return ⟨first ++ test ++ step, false⟩

/-- Whether the keyword of a declaration is followed at once by what the loop runs over, as in
`for (var of x)`. -/
def emptyDeclaration : Reading Bool := lookAhead do
  bump
  if ← atRange then
    bump
    let _ ← read .assignment
    expect .closeParen
    return true
  else return false

/-- The head of a `for` loop. -/
def loopHead : Reading LoopHead := do
  let c ← cursor
  let lexical ← startsLexical
  if c.isKeyword "const" || c.isKeyword "var" || (c.isKeyword "let" && lexical) then
    let empty ← emptyDeclaration read
    let declaration ←
      if empty then do
        bump
        pure (Phrase.node .variableList c.line [])
      else variableList read c.line true
    if ← atRange then range read declaration
    else do
      expect .semicolon
      counted read [declaration]
  else if ← eat .semicolon then counted read []
  else do
    let first ← under (fun s => { s with membership := false }) (read .expression)
    let n ← peek
    let disposable := first.identifier? = some "using" ||
      (first.kind? = some .await && first.parts.any (·.identifier? = some "using"))
    if disposable && !(← atKeyword "of") && (n.isKeyword "of" || n.isKeyword "in") then
      let name ← boundName
      range read name
    else if ← atRange then
      let target ← match first.kind? with
        | some .object | some .array => asPattern true first
        | _ => pure first
      range read target
    else do
      expect .semicolon
      counted read [first]

/-- A `for` loop.  The word `await` belongs to loops over elements only. -/
def forLoop (line : Nat) : Reading Phrase := do
  bump
  let awaitLine ← currentLine
  let awaited ← eatKeyword "await"
  expect .openParen
  let head ← under (fun s => { s with loopHead := true }) (loopHead read)
  expect .closeParen
  let body ← read (.statement false)
  if awaited && !head.overElements then failWith ⟨awaitLine, .forAwaitOutsideOf⟩
  return .node .loop line (head.parts ++ [body])

/-! ## Other statements -/

/-- A `catch` clause, if one stands here. -/
def catchClause : Reading (List Phrase) := do
  let line ← currentLine
  if ← eatKeyword "catch" then
    let parameter ←
      if ← eat .openParen then do
        let target ← read .pattern
        let type ← typeBehind? read
        expect .closeParen
        pure (target :: type)
      else pure []
    let body ← read .block
    return [.node .handler line (parameter ++ [body])]
  else return []

/-- A `finally` clause, if one stands here. -/
def finallyClause : Reading (List Phrase) := do
  if ← eatKeyword "finally" then (fun b => [b]) <$> read .block else return []

/-- The rest of a statement that starts with an expression. -/
def expressionStatement (line : Nat) (marks : List Phrase) : Reading Phrase := do
  let value ← withMembership (read .expression)
  let name := value.identifier?
  if name.isSome && (← eat .colon) then
    let body ←
      if ← atKeyword "function" then
        function read .functionDeclaration (← currentLine) false true []
      else read (.statement false)
    return .node .labelled line [value, body]
  else do
    let found ← match name with
      | some name => declarationBehind? read line marks name
      | none => pure none
    match found with
    | some declaration => return declaration
    | none =>
        let startsInterface := name = some "abstract" || name = some "public" ||
          name = some "static"
        if startsInterface && (← eatKeyword "interface") then interface read line
        else if ← eatStatementEnd then return .node .expressionStatement line [value]
        else if isOperator (← cursor).token then
          let value ← read (.operations value 0)
          return .node .expressionStatement line [value]
        else fail .unterminatedStatement

/-- A statement, behind the decorators in front of it. -/
def statementBehind (declarations : Bool) (line : Nat) (marks : List Phrase) :
    Reading Phrase := do
  let c ← cursor
  let n := c.next
  match c.token with
  | .mark .openBrace => read .block
  | .mark .semicolon => single .empty
  | .word _ (some keyword) =>
      match keyword with
      | "break" | "continue" =>
          bump
          if ← eatStatementEnd then return .node .jump line []
          else do
            let _ ← boundName
            endStatement
            return .node .jump line []
      | "debugger" =>
          bump
          endStatement
          return .node .empty line []
      | "do" => doLoop read line
      | "for" => forLoop read line
      | "function" => function read .functionDeclaration line false true marks
      | "class" => classPhrase read .classDeclaration line marks true
      | "if" => branch read line
      | "return" =>
          bump
          let value ←
            if ← atStatementEnd then pure []
            else (fun v => [v]) <$> withMembership (read .expression)
          endStatement
          return .node .jump line value
      | "switch" => switchStatement read line
      | "throw" =>
          bump
          if ← lineBroke then fail .lineBreakAfterThrow
          let value ← withMembership (read .expression)
          endStatement
          return .node .jump line [value]
      | "catch" | "finally" =>
          let _ ← lenient (catchClause read)
          let _ ← lenient (finallyClause read)
          return .node .empty line []
      | "try" =>
          bump
          let body ← read .block
          let caught ← catchClause read
          let final ← finallyClause read
          return .node .guarded line (body :: caught ++ final)
      | "with" =>
          bump
          let value ← headExpression read
          let body ← read (.statement false)
          return .node .scopeExtension line [value, body]
      | "while" =>
          bump
          let test ← headExpression read
          let body ← read (.statement false)
          return .node .loop line [test, body]
      | "var" => variableList read line false
      | "const" =>
          if n.isKeyword "enum" then
            bump
            bump
            enumeration read line
          else if declarations then variableList read line false
          else expressionStatement read line marks
      | "let" =>
          if declarations && (← startsLexical) then variableList read line false
          else expressionStatement read line marks
      | "using" =>
          match ← if declarations then disposables? read line else pure none with
          | some declaration => return declaration
          | none => expressionStatement read line marks
      | "await" =>
          if n.isKeyword "using" then
            bump
            match ← disposables? read line with
            | some declaration => return declaration
            | none =>
                let value ← read (.unary false)
                let value ← withMembership
                  (read (.operations (.node .await line [value]) 0))
                let _ ← eatStatementEnd
                return .node .expressionStatement line [value]
          else expressionStatement read line marks
      | "interface" =>
          if n.token.isWord && !n.broke then
            bump
            interface read line
          else expressionStatement read line marks
      | "enum" =>
          if n.token.isWord && !n.broke then
            bump
            enumeration read line
          else expressionStatement read line marks
      | "async" =>
          if n.isKeyword "function" && !n.broke then
            bump
            function read .functionDeclaration line true true marks
          else expressionStatement read line marks
      | _ => expressionStatement read line marks
  | _ => expressionStatement read line marks

/-- An expression that starts with `import`, if one stands here. -/
def importStatement? (line : Nat) : Reading (Option Phrase) := do
  let n ← peek
  if (← atKeyword "import") && (n.isMark .openParen || n.isMark .dot) then
    let value ← read .expression
    let _ ← eatStatementEnd
    return some (.node .expressionStatement line [value])
  else return none

/-- A statement. -/
def statement (declarations : Bool) : Reading Phrase := do
  let line ← currentLine
  let marks ← decorators read true
  match ← importStatement? read line with
  | some found => return found
  | none =>
      if (← atKeyword "import") || (← atKeyword "export") then fail .importOutsideModule
      else statementBehind read declarations line marks

end Grammar

end AddonRegistry.TypeScript
