import AddonRegistry.TypeScript.Grammar.Statements

/-!
# Imports and exports

The items of a module that say what it takes from others and what it gives them.

The word `type` in front of a name marks what is only a type; in a list it can also be a name
itself, and so can the word `as` (`listedName`).

After `export`, a declaration that starts with a word that is not reserved is only tried out: if
it cannot be read, what stands there is read as a list of names.
-/

namespace AddonRegistry.TypeScript

open Reading

namespace Grammar

variable (read : Reader)

/-! ## Parts of imports and exports -/

/-- The module that something is taken from. -/
def moduleSpecifier : Reading Unit := do
  match (← cursor).token with
  | .string _ => bump
  | _ => unexpected "a string literal"

/-- Attributes of an import, which start on the line of the module specifier. -/
def importAttributes : Reading (List Phrase) := do
  let c ← cursor
  if !c.broke && (c.isKeyword "assert" || c.isKeyword "with") then
    bump
    (fun o => [o]) <$> read .object
  else return []

/-- The module that something is exported from, with the end of the statement. -/
def fromClause : Reading (List Phrase) := do
  expectKeyword "from"
  moduleSpecifier
  let attributes ← importAttributes read
  let _ ← eatStatementEnd
  return attributes

/-- A name in a list of imports or exports, which may be a string. -/
def exportedName : Reading Phrase := do
  let c ← cursor
  match c.token with
  | .string value =>
      bump
      return .node (.string value) c.line []
  | .word _ _ => nameWord
  | _ => unexpected "identifier or string"

/-- A name with the name it is given by `as`.  The word `type` can be a mark or one of the names,
and the word `as` too; `renamed` reads a name behind `as`, and `single` checks a name that is not
renamed. -/
def listedName (renamed : Reading Phrase) (single : Phrase → Reading Unit) :
    Reading (List Phrase) := do
  let first ← exportedName
  if first.identifier? = some "type" && (← atWord) then
    let second ← nameWord
    if second.identifier? = some "as" then
      if !(← atWord) then return [second]
      else do
        let third ← renamed
        if third.identifier? = some "as" && (← atWord) then
          let fourth ← renamed
          return [second, fourth]
        else return [first, third]
    else afterName second
  else afterName first
where
  /-- The name that a name is given, if it is given one. -/
  afterName (name : Phrase) : Reading (List Phrase) := do
    if ← eatKeyword "as" then
      let other ← renamed
      return [name, other]
    else do
      single name
      return [name]

/-- A name in a list of imports. -/
def importName : Reading Phrase := do
  let line ← currentLine
  let names ← listedName boundName fun name =>
    match name with
    | .node (.string value) line _ => failWith ⟨line, .stringImportBinding (value.getD "")⟩
    | _ => return ()
  return .node .keyValue line names

/-- A name in a list of exports. -/
def exportName : Reading Phrase := do
  let line ← currentLine
  let names ← listedName exportedName fun _ => return ()
  return .node .keyValue line names

/-! ## Imports -/

/-- An alias of a module or namespace, from the equals sign on. -/
def importAlias (line : Nat) (name : Phrase) : Reading Phrase := do
  expect .assign
  let n ← peek
  if (← atKeyword "require") && n.isMark .openParen then
    bump
    bump
    moduleSpecifier
    expect .closeParen
  else let _ ← dottedName false
  endStatement
  return .node .importAlias line [name]

/-- What an import with names has read before its list. -/
inductive ImportStart where
  /-- The whole import, which is an alias. -/
  | complete (phrase : Phrase)
  /-- The name of the default export, or none. -/
  | names (parts : List Phrase)

/-- Whether the name that stands here follows a mark in front of it, rather than being the word
`from` in front of a module specifier. -/
def atMarkedName : Reading Bool := do
  let n ← peek
  return (← atReference) && (!(← atKeyword "from") || n.isKeyword "from")

/-- The name that the default export is imported as, if one stands here. -/
def importStart (line : Nat) : Reading ImportStart := do
  if !(← atReference) then return .names []
  else do
    let first ← boundName
    let isType := first.identifier? = some "type"
    if isType && ((← atMark .openBrace) || (← atMark .star)) then return .names []
    else do
      let n ← peek
      let isAlias := (← atKeyword "from") && n.isMark .assign
      let name ←
        if isType && ((← atMarkedName) || isAlias) then boundName else pure first
      if ← atMark .assign then .complete <$> importAlias line name
      else do
        let isPhase := name.identifier? = some "source" || name.identifier? = some "defer"
        if isPhase && (← atMark .star) then return .names []
        else do
          let name ← if isPhase && (← atMarkedName) then boundName else pure name
          if !(← atKeyword "from") then expect .comma
          return .names [name]

/-- An import. -/
def importDeclaration : Reading Phrase := do
  let line ← currentLine
  match ← importStatement? read line with
  | some found => return found
  | none =>
      bump
      match (← cursor).token with
      | .string _ =>
          bump
          let attributes ← importAttributes read
          let _ ← eatStatementEnd
          return .node .importDeclaration line attributes
      | _ =>
          match ← importStart line with
          | .complete phrase => return phrase
          | .names first =>
              let others ←
                if ← eat .star then do
                  expectKeyword "as"
                  let name ← boundName
                  pure [name]
                else if ← eat .openBrace then do
                  let names ← listed .closeBrace importName
                  expect .closeBrace
                  pure names
                else pure []
              expectKeyword "from"
              moduleSpecifier
              let attributes ← importAttributes read
              endStatement
              return .node .importDeclaration line (first ++ others ++ attributes)

/-! ## Exports -/

/-- What follows `export default`. -/
def exportDefault (line : Nat) (marks : List Phrase) : Reading Phrase := do
  let decoratorLine ← currentLine
  let later ← if ← atMark .at then decorators read false else pure []
  if !later.isEmpty && !marks.isEmpty then failWith ⟨decoratorLine, .repeatedDecorators⟩
  let marks := marks ++ later
  let c ← cursor
  let n := c.next
  let start ← currentLine
  if c.isKeyword "abstract" && n.isKeyword "class" && !n.broke then
    bump
    let value ← classPhrase read .classDeclaration start marks false
    return .node .exportDefault line [value]
  else do
    if c.isKeyword "abstract" && n.isKeyword "interface" then bump
    let start ← currentLine
    if ← eatKeyword "interface" then
      let value ← interface read start
      return .node .exportDefault line [value]
    else if ← atKeyword "class" then
      let value ← classPhrase read .classDeclaration start marks false
      return .node .exportDefault line [value]
    else if c.isKeyword "async" && n.isKeyword "function" && !n.broke then
      bump
      let value ← function read .functionDeclaration start true false marks
      return .node .exportDefault line [value]
    else if c.isKeyword "function" then
      let value ← function read .functionDeclaration start false false marks
      return .node .exportDefault line [value]
    else do
      let value ← withMembership (read .assignment)
      endStatement
      return .node .exportDefault line [value]

/-- A list of exported names, or everything that a module exports. -/
def exportNames (line : Nat) : Reading Phrase := do
  let n ← peek
  if (← atMark .star) && !n.isKeyword "as" then
    bump
    let attributes ← fromClause read
    return .node .exportNames line attributes
  else if ← eat .star then
    expectKeyword "as"
    let name ← exportedName
    if ← atKeyword "from" then
      let attributes ← fromClause read
      return .node .exportNames line (name :: attributes)
    else do
      expectKeyword "from"
      return .node .exportNames line [name]
  else do
    expect .openBrace
    let names ← listed .closeBrace exportName
    expect .closeBrace
    if ← atKeyword "from" then
      let attributes ← fromClause read
      return .node .exportNames line (names ++ attributes)
    else do
      let _ ← eatStatementEnd
      return .node .exportNames line names

/-- A declaration that is exported, or a list of exported names. -/
def exportedPhrase (line : Nat) (marks : List Phrase) : Reading Phrase := do
  let typesOnly ← eatKeyword "type"
  if !typesOnly && (← eatKeyword "default") then exportDefault read line marks
  else do
    let decoratorLine ← currentLine
    let later ← if ← atMark .at then decorators read false else pure []
    if !later.isEmpty && !marks.isEmpty then failWith ⟨decoratorLine, .repeatedDecorators⟩
    let marks := marks ++ later
    let c ← cursor
    let n := c.next
    let lexical ← startsLexical
    let declared (step : Reading Phrase) : Reading Phrase := do
      let value ← step
      return .node .exportDeclaration line [value]
    if typesOnly then exportNames read line
    else if c.isKeyword "class" then
      declared (classPhrase read .classDeclaration c.line marks true)
    else if c.isKeyword "async" && n.isKeyword "function" && !n.broke then
      bump
      declared (function read .functionDeclaration c.line true true marks)
    else if c.isKeyword "function" then
      declared (function read .functionDeclaration c.line false true marks)
    else if c.isKeyword "const" && n.isKeyword "enum" then
      bump
      bump
      declared (enumeration read c.line)
    else if c.isKeyword "var" || c.isKeyword "const" || (c.isKeyword "let" && lexical) then
      declared (variableList read c.line false)
    else exportNames read line

/-- An export. -/
def exportDeclaration (marks : List Phrase) : Reading Phrase := do
  let line ← currentLine
  bump
  if ← atEnd then fail .unexpectedEnd
  let start ← currentLine
  let announced ←
    if ← eatKeyword "declare" then announcement? read start marks else pure none
  match announced with
  | some declaration => return .node .exportDeclaration line [declaration]
  | none =>
      let c ← cursor
      let named ← match c.token with
        | .word name _ => attempt (declarationNamed? read c.line marks name true)
        | _ => pure none
      match named with
      | some declaration => return .node .exportDeclaration line [declaration]
      | none =>
          if ← eatKeyword "import" then
            let n ← peek
            if (← atKeyword "type") && n.token.isWord then bump
            let name ← nameWord
            importAlias line name
          else if ← eat .assign then
            let value ← read .expression
            endStatement
            return .node .exportAssignment line [value]
          else if ← eatKeyword "as" then
            expectKeyword "namespace"
            let name ← boundName
            endStatement
            return .node .exportNamespace line [name]
          else exportedPhrase read line marks

/-- An item of a module: a statement, an import or an export. -/
def item : Reading Phrase := do
  let line ← currentLine
  let marks ← decorators read true
  if ← atKeyword "import" then importDeclaration read
  else if ← atKeyword "export" then exportDeclaration read marks
  else statementBehind read true line marks

end Grammar

end AddonRegistry.TypeScript
