import AddonRegistry.TypeScript.Grammar.Expressions

/-!
# Declarations

Variables, enumerations, interfaces, type aliases, namespaces and module declarations.

The words that start a declaration of a type or module are no reserved words.  Where such a word
stands alone it is a variable; `declarationNamed?` reads on behind it, as far as what follows shows
that it starts a declaration.

* `variableList` — declarations with `var`, `let` and `const`.
* `announcement?` — what follows `declare`.
-/

namespace AddonRegistry.TypeScript

open Reading

namespace Grammar

variable (read : Reader)

/-! ## Variables -/

/-- One variable of a declaration.  A pattern needs an initial value unless the declaration is a
constant, an announcement, or the head of a loop. -/
def declarator (lexical constant inLoop : Bool) : Reading Phrase := do
  let line ← currentLine
  let target ← binding read lexical
  let isName := target.identifier?.isSome
  if isName then let _ ← eat .bang
  let type ← typeBehind? read
  let target := target.append type
  if inLoop && ((← atKeyword "in") || (← atKeyword "of")) then
    return .node .declarator line [target]
  else if ← eat .assign then
    let value ← read .assignment
    return .node .declarator line [target, value]
  else if isName || constant || (← setting).ambient then return .node .declarator line [target]
  else failWith ⟨line, .patternWithoutInitializer⟩

/-- The variables of a declaration.  A semicolon may cut the list off behind a comma. -/
def declarators (lexical constant inLoop : Bool) : Reading (List Phrase) := do
  let found ← iterate (fun (found : List Phrase) => do
    if ← atMark .semicolon then return (found, false)
    else do
      let next ← declarator read lexical constant inLoop
      let more ← eat .comma
      return (next :: found, more)) []
  return found.reverse

/-- The end of a declaration of variables.  If the declaration goes on in a way that cannot be
read, everything up to the next end of a statement is passed over. -/
def endVariables : Reading Unit := do
  if !(← eatStatementEnd) then
    let _ ← lenient (read .expression)
    iterate (fun _ => do
      if ← eatStatementEnd then return ((), false)
      else do
        bump
        match (← cursor).token with
        | .bad _ => return ((), false)
        | _ => return ((), true)) ()

/-- A declaration of variables, from its keyword on. -/
def variableList (line : Nat) (inLoop : Bool) : Reading Phrase := do
  let c ← cursor
  let isVar := c.isKeyword "var"
  bump
  let list := declarators read (!isVar) (c.isKeyword "const") inLoop
  let found ← if isVar && inLoop then list else withMembership list
  if !inLoop then endVariables read
  return .node .variableList line found

/-- Whether `let` declares something here. -/
def startsLexical : Reading Bool := do
  match (← peek).token with
  | .word _ keyword => return !keyword.any alwaysReserved.contains
  | .mark m => return m = .openBracket || m = .openBrace
  | _ => return false

/-- Variables that are disposed of at the end of their block, if some are declared here. -/
def disposables? (line : Nat) : Reading (Option Phrase) := do
  let n ← peek
  if n.broke || !n.token.isReference then return none
  else do
    bump
    let found ← declarators read false false false
    endVariables read
    return some (.node .variableList line found)

/-! ## Types and modules -/

/-- A member of an enumeration, with its value as its only part.  Where neither a value nor the end
of the member follows, one token is passed over and the next counts as a comma. -/
def enumMember : Reading Phrase := do
  let c ← cursor
  match c.token with
  | .string _ | .number => bump
  | .mark .openBracket =>
      bump
      let _ ← read .expression
      expect .closeBracket
  | _ => let _ ← word
  if ← eat .assign then
    let value ← read .assignment
    return .node .enumMember c.line [value]
  else do
    if !(← atMark .comma) && !(← atMark .closeBrace) then
      bump
      move fun c => { c with token := .mark .comma }
    return .node .enumMember c.line []

/-- An enumeration, from its name on. -/
def enumeration (line : Nat) : Reading Phrase := do
  let name ← nameWord
  expect .openBrace
  let members ← collect (do return !(← atMark .closeBrace)) do
    let member ← enumMember read
    let _ ← eat .comma
    return member
  expect .closeBrace
  return .node .enumeration line (name :: members)

/-- An interface, from its name on.  A second list of bases is passed over. -/
def interface (line : Nat) : Reading Phrase := do
  let (name, _) ← word
  let types ← typeParameters? read
  let bases ← if ← eatKeyword "extends" then heritage read else pure []
  if ← atKeyword "extends" then
    let _ ← collect (do return !(← atEnd) && !(← atMark .openBrace)) bump
  let body ← elements read
  return .interface line name (types ++ bases) body

/-- A type alias, from its name on. -/
def typeAlias (line : Nat) : Reading Phrase := do
  let name ← nameWord
  let types ← typeParameters? read
  if !(← eat .assign) then unexpected "="
  let type ← read .type
  endStatement
  return .node .typeAlias line (name :: types ++ [type])

/-- The items of a module or namespace, in braces.  The end of the text closes them too. -/
def moduleBody : Reading (List Phrase) := do
  expect .openBrace
  let items ← collect (do return !(← atEnd) && !(← atMark .closeBrace)) (read .item)
  let _ ← eat .closeBrace
  return items

/-- A namespace, from its name on.  Each further name of a dotted name is a namespace inside the
one before. -/
def namespaceNamed (line : Nat) : Reading Phrase := do
  let first ← word
  let others ← collect (eat .dot) word
  let body ← moduleBody read
  let (body, _) := others.foldr
    (fun inner (body : List Phrase × Nat) =>
      ([Phrase.module inner.2 (.identifier inner.1) body.1], inner.2)) (body, line)
  return .module line (.identifier first.1) body

/-- A module that is named by a string, or the global scope, from its name on. -/
def ambientModule (line : Nat) : Reading Phrase := do
  let c ← cursor
  let name ← match c.token with
    | .string value => do
        bump
        pure (ModuleName.specifier value)
    | _ =>
        if c.isKeyword "global" then do
          bump
          pure (ModuleName.identifier "global")
        else unexpected "global or a string literal"
  if ← atMark .openBrace then
    let body ← moduleBody read
    return .module line name body
  else do
    endStatement
    return .module line name []

/-- The declaration that starts with a word, if one does.  The word is the current token, which is
certain to start a declaration (`certain`), or it has just been read as a variable. -/
def declarationNamed? (line : Nat) (marks : List Phrase) (name : String) (certain : Bool) :
    Reading (Option Phrase) := do
  let c ← cursor
  let skip : Reading Unit := if certain then bump else return ()
  let isName := c.token.isReference
  match name with
  | "abstract" =>
      if certain || (c.isKeyword "class" && !c.broke) then
        skip
        some <$> classPhrase read .classDeclaration line marks true
      else return none
  | "enum" =>
      if certain || isName then
        skip
        some <$> enumeration read line
      else return none
  | "interface" =>
      if certain || isName then
        skip
        some <$> interface read line
      else return none
  | "module" =>
      if c.broke then return none
      else do
        skip
        match (← cursor).token with
        | .bad fault => failWith fault
        | .endOfText => fail .unexpectedEnd
        | .string _ => some <$> ambientModule read line
        | token =>
            if certain || token.isReference then some <$> namespaceNamed read line
            else return none
  | "namespace" =>
      if certain || isName then
        skip
        some <$> namespaceNamed read line
      else return none
  | "type" =>
      if certain || (!c.broke && isName) then
        skip
        some <$> typeAlias read line
      else return none
  | _ => return none

/-- A class, function, enumeration, variable, type or module that is announced by `declare`, which
has just been read. -/
def announcement? (line : Nat) (marks : List Phrase) : Reading (Option Phrase) :=
  under (fun s => { s with ambient := true }) do
    let c ← cursor
    match c.token with
    | .word name _ =>
        if c.isKeyword "function" then
          some <$> function read .functionDeclaration line false true marks
        else if c.isKeyword "class" then
          some <$> classPhrase read .classDeclaration line marks true
        else if c.isKeyword "const" && c.next.isKeyword "enum" then
          bump
          bump
          some <$> enumeration read line
        else if c.isKeyword "const" || c.isKeyword "var" || c.isKeyword "let" then
          some <$> variableList read line false
        else if c.isKeyword "global" then some <$> ambientModule read line
        else declarationNamed? read line marks name true
    | _ => return none

/-- The declaration that a variable turns out to start, if what follows shows one. -/
def declarationBehind? (line : Nat) (marks : List Phrase) (name : String) :
    Reading (Option Phrase) := do
  match name with
  | "declare" => announcement? read line marks
  | "global" =>
      if ← atMark .openBrace then
        let body ← moduleBody read
        return some (.module line (.identifier "global") body)
      else return none
  | name => declarationNamed? read line marks name false

end Grammar

end AddonRegistry.TypeScript
