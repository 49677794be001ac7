import AddonRegistry.TypeScript.Grammar.Functions

/-!
# Classes

Class declarations and expressions and their members.  A word such as `static` or `declare` is a
modifier only if a member follows it; otherwise it is the name of a member itself
(`memberNamed?`).

* `classMember` — one member; `classPhrase` — a class from the keyword on.
-/

namespace AddonRegistry.TypeScript

open Reading

namespace Grammar

variable (read : Reader)

/-- Whether what follows the name of a member makes it a method. -/
def atMethodParts : Reading Bool := do
  return (← atMark .openParen) || (← atMark .less)

/-- Whether what follows the name of a member makes it a property; `byLine` says whether the end of
a line does. -/
def atPropertyParts (byLine : Bool) : Reading Bool := do
  let c ← cursor
  return c.isMark .bang || c.isMark .colon || c.isMark .assign || c.isMark .closeBrace ||
    (if byLine then c.endsStatement else c.isMark .semicolon)

/-- Whether a name makes a member the constructor. -/
def namesConstructor (key : Phrase) : Bool :=
  match key.kind? with
  | some (.identifier name) | some (.string (some name)) => name = "constructor"
  | _ => false

/-- A method, behind its name. -/
def method (line : Nat) (marks : List Phrase) (key : Phrase) (form : FunctionForm) :
    Reading Phrase := do
  let parts ← functionParts read form marks
  return .node .methodMember line (key :: parts)

/-- A property, behind its name.  Its value comes before its type and its decorators. -/
def property (line : Nat) (marks : List Phrase) (key : Phrase) : Reading Phrase := do
  if namesConstructor key then failWith ⟨key.line, .fieldNamedConstructor⟩
  let _ ← eat .bang
  let type ← typeBehind? read
  let value ← withMembership do
    if ← eat .assign then (fun v => [v]) <$> read .assignment else return []
  let _ ← eatStatementEnd
  return .node .propertyMember line (key :: value ++ type ++ marks)

/-- A member that is called like the modifier that was just read, if that is what follows shows. -/
def memberNamed? (line : Nat) (marks : List Phrase) (name : String) (byLine : Bool) :
    Reading (Option Phrase) := do
  let key := Phrase.node (.identifier name) line []
  if ← atMethodParts then some <$> method read line marks key .plain
  else if (← atPropertyParts byLine) || (← atMark .question) then
    let _ ← eat .question
    some <$> property read line marks key
  else return none

/-- A block that runs when the class is set up, from its brace on. -/
def staticBlock (line : Nat) : Reading Phrase := do
  let block ← read .block
  return .node .staticBlock line [block]

/-- The name of a class member. -/
def memberKey : Reading Phrase := do
  if ← atMark .hash then privateName else propertyName read

/-- The constructor, behind its name. -/
def constructorMember (line : Nat) (key : Phrase) : Reading Phrase := do
  let _ ← typeParameters? read
  expect .openParen
  let values ← constructorParameters read
  expect .closeParen
  let _ ← typeBehind? read
  let body ← body? read .plain
  return .node .constructorMember line (key :: values ++ body)

/-- A member, behind the modifiers that may start it. -/
def modifiedMember (line : Nat) (marks : List Phrase) (accessible isStatic accessor : Bool) :
    Reading Phrase := do
  let found ← collectSome do
    let c ← cursor
    if c.isKeyword "static" && c.next.isMark .openBrace then return none
    else modifier? ["abstract", "readonly", "override", "static"]
  let readonly := found.contains "readonly"
  if (isStatic || found.contains "static") && (← atMark .openBrace) then staticBlock read line
  else if (← atKeyword "static") && (← peek).isMark .openBrace then
    bump
    staticBlock read line
  else do
    if !accessor then let _ ← eatKeyword "accessor"
    let index ←
      if found.contains "abstract" || found.contains "override" || accessible then pure none
      else indexParts? read
    match index with
    | some parts => return .node .indexMember line parts
    | none =>
        if ← eat .star then
          let key ← memberKey read
          method read line marks key ⟨false, true⟩
        else do
          let key ← memberKey read
          let _ ← eat .question
          if ← atMethodParts then
            if readonly then failWith ⟨line, .readonlyMethod⟩
            if namesConstructor key then constructorMember read line key
            else method read line marks key .plain
          else do
            let isAccessor := (key.identifier? = some "get" || key.identifier? = some "set") &&
              !(← atPropertyParts false) && !((← lineBroke) && (← atMark .star))
            if !isAccessor && (← atPropertyParts true) then property read line marks key
            else if key.identifier? = some "async" && !(← lineBroke) then
              let _ ← modifier? ["override"]
              let generator ← eat .star
              let key ← memberKey read
              if namesConstructor key then failWith ⟨key.line, .asyncConstructor⟩
              if readonly then failWith ⟨line, .readonlyMethod⟩
              let _ ← eat .question
              method read line marks key ⟨true, generator⟩
            else if isAccessor then
              let key ← memberKey read
              method read line marks key .plain
            else unexpected "* for generator, private key, identifier or async"

/-- A member of a class. -/
def classMember : Reading Phrase := do
  let line ← currentLine
  if ← eat .semicolon then return .node .emptyMember line []
  else do
    let marks ← decorators read false
    let early ← eatKeyword "declare"
    let access ← accessModifier?
    let declared ← if early then pure true else eatKeyword "declare"
    let named ← if declared then memberNamed? read line marks "declare" true else pure none
    match named with
    | some member => return member
    | none =>
        let isStatic ← eatKeyword "static"
        let accessor ← eatKeyword "accessor"
        let named ← if accessor then memberNamed? read line marks "accessor" true else pure none
        match named with
        | some member => return member
        | none =>
            let named ←
              if isStatic then memberNamed? read line marks "static" false else pure none
            match named with
            | some member => return member
            | none => modifiedMember read line marks access.isSome isStatic accessor

/-- A superclass and its type arguments, which may have been read as part of the expression. -/
def superclass : Reading (Phrase × List Phrase) := do
  match ← read .leftHand with
  | .node .instantiation _ (base :: types) => return (base, types)
  | base =>
      let types ← if ← atMark .less then typeArguments read else pure []
      return (base, types)

/-- A class from the keyword on.  Clauses that stand twice or in the wrong order are read all the
same, and a body that the end of the text cuts off is complete. -/
def classPhrase (kind : Kind) (line : Nat) (marks : List Phrase) (named : Bool) :
    Reading Phrase := do
  expectKeyword "class"
  let name ←
    if named || (← atReference) then (fun n => [n]) <$> declaredName true else pure []
  let types ← typeParameters? read
  let base ← if ← eatKeyword "extends" then some <$> superclass read else pure none
  if base.isSome then
    if ← eat .comma then let _ ← heritage read
  if ← eatKeyword "extends" then let _ ← superclass read
  let promised ← if ← eatKeyword "implements" then heritage read else pure []
  if ← eatKeyword "implements" then let _ ← heritage read
  let late ← if ← eatKeyword "extends" then some <$> superclass read else pure none
  expect .openBrace
  let members ← under (fun s => { s with enclosed := true })
    (collect (do return !(← atEnd) && !(← atMark .closeBrace)) (classMember read))
  let _ ← eat .closeBrace
  let base := (base <|> late).toList
  return .node kind line (name ++ marks ++ members ++ base.map Prod.fst ++ types ++
    base.flatMap Prod.snd ++ promised)

end Grammar

end AddonRegistry.TypeScript
