import AddonRegistry.TypeScript.Grammar.Basic

/-!
# Markup

Tags in expressions, and the text and expressions between them.  The text between two tags is cut
into tokens by rules of its own (`Lexeme.markupText`); a reader asks for such a token by moving to
`Cursor.nextMarkup`.

* `markup` — a tag with what it encloses.
-/

namespace AddonRegistry.TypeScript

open Reading

namespace Grammar

variable (read : Reader)

/-- A name in a tag, which may hold hyphens. -/
def markupWord : Reading String := do
  let c ← cursor
  if c.token.isWord then move (·.reread (Lexeme.markupName c.text c.line))
  let (name, _) ← word
  return name

/-- The name of a tag: one name, a name in a namespace, or a path of names. -/
def markupName : Reading String := do
  let first ← markupWord
  if ← eat .colon then
    let second ← markupWord
    return first ++ ":" ++ second
  else
    iterate (fun name => do
      if ← eat .dot then
        let next ← markupWord
        return (name ++ "." ++ next, true)
      else return (name, false)) first

/-- Goes on behind the end of a tag. -/
def leaveTag (inside : Bool) : Reading Unit :=
  move fun c => if inside then c.nextMarkup else c.next

/-- The value of an attribute. -/
def attributeValue : Reading Phrase := do
  let c ← cursor
  match c.text with
  | '"' :: rest =>
      move (·.reread (Lexeme.markupStringTail '"' rest c.line))
      bump
      return .node (.string none) c.line []
  | '\x27' :: rest =>
      move (·.reread (Lexeme.markupStringTail '\x27' rest c.line))
      bump
      return .node (.string none) c.line []
  | _ =>
      if ← eat .openBrace then
        if ← atMark .closeBrace then fail .emptyMarkupAttribute
        let value ← withMembership (read .expression)
        expect .closeBrace
        return value
      else if c.isMark .less then read (.markup false)
      else fail .invalidMarkupValue

/-- An attribute, or attributes that are spread. -/
def markupAttribute : Reading Phrase := do
  let line ← currentLine
  if ← eat .openBrace then
    expect .ellipsis
    let value ← read .assignment
    expect .closeBrace
    return .node .spread line [value]
  else do
    let _ ← markupWord
    if ← eat .colon then let _ ← markupWord
    if ← eat .assign then
      let value ← attributeValue read
      return .node .markupAttribute line [value]
    else return .node .markupAttribute line []

/-- What stands between two tags: text, an expression in braces, or another tag. -/
def markupChild : Reading Phrase := do
  let c ← cursor
  match c.token with
  | .markupText =>
      move Cursor.nextMarkup
      return .node (.string none) c.line []
  | .mark .openBrace =>
      bump
      let parts ←
        if ← atMark .closeBrace then pure []
        else if ← eat .ellipsis then (fun v => [v]) <$> read .expression
        else (fun v => [v]) <$> withMembership (read .expression)
      if ← atMark .closeBrace then
        move Cursor.nextMarkup
        return .node .parenthesized c.line parts
      else fail (.expected Mark.closeBrace.text (← cursor).token.display)
  | .mark .less => read (.markup true)
  | _ => fail .unterminatedMarkup

/-- Everything between two tags, up to the first thing that cannot stand there. -/
def markupChildren : Reading (List Phrase) :=
  collectSome do
    let c ← cursor
    if c.isMark .closeTag || c.token = .endOfText then return none
    else lenient (markupChild read)

/-- A tag and what it encloses, up to the matching tag; a tag without a name is allowed.  The
attributes of a tag come before its type arguments. -/
def markup (inside : Bool) : Reading Phrase := do
  let line ← currentLine
  bump
  if ← atMark .greater then
    move Cursor.nextMarkup
    let parts ← markupChildren read
    expect .closeTag
    if ← atMark .greater then
      leaveTag inside
      return .node .markup line parts
    else fail (.expected Mark.greater.text (← cursor).token.display)
  else do
    let name ← markupName
    let types ←
      if ← atTypeArguments then attempt (some <$> typeArguments read) else pure none
    let attributes ← collect
      (do return !(← atMark .greater) && !(← atMark .slash) && !(← atEnd)) (markupAttribute read)
    if ← eat .slash then
      if ← atMark .greater then
        leaveTag inside
        return .node .markup line (attributes ++ types.getD [])
      else fail (.expected Mark.greater.text (← cursor).token.display)
    else if ← atMark .greater then
      move Cursor.nextMarkup
      let parts ← markupChildren read
      let closing ← currentLine
      expect .closeTag
      let close ← markupName
      if close ≠ name then failWith ⟨closing, .unmatchedMarkup name⟩
      if ← atMark .greater then
        leaveTag inside
        return .node .markup line (attributes ++ types.getD [] ++ parts)
      else fail (.expected Mark.greater.text (← cursor).token.display)
    else fail (.expected Mark.greater.text (← cursor).token.display)

end Grammar

end AddonRegistry.TypeScript
