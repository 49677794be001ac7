import AddonRegistry.TypeScript.Lexeme

/-!
# Where a reader stands in a text

A cursor holds the token a reader looks at, the text from that token on and the text behind it.
Everything else a cursor could tell is computed from those texts: looking ahead is reading on from
a copy, and reading a token again as something else is scanning its text again.

* `Cursor.start` — the cursor on the first token of a text.
* `Cursor.next` — the cursor on the next token.
* `Cursor.reread` — the same place with another token.
-/

namespace AddonRegistry.TypeScript

/-- A place in a text and the token that stands there. -/
structure Cursor where
  token : Token
  /-- The line the token starts on. -/
  line : Nat
  /-- Whether a line of code ended between the token before and this one. -/
  broke : Bool
  /-- The text from the token on. -/
  text : List Char
  /-- The text behind the token. -/
  rest : List Char
  /-- The line the text behind the token starts on. -/
  restLine : Nat
  /-- More than the number of tokens in the whole text. -/
  bound : Nat

namespace Cursor

/-- The cursor on the first token of a text that starts on a given line.  A token that a comment
written `<!--` or `-->` stands before counts as starting where the comment does; a keyword that can
be an identifier is then called by all the text from there on. -/
def load (bound : Nat) (text : List Char) (line : Nat) (broke : Bool) : Cursor :=
  let gap := Trivia.skip .blanks text line broke none
  let lexeme := Lexeme.scan bound gap.rest gap.line
  let token := match gap.legacy, lexeme.token with
    | some (comment, _), .word name (some keyword) =>
        if isContextual keyword then
          let length := comment.length - lexeme.rest.length
          .word (String.ofList (comment.take length)) (some keyword)
        else .word name (some keyword)
    | _, token => token
  ⟨token, (gap.legacy.map Prod.snd).getD gap.line, gap.broke, gap.rest, lexeme.rest, lexeme.line, bound⟩

/-- The cursor on the first token of a module.  A first line that starts with `#!` is skipped. -/
def start (text : List Char) : Cursor :=
  let bound := text.length + 2
  match text with
  | '#' :: '!' :: rest =>
      let gap := Trivia.skip .lineComment rest 1 false none
      { load bound gap.rest gap.line true with bound }
  | text => load bound text 1 true

/-- The cursor on the next token. -/
def next (c : Cursor) : Cursor :=
  load c.bound c.rest c.restLine false

/-- The same place, with the token read again. -/
def reread (c : Cursor) (lexeme : Lexeme) : Cursor :=
  { c with token := lexeme.token, rest := lexeme.rest, restLine := lexeme.line }

/-- The cursor on what comes next between two tags. -/
def nextMarkup (c : Cursor) : Cursor :=
  let lexeme := Lexeme.markupText c.rest c.restLine
  ⟨lexeme.token, c.restLine, false, c.rest, lexeme.rest, lexeme.line, c.bound⟩

/-- Whether the token is a particular mark. -/
def isMark (c : Cursor) (mark : Mark) : Bool :=
  c.token = .mark mark

/-- Whether the token is a particular keyword. -/
def isKeyword (c : Cursor) (name : String) : Bool :=
  c.token.isKeyword name

/-- Whether a statement may end in front of the token. -/
def endsStatement (c : Cursor) : Bool :=
  c.broke || c.isMark .semicolon || c.isMark .closeBrace || c.token = .endOfText

/-- A greater-than sign is read again as the longest operator it begins. -/
def joinGreater (c : Cursor) : Cursor :=
  match c.token with
  | .mark .greater =>
      let (mark, rest) := Mark.ofGreater c.rest
      c.reread ⟨.mark mark, rest, c.restLine⟩
  | _ => c

/-- A shift operator is read again as the less-than sign it begins with. -/
def splitLess (c : Cursor) : Cursor :=
  match c.token with
  | .mark .shiftLeft => c.reread ⟨.mark .less, c.text.drop 1, c.line⟩
  | _ => c

end Cursor

end AddonRegistry.TypeScript
