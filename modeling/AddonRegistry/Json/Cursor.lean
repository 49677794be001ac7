/-!
# A place in a JSON text

A JSON text is read character by character.  A fault is reported by line and column: lines are
counted from one, and the column is the number of bytes read on the line.  Some faults are noticed
at the character that comes next, and their column counts its first byte too.

* `Cursor` — the rest of a text and the position it starts at.
* `Cause`, `Fault` — what is wrong with a text, and where; `Fault.message` is the wording.
-/

namespace AddonRegistry.Json

/-- What is wrong with a JSON text. -/
inductive Cause where
  | endInList
  | endInObject
  | endInString
  | endInValue
  | expectedColon
  | expectedListEnd
  | expectedObjectEnd
  | expectedWord
  | expectedValue
  | invalidEscape
  | invalidNumber
  | numberTooLarge
  | controlCharacter
  | keyNotString
  | loneSurrogate
  | unfinishedSurrogatePair
  | trailingComma
  | trailingCharacters
  | missingField (name : String)
  | repeatedField (name : String)
  | wrongType (found wanted : String)
  | wrongLength (count : Nat) (wanted : String)
  deriving DecidableEq, Repr

/-- The wording of a cause. -/
def Cause.message : Cause → String
  | .endInList => "EOF while parsing a list"
  | .endInObject => "EOF while parsing an object"
  | .endInString => "EOF while parsing a string"
  | .endInValue => "EOF while parsing a value"
  | .expectedColon => "expected `:`"
  | .expectedListEnd => "expected `,` or `]`"
  | .expectedObjectEnd => "expected `,` or `\x7d`"
  | .expectedWord => "expected ident"
  | .expectedValue => "expected value"
  | .invalidEscape => "invalid escape"
  | .invalidNumber => "invalid number"
  | .numberTooLarge => "number out of range"
  | .controlCharacter => "control character (\\u0000-\\u001F) found while parsing a string"
  | .keyNotString => "key must be a string"
  | .loneSurrogate => "lone leading surrogate in hex escape"
  | .unfinishedSurrogatePair => "unexpected end of hex escape"
  | .trailingComma => "trailing comma"
  | .trailingCharacters => "trailing characters"
  | .missingField name => "missing field `" ++ name ++ "`"
  | .repeatedField name => "duplicate field `" ++ name ++ "`"
  | .wrongType found wanted => "invalid type: " ++ found ++ ", expected " ++ wanted
  | .wrongLength count wanted => "invalid length " ++ toString count ++ ", expected " ++ wanted

/-- What is wrong with a JSON text, and where. -/
structure Fault where
  cause : Cause
  line : Nat
  column : Nat
  deriving DecidableEq, Repr

/-- The wording of a fault. -/
def Fault.message (fault : Fault) : String :=
  fault.cause.message ++ " at line " ++ toString fault.line ++ " column " ++ toString fault.column

/-- The rest of a text and the position it starts at. -/
structure Cursor where
  rest : List Char
  line : Nat := 1
  column : Nat := 0
  deriving Inhabited

namespace Cursor

/-- The cursor in front of a text. -/
def ofText (text : String) : Cursor := { rest := text.toList }

/-- The cursor behind the next character. -/
def next (cur : Cursor) : Cursor :=
  match cur.rest with
  | [] => cur
  | '\n' :: rest => ⟨rest, cur.line + 1, 0⟩
  | c :: rest => ⟨rest, cur.line, cur.column + c.utf8Size⟩

/-- The cursor behind a number of characters. -/
def skip : Nat → Cursor → Cursor
  | 0, cur => cur
  | count + 1, cur => skip count cur.next

/-- A fault where the cursor stands. -/
def fault {α : Type} (cur : Cursor) (cause : Cause) : Except Fault α :=
  .error ⟨cause, cur.line, cur.column⟩

/-- A fault behind a number of bytes from where the cursor stands. -/
def faultBehind {α : Type} (cause : Cause) : Nat → Cursor → Except Fault α
  | 0, cur => cur.fault cause
  | bytes + 1, cur =>
      match cur.rest with
      | [] => cur.fault cause
      | c :: _ =>
          if c.utf8Size ≤ bytes + 1 then faultBehind cause (bytes + 1 - c.utf8Size) cur.next
          else .error ⟨cause, cur.line, cur.column + bytes + 1⟩
  termination_by bytes => bytes
  decreasing_by have := c.utf8Size_pos; omega

/-- A fault at the character that comes next. -/
def faultAhead {α : Type} (cur : Cursor) (cause : Cause) : Except Fault α :=
  faultBehind cause 1 cur

/-- The cursor behind spaces and line breaks. -/
def skipBlanks (cur : Cursor) : Cursor :=
  skip (cur.rest.takeWhile fun c => c = ' ' || c = '\n' || c = '\t' || c = '\r').length cur

/-- The cursor behind a word, of which the first character has been read. -/
def readWord : List Char → Cursor → Except Fault Cursor
  | [], cur => .ok cur
  | c :: word, cur =>
      match cur.rest with
      | [] => cur.fault .endInValue
      | d :: _ => if c = d then readWord word cur.next else cur.faultAhead .expectedWord

end Cursor

end AddonRegistry.Json
