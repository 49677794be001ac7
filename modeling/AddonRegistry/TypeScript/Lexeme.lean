import AddonRegistry.TypeScript.Token
import AddonRegistry.Unicode.Identifier

/-!
# Cutting a text into tokens

A lexeme is a token together with the text behind it and the line that text starts on.  Lines are
counted by line feeds, carriage returns, and the two together as one; the separators U+2028 and
U+2029 end a line of code without being counted.

* `Trivia.skip` — blanks and comments, and whether a line ended among them.
* `Lexeme.scan` — the next token of a text that starts with neither.
* `Lexeme.regularExpression`, `Lexeme.templatePiece`, `Lexeme.markupText` and
  `Lexeme.markupName` — tokens that only a reader who knows what it expects can ask for.

A string that its line ends without closing is taken as ending there.  The argument `fuel` of a
function is a bound on the length of the text; it only has to be large enough.
-/

namespace AddonRegistry.TypeScript

/-! ## Blanks and comments -/

/-- Characters that separate tokens and end no line. -/
def isBlank (c : Char) : Bool :=
  c = ' ' || c = '\t' || c = '\x0b' || c = '\x0c' || c = '\x85' || c = '\xa0' || c = '\u1680' ||
    ('\u2000' ≤ c && c ≤ '\u200b') || c = '\u202f' || c = '\u205f' || c = '\u3000' || c = '\ufeff'

/-- Characters that end a line of code. -/
def isLineEnd (c : Char) : Bool :=
  c = '\n' || c = '\r' || c = '\u2028' || c = '\u2029'

/-- What a stretch of skipped text left behind. -/
structure Trivia where
  /-- The text behind it. -/
  rest : List Char
  /-- The line that text starts on. -/
  line : Nat
  /-- Whether a line of code ended in it. -/
  broke : Bool
  /-- The first comment written `<!--` or `-->`, if there is one: the text from there on, and the
  line it starts on. -/
  legacy : Option (List Char × Nat)
  deriving Repr

/-- What is being skipped. -/
inductive Skipping where
  | blanks
  | lineComment
  | blockComment
  deriving DecidableEq, Repr

namespace Trivia

/-- Skips blanks and comments.  `-->` starts a comment only at the start of a line; a block comment
that is never closed reaches to the end of the text. -/
def skip : Skipping → List Char → (line : Nat) → (broke : Bool) → (legacy : Option (List Char × Nat)) →
    Trivia
  | _, [], line, broke, legacy => ⟨[], line, broke, legacy⟩
  | .blockComment, '*' :: '/' :: r, line, broke, legacy => skip .blanks r line broke legacy
  | .blockComment, '\r' :: '\n' :: r, line, _, legacy =>
      skip .blockComment r (line + 1) true legacy
  | .blockComment, c :: r, line, broke, legacy =>
      if c = '\n' || c = '\r' then skip .blockComment r (line + 1) true legacy
      else skip .blockComment r line (broke || isLineEnd c) legacy
  | mode, '\r' :: '\n' :: r, line, _, legacy =>
      match mode with
      | _ => skip .blanks r (line + 1) true legacy
  | .lineComment, c :: r, line, broke, legacy =>
      if c = '\n' || c = '\r' then skip .blanks r (line + 1) true legacy
      else if isLineEnd c then skip .blanks r line true legacy
      else skip .lineComment r line broke legacy
  | .blanks, '/' :: '/' :: r, line, broke, legacy => skip .lineComment r line broke legacy
  | .blanks, '/' :: '*' :: r, line, broke, legacy => skip .blockComment r line broke legacy
  | .blanks, '<' :: '!' :: '-' :: '-' :: r, line, broke, legacy =>
      skip .lineComment r line broke (legacy.or (some ('<' :: '!' :: '-' :: '-' :: r, line)))
  | .blanks, '-' :: '-' :: '>' :: r, line, broke, legacy =>
      if broke then
        skip .lineComment r line broke (legacy.or (some ('-' :: '-' :: '>' :: r, line)))
      else ⟨'-' :: '-' :: '>' :: r, line, broke, legacy⟩
  | .blanks, c :: r, line, broke, legacy =>
      if c = '\n' || c = '\r' then skip .blanks r (line + 1) true legacy
      else if isLineEnd c then skip .blanks r line true legacy
      else if isBlank c then skip .blanks r line broke legacy
      else ⟨c :: r, line, broke, legacy⟩

end Trivia

/-! ## Escape sequences -/

/-- The value of a hexadecimal digit. -/
def hexValue? (c : Char) : Option Nat :=
  if '0' ≤ c && c ≤ '9' then some (c.toNat - '0'.toNat)
  else if 'a' ≤ c && c ≤ 'f' then some (c.toNat - 'a'.toNat + 10)
  else if 'A' ≤ c && c ≤ 'F' then some (c.toNat - 'A'.toNat + 10)
  else none

/-- The number that exactly `count` hexadecimal digits write. -/
def takeHex : (count : Nat) → List Char → (value : Nat) → Option (Nat × List Char)
  | 0, r, value => some (value, r)
  | n + 1, c :: r, value => (hexValue? c).bind fun d => takeHex n r (16 * value + d)
  | _ + 1, [], _ => none

/-- The number that the longest row of hexadecimal digits writes; `none` for an empty row. -/
def takeHexRun : List Char → (value : Option Nat) → Option Nat × List Char
  | [], value => (value, [])
  | c :: r, value =>
      match hexValue? c with
      | some d => takeHexRun r (some (16 * value.getD 0 + d))
      | none => (value, c :: r)

/-- Reads what follows a backslash that starts a Unicode escape: `u` and four digits, or `u` and a
code point in braces. -/
def unicodeEscape : List Char → Except Cause (Nat × List Char)
  | 'u' :: '\x7b' :: r =>
      match takeHexRun r none with
      | (some n, rest) =>
          if n ≤ 0x10ffff then
            match rest with
            | '\x7d' :: rest => .ok (n, rest)
            | _ => .error .invalidUnicodeEscape
          else .error (.badEscape .codePoint)
      | (none, _) => .error (.badEscape .codePoint)
  | 'u' :: r =>
      match takeHex 4 r 0 with
      | some result => .ok result
      | none => .error (.badEscape .fourDigits)
  | _ => .error .expectedUnicodeEscape

/-- Whether a character is an octal digit. -/
def isOctalDigit (c : Char) : Bool := '0' ≤ c && c ≤ '7'

/-- The longest octal escape of at most `count` more digits whose value stays below 256. -/
def takeOctal : (count : Nat) → List Char → (value : Nat) → Nat × List Char
  | n + 1, c :: r, value =>
      if isOctalDigit c && 8 * value + (c.toNat - '0'.toNat) < 256 then
        takeOctal n r (8 * value + (c.toNat - '0'.toNat))
      else (value, c :: r)
  | _, r, value => (value, r)

/-- What an escape sequence stands for. -/
structure Escaped where
  /-- The code point, unless the sequence continues the literal on the next line. -/
  point : Option Nat
  /-- How many lines the sequence ends. -/
  lines : Nat
  /-- The text behind it. -/
  rest : List Char

/-- Reads what follows a backslash in a string literal or a template. -/
def escapeSequence (inTemplate : Bool) : List Char → Except Cause Escaped
  | [] => .ok ⟨none, 0, []⟩
  | '\r' :: '\n' :: r => .ok ⟨none, 1, r⟩
  | '\n' :: r => .ok ⟨none, 1, r⟩
  | '\r' :: r => .ok ⟨none, 1, r⟩
  | '\u2028' :: r => .ok ⟨none, 0, r⟩
  | '\u2029' :: r => .ok ⟨none, 0, r⟩
  | 'n' :: r => .ok ⟨some 10, 0, r⟩
  | 't' :: r => .ok ⟨some 9, 0, r⟩
  | 'r' :: r => .ok ⟨some 13, 0, r⟩
  | 'b' :: r => .ok ⟨some 8, 0, r⟩
  | 'f' :: r => .ok ⟨some 12, 0, r⟩
  | 'v' :: r => .ok ⟨some 11, 0, r⟩
  | 'x' :: r =>
      match takeHex 2 r 0 with
      | some (n, rest) => .ok ⟨some n, 0, rest⟩
      | none => .error (.badEscape .twoDigits)
  | 'u' :: r =>
      match unicodeEscape ('u' :: r) with
      | .ok (n, rest) => .ok ⟨some n, 0, rest⟩
      | .error cause => .error cause
  | c :: r =>
      if isOctalDigit c then
        if c = '0' && !(r.headD 'x').isDigit then .ok ⟨some 0, 0, r⟩
        else if inTemplate then .error .legacyOctal
        else
          let (n, rest) := takeOctal 2 r (c.toNat - '0'.toNat)
          .ok ⟨some n, 0, rest⟩
      else .ok ⟨some c.toNat, 0, r⟩

/-- The text that a row of code points writes; two halves of a surrogate pair that stand next to
each other are one character, and a half that stands alone is no text. -/
def textOfPoints? : List Nat → Option (List Char)
  | [] => some []
  | high :: rest =>
      if 0xd800 ≤ high && high ≤ 0xdbff then
        match rest with
        | low :: rest =>
            if 0xdc00 ≤ low && low ≤ 0xdfff then
              let point := 0x10000 + 0x400 * (high - 0xd800) + (low - 0xdc00)
              (textOfPoints? rest).map (Char.ofNat point :: ·)
            else none
        | [] => none
      else if 0xdc00 ≤ high && high ≤ 0xdfff then none
      else (textOfPoints? rest).map (Char.ofNat high :: ·)

/-! ## Lexemes -/

/-- A token, the text behind it and the line that text starts on. -/
structure Lexeme where
  token : Token
  rest : List Char
  line : Nat
  deriving Repr

namespace Lexeme

/-- The rest of an identifier or keyword, and whether an escape sequence occurs in it. -/
def wordTail : (fuel : Nat) → List Char → (name : List Char) → (plain : Bool) →
    Except Cause (List Char × Bool × List Char)
  | 0, r, name, plain => .ok (name, plain, r)
  | n + 1, '\\' :: r, name, _ =>
      match unicodeEscape r with
      | .ok (point, rest) => wordTail n rest (Char.ofNat point :: name) false
      | .error cause => .error cause
  | n + 1, c :: r, name, plain =>
      if Unicode.isIdentifierPart c then wordTail n r (c :: name) plain
      else .ok (name, plain, c :: r)
  | _ + 1, [], name, plain => .ok (name, plain, [])

/-- An identifier or keyword. -/
def word (fuel : Nat) (text : List Char) (line : Nat) : Lexeme :=
  match wordTail fuel text [] true with
  | .ok (name, plain, rest) =>
      let name := String.ofList name.reverse
      let isKeyword := plain && (isReserved name || isContextual name)
      ⟨.word name (if isKeyword then some name else none), rest, line⟩
  | .error cause => ⟨.bad ⟨line, cause⟩, [], line⟩

/-- The rest of a string literal, behind its opening quote. -/
def stringTail (quote : Char) : (fuel : Nat) → List Char → (line : Nat) → (points : List Nat) →
    Lexeme
  | 0, r, line, points => ⟨.string ((textOfPoints? points.reverse).map String.ofList), r, line⟩
  | _ + 1, [], line, points =>
      ⟨.string ((textOfPoints? points.reverse).map String.ofList), [], line⟩
  | n + 1, '\\' :: r, line, points =>
      match escapeSequence false r with
      | .ok e => stringTail quote n e.rest (line + e.lines) (e.point.toList ++ points)
      | .error cause => ⟨.bad ⟨line, cause⟩, r, line⟩
  | n + 1, c :: r, line, points =>
      if c = quote then ⟨.string ((textOfPoints? points.reverse).map String.ofList), r, line⟩
      else if c = '\n' || c = '\r' then
        ⟨.string ((textOfPoints? points.reverse).map String.ofList), c :: r, line⟩
      else stringTail quote n r line (c.toNat :: points)

/-- A stretch of a template, from behind the mark that opens it, on the line `start`, to the mark
that ends it. -/
def templatePiece (start : Nat) :
    (fuel : Nat) → List Char → (line : Nat) → (fault : Option Fault) → Lexeme
  | 0, r, line, _ => ⟨.bad ⟨start, .unterminatedTemplate⟩, r, line⟩
  | _ + 1, [], line, _ => ⟨.bad ⟨start, .unterminatedTemplate⟩, [], line⟩
  | _ + 1, '\x60' :: r, line, fault => ⟨.template true fault, r, line⟩
  | _ + 1, '$' :: '\x7b' :: r, line, fault => ⟨.template false fault, r, line⟩
  | n + 1, '\r' :: '\n' :: r, line, fault => templatePiece start n r (line + 1) fault
  | n + 1, '\\' :: r, line, fault =>
      match escapeSequence true r with
      | .ok e => templatePiece start n e.rest (line + e.lines) fault
      | .error cause => templatePiece start n (r.drop 1) line (fault.or (some ⟨line, cause⟩))
  | n + 1, c :: r, line, fault =>
      if c = '\n' || c = '\r' then templatePiece start n r (line + 1) fault
      else templatePiece start n r line fault

/-- The rest of a regular expression, behind its opening slash. -/
def regularExpressionTail (line : Nat) : List Char → (inClass : Bool) → Lexeme
  | [], _ => ⟨.bad ⟨line, .unterminatedRegularExpression⟩, [], line⟩
  | '\\' :: c :: r, inClass =>
      if isLineEnd c then ⟨.bad ⟨line, .unterminatedRegularExpression⟩, c :: r, line⟩
      else regularExpressionTail line r inClass
  | c :: r, inClass =>
      if isLineEnd c then ⟨.bad ⟨line, .unterminatedRegularExpression⟩, c :: r, line⟩
      else if c = '[' then regularExpressionTail line r true
      else if c = ']' then regularExpressionTail line r false
      else if c = '/' && !inClass then
        ⟨.regularExpression, r.dropWhile Unicode.isIdentifierPart, line⟩
      else regularExpressionTail line r inClass

/-- A regular expression, read from its opening slash on. -/
def regularExpression (text : List Char) (line : Nat) : Lexeme :=
  regularExpressionTail line (text.drop 1) false

/-- A number must not run into an identifier. -/
def endNumber (token : Token) (rest : List Char) (line : Nat) : Lexeme :=
  match rest with
  | c :: _ =>
      if Unicode.isIdentifierStart c || c = '\\' then ⟨.bad ⟨line, .identifierAfterNumber⟩, rest, line⟩
      else ⟨token, rest, line⟩
  | [] => ⟨token, [], line⟩

/-- An integer may carry the suffix of a big integer. -/
def endInteger (rest : List Char) (line : Nat) : Lexeme :=
  match rest with
  | 'n' :: r => endNumber .bigInt r line
  | r => endNumber .number r line

/-- A digit of a decimal numeral, or a separator between digits. -/
def isDecimalPart (c : Char) : Bool := c.isDigit || c = '_'

/-- An integer with a radix prefix, read from behind the prefix on. -/
def radixNumber (radix : Nat) (text : List Char) (line : Nat) : Lexeme :=
  let isDigitOf (c : Char) : Bool := (hexValue? c).any (· < radix)
  match text with
  | c :: _ =>
      if isDigitOf c then
        endInteger (text.dropWhile fun d => isDigitOf d || d = '_') line
      else ⟨.bad ⟨line, (.expectedDigit radix)⟩, text, line⟩
  | [] => ⟨.bad ⟨line, (.expectedDigit radix)⟩, [], line⟩

/-- The exponent of a decimal numeral, if there is one. -/
def exponent (text : List Char) (line : Nat) : Lexeme :=
  match text with
  | c :: r =>
      if c = 'e' || c = 'E' then
        let digits := match r with
          | '+' :: r => r
          | '-' :: r => r
          | r => r
        if (digits.headD 'x').isDigit then
          endNumber .number (digits.dropWhile isDecimalPart) line
        else ⟨.bad ⟨line, (.expectedDigit 10)⟩, digits, line⟩
      else endNumber .number (c :: r) line
  | [] => ⟨.number, [], line⟩

/-- The fraction and exponent of a decimal numeral, if there are any. -/
def fraction (text : List Char) (line : Nat) : Lexeme :=
  match text with
  | '.' :: r => exponent (r.dropWhile isDecimalPart) line
  | r => exponent r line

/-- A number that starts with a digit. -/
def number (text : List Char) (line : Nat) : Lexeme :=
  match text with
  | '0' :: c :: r =>
      if c = 'x' || c = 'X' then radixNumber 16 r line
      else if c = 'o' || c = 'O' then radixNumber 8 r line
      else if c = 'b' || c = 'B' then radixNumber 2 r line
      else if c.isDigit then
        let digits := (c :: r).takeWhile isDecimalPart
        let rest := (c :: r).dropWhile isDecimalPart
        if digits.all fun d => isOctalDigit d || d = '_' then endNumber .number rest line
        else fraction rest line
      else integer text
  | _ => integer text
where
  /-- A number without a leading zero. -/
  integer (text : List Char) : Lexeme :=
    match text.dropWhile isDecimalPart with
    | 'n' :: r => endNumber .bigInt r line
    | rest => fraction rest line

/-- The next token of a text that starts with neither blanks nor comments. -/
def scan (fuel : Nat) (text : List Char) (line : Nat) : Lexeme :=
  match text with
  | [] => ⟨.endOfText, [], line⟩
  | '"' :: r => stringTail '"' fuel r line []
  | '\x27' :: r => stringTail '\x27' fuel r line []
  | '\x60' :: r => templatePiece line fuel r line none
  | '\\' :: _ => word fuel text line
  | '.' :: c :: r => if c.isDigit then fraction ('.' :: c :: r) line else mark ('.' :: c :: r)
  | c :: r =>
      if c.isDigit then number (c :: r) line
      else if Unicode.isIdentifierStart c then word fuel (c :: r) line
      else mark (c :: r)
where
  /-- A punctuation mark. -/
  mark (text : List Char) : Lexeme :=
    match Mark.scan text with
    | some (m, rest) => ⟨.mark m, rest, line⟩
    | none => ⟨.bad ⟨line, (.unexpectedCharacter (text.headD ' '))⟩, text.drop 1, line⟩

/-! ## Markup -/

/-- The text up to the next tag or brace. -/
def markupTextTail : List Char → (line : Nat) → Lexeme
  | [], line => ⟨.markupText, [], line⟩
  | '\r' :: '\n' :: r, line => markupTextTail r (line + 1)
  | c :: r, line =>
      if c = '<' || c = '\x7b' then ⟨.markupText, c :: r, line⟩
      else if c = '\n' || c = '\r' then markupTextTail r (line + 1)
      else markupTextTail r line

/-- What comes next between two tags: a tag, a brace, or text. -/
def markupText (text : List Char) (line : Nat) : Lexeme :=
  match text with
  | [] => ⟨.endOfText, [], line⟩
  | '<' :: '/' :: r => ⟨.mark .closeTag, r, line⟩
  | '<' :: r => ⟨.mark .less, r, line⟩
  | '\x7b' :: r => ⟨.mark .openBrace, r, line⟩
  | text => markupTextTail text line

/-- A name in a tag, which may hold hyphens; the text starts with its first character. -/
def markupName (text : List Char) (line : Nat) : Lexeme :=
  let isPart (c : Char) : Bool := Unicode.isIdentifierPart c || c = '-'
  ⟨.word (String.ofList (text.takeWhile isPart)) none, text.dropWhile isPart, line⟩

/-- The rest of a quoted attribute value, which has no escape sequences and may span lines. -/
def markupStringTail (quote : Char) : List Char → (line : Nat) → Lexeme
  | [], line => ⟨.string none, [], line⟩
  | '\r' :: '\n' :: r, line => markupStringTail quote r (line + 1)
  | c :: r, line =>
      if c = quote then ⟨.string none, r, line⟩
      else if c = '\n' || c = '\r' then markupStringTail quote r (line + 1)
      else markupStringTail quote r line

end Lexeme

end AddonRegistry.TypeScript
