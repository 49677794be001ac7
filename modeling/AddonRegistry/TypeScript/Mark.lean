/-!
# Punctuation

The marks of the language, their spelling, and how a text is cut into them.  A greater-than sign is
always a mark of its own, because it may close a list of type arguments; the operators that begin
with it are put together where an operator is expected (`Mark.ofGreater`).  For the same reason `?`
and `.` are two marks.
-/

namespace AddonRegistry.TypeScript

/-- A punctuation mark or operator. -/
inductive Mark where
  | openParen | closeParen | openBrace | closeBrace | openBracket | closeBracket
  | semicolon | comma | dot | ellipsis | colon | question | at | hash
  | arrow | assign | equal | strictEqual
  | bang | notEqual | strictNotEqual | tilde
  | plus | increment | plusAssign | minus | decrement | minusAssign
  | star | starAssign | power | powerAssign
  | slash | slashAssign | percent | percentAssign
  | less | lessEqual | shiftLeft | shiftLeftAssign
  | greater | greaterEqual | shiftRight | shiftRightAssign
  | unsignedShift | unsignedShiftAssign
  | ampersand | ampersandAssign | and | andAssign
  | pipe | pipeAssign | or | orAssign
  | caret | caretAssign | coalesce | coalesceAssign
  | closeTag
  deriving DecidableEq, Repr, Inhabited

namespace Mark

/-- How a mark is written. -/
def text : Mark → String
  | .openParen => "(" | .closeParen => ")" | .openBrace => "\x7b" | .closeBrace => "\x7d"
  | .openBracket => "[" | .closeBracket => "]"
  | .semicolon => ";" | .comma => "," | .dot => "." | .ellipsis => "..." | .colon => ":"
  | .question => "?" | .at => "@" | .hash => "#"
  | .arrow => "=>" | .assign => "=" | .equal => "==" | .strictEqual => "==="
  | .bang => "!" | .notEqual => "!=" | .strictNotEqual => "!==" | .tilde => "~"
  | .plus => "+" | .increment => "++" | .plusAssign => "+="
  | .minus => "-" | .decrement => "--" | .minusAssign => "-="
  | .star => "*" | .starAssign => "*=" | .power => "**" | .powerAssign => "**="
  | .slash => "/" | .slashAssign => "/=" | .percent => "%" | .percentAssign => "%="
  | .less => "<" | .lessEqual => "<=" | .shiftLeft => "<<" | .shiftLeftAssign => "<<="
  | .greater => ">" | .greaterEqual => ">=" | .shiftRight => ">>" | .shiftRightAssign => ">>="
  | .unsignedShift => ">>>" | .unsignedShiftAssign => ">>>="
  | .ampersand => "&" | .ampersandAssign => "&=" | .and => "&&" | .andAssign => "&&="
  | .pipe => "|" | .pipeAssign => "|=" | .or => "||" | .orAssign => "||="
  | .caret => "^" | .caretAssign => "^=" | .coalesce => "??" | .coalesceAssign => "??="
  | .closeTag => "</"

/-- Cuts the longest mark off a text, and the rest of the text behind it. -/
def scan : List Char → Option (Mark × List Char)
  | '(' :: r => some (.openParen, r)
  | ')' :: r => some (.closeParen, r)
  | '\x7b' :: r => some (.openBrace, r)
  | '\x7d' :: r => some (.closeBrace, r)
  | '[' :: r => some (.openBracket, r)
  | ']' :: r => some (.closeBracket, r)
  | ';' :: r => some (.semicolon, r)
  | ',' :: r => some (.comma, r)
  | ':' :: r => some (.colon, r)
  | '@' :: r => some (.at, r)
  | '#' :: r => some (.hash, r)
  | '~' :: r => some (.tilde, r)
  | '>' :: r => some (.greater, r)
  | '.' :: '.' :: '.' :: r => some (.ellipsis, r)
  | '.' :: r => some (.dot, r)
  | '?' :: '?' :: '=' :: r => some (.coalesceAssign, r)
  | '?' :: '?' :: r => some (.coalesce, r)
  | '?' :: r => some (.question, r)
  | '=' :: '=' :: '=' :: r => some (.strictEqual, r)
  | '=' :: '=' :: r => some (.equal, r)
  | '=' :: '>' :: r => some (.arrow, r)
  | '=' :: r => some (.assign, r)
  | '!' :: '=' :: '=' :: r => some (.strictNotEqual, r)
  | '!' :: '=' :: r => some (.notEqual, r)
  | '!' :: r => some (.bang, r)
  | '+' :: '+' :: r => some (.increment, r)
  | '+' :: '=' :: r => some (.plusAssign, r)
  | '+' :: r => some (.plus, r)
  | '-' :: '-' :: r => some (.decrement, r)
  | '-' :: '=' :: r => some (.minusAssign, r)
  | '-' :: r => some (.minus, r)
  | '*' :: '*' :: '=' :: r => some (.powerAssign, r)
  | '*' :: '*' :: r => some (.power, r)
  | '*' :: '=' :: r => some (.starAssign, r)
  | '*' :: r => some (.star, r)
  | '/' :: '=' :: r => some (.slashAssign, r)
  | '/' :: r => some (.slash, r)
  | '%' :: '=' :: r => some (.percentAssign, r)
  | '%' :: r => some (.percent, r)
  | '<' :: '<' :: '=' :: r => some (.shiftLeftAssign, r)
  | '<' :: '<' :: r => some (.shiftLeft, r)
  | '<' :: '=' :: r => some (.lessEqual, r)
  | '<' :: r => some (.less, r)
  | '&' :: '&' :: '=' :: r => some (.andAssign, r)
  | '&' :: '&' :: r => some (.and, r)
  | '&' :: '=' :: r => some (.ampersandAssign, r)
  | '&' :: r => some (.ampersand, r)
  | '|' :: '|' :: '=' :: r => some (.orAssign, r)
  | '|' :: '|' :: r => some (.or, r)
  | '|' :: '=' :: r => some (.pipeAssign, r)
  | '|' :: r => some (.pipe, r)
  | '^' :: '=' :: r => some (.caretAssign, r)
  | '^' :: r => some (.caret, r)
  | _ => none

/-- The longest operator that begins with a greater-than sign, given the text behind the sign. -/
def ofGreater : List Char → Mark × List Char
  | '>' :: '>' :: '=' :: r => (.unsignedShiftAssign, r)
  | '>' :: '>' :: r => (.unsignedShift, r)
  | '>' :: '=' :: r => (.shiftRightAssign, r)
  | '>' :: r => (.shiftRight, r)
  | '=' :: r => (.greaterEqual, r)
  | r => (.greater, r)

/-- How tightly a binary operator binds; marks that are no binary operators have no strength. -/
def strength? : Mark → Option Nat
  | .coalesce | .or => some 1
  | .and => some 2
  | .pipe => some 3
  | .caret => some 4
  | .ampersand => some 5
  | .equal | .strictEqual | .notEqual | .strictNotEqual => some 6
  | .less | .lessEqual | .greater | .greaterEqual => some 7
  | .shiftLeft | .shiftRight | .unsignedShift => some 8
  | .plus | .minus => some 9
  | .star | .slash | .percent => some 10
  | .power => some 11
  | _ => none

/-- Whether a mark assigns. -/
def isAssignment : Mark → Bool
  | .assign | .plusAssign | .minusAssign | .starAssign | .powerAssign | .slashAssign
  | .percentAssign | .shiftLeftAssign | .shiftRightAssign | .unsignedShiftAssign
  | .ampersandAssign | .andAssign | .pipeAssign | .orAssign | .caretAssign
  | .coalesceAssign => true
  | _ => false

end Mark

end AddonRegistry.TypeScript
