/-!
# Patterns of names

A pattern stands for names.  A question mark stands for any character, a star for any number of them,
brackets for one of a set or, behind an exclamation mark, for one that is not in the set.  Two stars
alone between slashes stand for folders at any depth.  Everything else stands for itself.

* `Token`, `tokens` — the parts of a pattern, or the first fault in it.
* `fits` — whether a name fits a pattern.  The case of ASCII letters does not matter, and a dot in
  front of a name fits only a dot.
* `escape` — the pattern that stands for a text alone.
-/

namespace AddonRegistry.Glob

/-- Characters that brackets list. -/
inductive CharSpan where
  | one (c : Char)
  | between (first last : Char)
  deriving DecidableEq, Repr

/-- A part of a pattern. -/
inductive Token where
  | char (c : Char)
  | anyChar
  | anyChars
  | anyDepth
  | within (spans : List CharSpan)
  | without (spans : List CharSpan)
  deriving DecidableEq, Repr

/-! ## Reading patterns -/

/-- What is wrong with a pattern. -/
inductive PatternCause where
  /-- There are three or more stars in a row. -/
  | threeStars
  /-- Two stars share their stretch between slashes with something else. -/
  | partialDepth
  /-- A bracket opens that lists no characters. -/
  | openBracket
  deriving DecidableEq, Repr

/-- What is wrong with a pattern, and near which of its characters. -/
structure PatternFault where
  position : Nat
  cause : PatternCause
  deriving DecidableEq, Repr

/-- The wording of a cause. -/
def PatternCause.message : PatternCause → String
  | .threeStars => "wildcards are either regular `*` or recursive `**`"
  | .partialDepth => "recursive wildcards must form a single path component"
  | .openBracket => "invalid range pattern"

/-- The wording of a fault. -/
def PatternFault.message (fault : PatternFault) : String :=
  "Pattern syntax error near position " ++ toString fault.position ++ ": " ++ fault.cause.message

/-- The spans that the characters between brackets list. -/
def spans : List Char → List CharSpan
  | first :: '-' :: last :: rest => .between first last :: spans rest
  | c :: rest => .one c :: spans rest
  | [] => []

/-- The characters in front of the first closing bracket, of which there has to be at least one, and
what follows it.  A closing bracket in the first place counts as listed. -/
def untilBracket? : List Char → Option (List Char × List Char)
  | [] => none
  | first :: rest =>
      match rest.dropWhile (· ≠ ']') with
      | _ :: behind => some (first :: rest.takeWhile (· ≠ ']'), behind)
      | [] => none

/-- The set that follows an opening bracket, the number of its characters with both brackets, and
what follows it. -/
def bracketed? : List Char → Option (Token × Nat × List Char)
  | '!' :: rest =>
      (untilBracket? rest).map fun (listed, behind) =>
        (.without (spans listed), listed.length + 3, behind)
  | rest =>
      (untilBracket? rest).map fun (listed, behind) =>
        (.within (spans listed), listed.length + 2, behind)

/-- The tokens of the rest of a pattern, which starts at a position behind a character; `fuel` is at
least its length. -/
def tokensFrom : Nat → Nat → Option Char → List Char → Except PatternFault (List Token)
  | 0, _, _, _ => .ok []
  | _, _, _, [] => .ok []
  | fuel + 1, position, before, '*' :: rest =>
      match rest with
      | '*' :: '*' :: _ => .error ⟨position + 2, .threeStars⟩
      | '*' :: rest =>
          if before = none ∨ before = some '/' then
            match rest with
            | [] => .ok [.anyDepth]
            | '/' :: rest => (tokensFrom fuel (position + 3) (some '/') rest).map (.anyDepth :: ·)
            | _ => .error ⟨position + 2, .partialDepth⟩
          else .error ⟨position - 1, .partialDepth⟩
      | rest => (tokensFrom fuel (position + 1) (some '*') rest).map (.anyChars :: ·)
  | fuel + 1, position, _, '?' :: rest =>
      (tokensFrom fuel (position + 1) (some '?') rest).map (.anyChar :: ·)
  | fuel + 1, position, _, '[' :: rest =>
      match bracketed? rest with
      | some (token, count, rest) =>
          (tokensFrom fuel (position + count) (some ']') rest).map (token :: ·)
      | none => .error ⟨position, .openBracket⟩
  | fuel + 1, position, _, c :: rest =>
      (tokensFrom fuel (position + 1) (some c) rest).map (.char c :: ·)

/-- The tokens of a pattern. -/
def tokens (pattern : List Char) : Except PatternFault (List Token) :=
  tokensFrom pattern.length 0 none pattern

/-- The text that tokens stand for, if they stand for one text alone. -/
def literal? : List Token → Option (List Char)
  | [] => some []
  | .char c :: rest => (literal? rest).map (c :: ·)
  | _ => none

/-- The pattern that stands for a text alone. -/
def escape (text : List Char) : List Char :=
  text.flatMap fun c => if c = '?' ∨ c = '*' ∨ c = '[' ∨ c = ']' then ['[', c, ']'] else [c]

/-! ## Fitting names -/

/-- Whether two characters are the same up to the case of ASCII letters. -/
def sameLetter (a b : Char) : Bool := a.toLower = b.toLower

/-- Whether a character is listed.  Between two ASCII letters the case does not matter either. -/
def CharSpan.lists (c : Char) : CharSpan → Bool
  | .one d => sameLetter c d
  | .between first last =>
      (first.isAlpha && last.isAlpha && first.toLower ≤ c.toLower && c.toLower ≤ last.toLower) ||
        (first ≤ c && c ≤ last)

/-- Whether a character fits a token that stands for one character. -/
def Token.accepts (c : Char) : Token → Bool
  | .char d => sameLetter c d
  | .anyChar => true
  | .within spans => spans.any (·.lists c)
  | .without spans => !spans.any (·.lists c)
  | .anyChars | .anyDepth => false

/-- Whether a token stands for any number of characters. -/
def Token.isOpen : Token → Bool
  | .anyChars | .anyDepth => true
  | _ => false

/-- Whether what is left of a name behind any number of characters is fine for `rest`, which is told
whether it starts the name.  The number is zero where the name starts with a dot. -/
def behindSome (rest : Bool → List Char → Bool) : Bool → List Char → Bool
  | first, [] => rest first []
  | first, c :: name =>
      rest first (c :: name) || (!(first && c = '.') && behindSome rest false name)

/-- Whether a part of a name, which may start it, fits tokens. -/
def fitsFrom : List Token → Bool → List Char → Bool
  | [], _, name => name.isEmpty
  | token :: rest, first, name =>
      if token.isOpen then behindSome (fitsFrom rest) first name
      else
        match name with
        | [] => false
        | c :: name =>
            (match token with
              | .char _ => true
              | _ => !(first && c = '.')) && token.accepts c && fitsFrom rest false name

/-- Whether a name fits a pattern. -/
def fits (pattern : List Token) (name : String) : Bool := fitsFrom pattern true name.toList

end AddonRegistry.Glob
