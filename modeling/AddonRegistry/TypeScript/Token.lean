import AddonRegistry.TypeScript.Cause
import AddonRegistry.TypeScript.Mark

/-!
# Tokens

The words a module is made of.  Keywords are words: which words are reserved, and which are
keywords only in some places, is a question about how they are written.  A word that was written with an
escape sequence is never a keyword.

* `Token` — a token with the value that later reading needs.
* `Token.display` — how a message names a token.
* `isReserved`, `isContextual` — the keywords.
-/

namespace AddonRegistry.TypeScript

/-- A token of a module. -/
inductive Token where
  /-- An identifier or a keyword: what it is called, and which keyword it is. -/
  | word (name : String) (keyword : Option String)
  | mark (mark : Mark)
  /-- A string literal; `none` when its value is no Unicode text. -/
  | string (value : Option String)
  | number
  | bigInt
  | regularExpression
  /-- A stretch of a template up to `${` or, if `closed`, to its end, with the first fault of its
  escape sequences. -/
  | template (closed : Bool) (fault : Option Fault)
  /-- Text between two tags. -/
  | markupText
  | endOfText
  /-- A stretch of text that is no token. -/
  | bad (fault : Fault)
  deriving DecidableEq, Repr

instance : Inhabited Token := ⟨.endOfText⟩

/-- Words that are never identifiers. -/
def alwaysReserved : List String :=
  ["break", "case", "catch", "class", "const", "continue", "debugger", "default", "delete", "do",
    "else", "enum", "export", "extends", "false", "finally", "for", "function", "if", "import",
    "in", "instanceof", "new", "null", "return", "super", "switch", "this", "throw", "true", "try",
    "typeof", "var", "void", "while", "with"]

/-- Words that are no identifiers in a module, whose code is strict throughout. -/
def moduleReserved : List String :=
  ["await", "implements", "interface", "let", "package", "private", "protected", "public",
    "static", "yield"]

/-- Words that are keywords in some places and identifiers in others. -/
def contextualKeywords : List String :=
  ["abstract", "accessor", "any", "as", "assert", "asserts", "async", "bigint", "boolean",
    "declare", "from", "get", "global", "infer", "intrinsic", "is", "keyof", "meta", "namespace",
    "never", "number", "object", "of", "readonly", "require", "satisfies", "set", "string",
    "symbol", "target", "type", "undefined", "unique", "unknown", "using"]

/-- Whether a word cannot be used as an identifier. -/
def isReserved (name : String) : Bool :=
  alwaysReserved.contains name || moduleReserved.contains name

/-- Whether a word is a keyword in some places. -/
def isContextual (name : String) : Bool :=
  contextualKeywords.contains name

namespace Token

/-- How a message names a token: keywords and marks by their spelling, the rest by their class. -/
def display : Token → String
  | .word _ none => "ident"
  | .word _ (some keyword) =>
      if keyword = "typeof" then "typeOf"
      else if keyword = "instanceof" then "instanceOf"
      else keyword
  | .mark m => m.text
  | .string _ => "string literal"
  | .number => "numeric literal"
  | .bigInt => "bigint literal"
  | .regularExpression => "regexp literal"
  | .template true _ => "no substitution template literal"
  | .template false _ => "template head `$\x7b`"
  | .markupText => "jsx text"
  | .endOfText => "<eof>"
  | .bad _ => "<error>"

/-- Whether a token is a particular keyword. -/
def isKeyword (name : String) : Token → Bool
  | .word _ keyword => keyword = some name
  | _ => false

/-- Whether a token is an identifier or a keyword of any sort. -/
def isWord : Token → Bool
  | .word _ _ => true
  | _ => false

/-- Whether a token can be read as a reference to a variable. -/
def isReference : Token → Bool
  | .word _ keyword => keyword.all fun name => !isReserved name
  | _ => false

end Token

end AddonRegistry.TypeScript
