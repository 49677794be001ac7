import AddonRegistry.Unicode.Printable

/-!
# Why a text is not a module

A text that cannot be read as a module has a first fault: a line and a cause.  This file lists the
causes and gives each its wording.

* `Cause` — what is wrong, with the tokens involved named as a message names them.
* `Cause.message` — the wording.
* `Fault` — a cause and the line it is reported on.
-/

namespace AddonRegistry.TypeScript

/-- What must follow the start of an escape sequence. -/
inductive EscapeForm where
  | twoDigits
  | fourDigits
  | codePoint
  deriving DecidableEq, Repr

/-- What is wrong with a text that is not a module. -/
inductive Cause where
  /-- A token stands where none of the expected phrases can start. -/
  | unexpected (got wanted : String)
  /-- One particular token is missing. -/
  | expected (token got : String)
  /-- An expression is followed by something that ends no statement. -/
  | unterminatedStatement
  | expectedIdentifier
  | expectedExpression
  | unexpectedEnd
  | unexpectedCharacter (c : Char)
  | badEscape (form : EscapeForm)
  | invalidUnicodeEscape
  | expectedUnicodeEscape
  | legacyOctal
  | expectedDigit (radix : Nat)
  | identifierAfterNumber
  | unterminatedTemplate
  | unterminatedRegularExpression
  | spaceAfterHash
  | awaitAsIdentifier
  | importOutsideModule
  | stringImportBinding (name : String)
  | lineBreakBeforeArrow
  | arrowNotAllowed
  | lineBreakAfterThrow
  | emptyParentheses
  | spreadInParentheses
  | notAnExpression
  | notAPattern
  | invalidAssignmentTarget
  | patternWithoutInitializer
  | optionalPattern
  | unaryBeforePower
  | importArguments
  | optionalConstruction
  | invalidSuper
  | invalidSuperCall
  | asyncConstructor
  | fieldNamedConstructor
  | readonlyMethod
  | readonlyAccessor
  | setterParameter
  | patternParameterProperty
  | restWithoutIdentifier
  | repeatedDecorators
  | repeatedDefault
  | forAwaitOutsideOf
  | awaitStar
  | importNotAllowed
  | exportNotAllowed
  | unmatchedMarkup (name : String)
  | unterminatedMarkup
  | emptyMarkupAttribute
  | invalidMarkupValue
  deriving DecidableEq, Repr

namespace Cause

/-- What an escape sequence should have held. -/
def escapeWording : EscapeForm → String
  | .twoDigits => "2 hex characters"
  | .fourDigits => "4 hex characters"
  | .codePoint => "1-6 hex characters in the range 0 to 10FFFF."

/-- A digit of a radix, with its article. -/
def digitWording : Nat → String
  | 2 => "a binary"
  | 8 => "an octal"
  | 10 => "a decimal"
  | _ => "a hexadecimal"

/-- The wording of a cause. -/
def message : Cause → String
  | .unexpected got wanted => "Unexpected token `" ++ got ++ "`. Expected " ++ wanted
  | .expected token got => "Expected '" ++ token ++ "', got '" ++ got ++ "'"
  | .unterminatedStatement => "Expected ';', '\x7d' or <eof>"
  | .expectedIdentifier => "Expected ident"
  | .expectedExpression => "Expression expected"
  | .unexpectedEnd => "Unexpected eof"
  | .unexpectedCharacter c => "Unexpected character " ++ Unicode.quoted c
  | .badEscape form => "Bad character escape sequence, expected " ++ escapeWording form
  | .invalidUnicodeEscape => "Invalid unicode escape"
  | .expectedUnicodeEscape => "Expected unicode escape"
  | .legacyOctal => "Legacy octal escape is not permitted in strict mode"
  | .expectedDigit radix => "Expected " ++ digitWording radix ++ " digit"
  | .identifierAfterNumber => "Identifier cannot follow number"
  | .unterminatedTemplate => "Unterminated template"
  | .unterminatedRegularExpression => "Unterminated regexp literal"
  | .spaceAfterHash => "Unexpected space between # and identifier"
  | .awaitAsIdentifier => "`await` cannot be used as an identifier in an async context"
  | .importOutsideModule => "'import', and 'export' cannot be used outside of module code"
  | .stringImportBinding name =>
      "A string literal cannot be used as an imported binding.\n- Did you mean `import \x7b \"" ++
        name ++ "\" as foo \x7d`?"
  | .lineBreakBeforeArrow => "Unexpected line break between arrow head and arrow"
  | .arrowNotAllowed => "An arrow function is not allowed here"
  | .lineBreakAfterThrow => "LineBreak cannot follow 'throw'"
  | .emptyParentheses => "Parenthesized expression cannot be empty"
  | .spreadInParentheses => "Parenthesized expression cannot contain spread operator"
  | .notAnExpression => "Not an expression"
  | .notAPattern => "Not a pattern"
  | .invalidAssignmentTarget => "Invalid assignment target"
  | .patternWithoutInitializer => "Destructuring bindings require initializers"
  | .optionalPattern =>
      "A binding pattern parameter cannot be optional in an implementation signature."
  | .unaryBeforePower => "'**' cannot be applied to unary/await expression."
  | .importArguments => "`import()` requires exactly one or two arguments"
  | .optionalConstruction => "Constructor call cannot be optional"
  | .invalidSuper => "Invalid access to super"
  | .invalidSuperCall => "Invalid access to super"
  | .asyncConstructor => "Constructor can't be an async function"
  | .fieldNamedConstructor => "Classes may not have a non-static field named 'constructor'"
  | .readonlyMethod => "A method cannot be readonly"
  | .readonlyAccessor => "A getter or a setter cannot be readonly"
  | .setterParameter => "A setter must have exactly one parameter"
  | .patternParameterProperty =>
      "Typescript parameter property must be an identifier or assignment pattern"
  | .restWithoutIdentifier =>
      "\x60...\x60 must be followed by an identifier in declaration contexts"
  | .repeatedDecorators =>
      "Decorators may not appear after 'export' or 'export default' if they also appear before " ++
        "'export'."
  | .repeatedDefault => "A switch block cannot have multiple defaults"
  | .forAwaitOutsideOf => "for await syntax is valid only for for-of statement"
  | .awaitStar =>
      "await* has been removed from the async functions proposal. Use Promise.all() instead."
  | .importNotAllowed => "Import is not allowed here"
  | .exportNotAllowed => "`export` is not allowed here"
  | .unmatchedMarkup name => "Expected corresponding JSX closing tag for <" ++ name ++ ">"
  | .unterminatedMarkup => "Unterminated JSX contents"
  | .emptyMarkupAttribute => "JSX attributes must only be assigned a non-empty expression"
  | .invalidMarkupValue => "JSX value should be either an expression or a quoted JSX text"

end Cause

/-- The first fault of a text that is not a module. -/
structure Fault where
  line : Nat
  cause : Cause
  deriving DecidableEq, Repr

end AddonRegistry.TypeScript
