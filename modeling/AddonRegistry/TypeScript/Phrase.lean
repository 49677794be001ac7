/-!
# Syntax trees

The tree of a module is a tree of phrases.  Three kinds of phrase carry their parts in fields of
their own, because the registry is read off them: module declarations, interface declarations and
the elements of an interface.  Every other phrase is a `node`: its kind, the line it starts on,
and its parts in the order in which a walk over the tree visits them.

* `Phrase` — declarations, statements, expressions, patterns and types.
* `Element` — one element of the body of an interface or of an object type.
* `Phrase.identifier?`, `Phrase.isArrow` — the few questions that reading a module asks of a
  phrase it has already read.

A walk visits the fields of a phrase one after the other.  This is the order of the text but for
the following phrases.

* A function lists its parameters, decorators, body, type parameters and result; an arrow function
  has no decorators.  A function type lists its parameters, type parameters and result, a call,
  construct or method signature its parameters, result and type parameters.
* A class lists its name, decorators, members, superclass, type parameters, the type arguments of
  its superclass, and what it implements.  A property of a class lists its value, type and
  decorators.
* A call lists its arguments before its type arguments, a tag its attributes before them, and an
  imported type its type arguments before its attributes.
* A `do` loop lists its condition before its body.

What a phrase has no field for is read and dropped: the bracketed name of a member of an
enumeration, the parameters of a getter, every parameter of a setter that is too many, the
decorators of the parameters of a signature or arrow function, and a type behind a default value.
-/

namespace AddonRegistry.TypeScript

/-- What a `typeof` annotation asks the type of. -/
inductive QueryTarget where
  /-- A single name. -/
  | name (name : String)
  /-- A dotted name. -/
  | qualified
  /-- A module, `typeof import('…')`. -/
  | importedModule
  deriving DecidableEq, Repr, Inhabited

/-- The name of a module declaration. -/
inductive ModuleName where
  /-- A name, as in `namespace N`. -/
  | identifier (name : String)
  /-- A quoted module specifier; `none` when its value is no Unicode text. -/
  | specifier (value : Option String)
  deriving DecidableEq, Repr, Inhabited

/-- Forms of interface element that are not properties. -/
inductive SignatureKind where
  | method
  | index
  | call
  | construct
  | getter
  | setter
  deriving DecidableEq, Repr, Inhabited

/-- The kind of a phrase, together with what its parts do not say. -/
inductive Kind where
  -- Names and literals.  The value of a string literal is `none` when it holds half of a
  -- surrogate pair, which is no Unicode text.
  | identifier (name : String)
  | privateName (name : String)
  | string (value : Option String)
  | number
  | bigInt
  | boolean
  | null
  | regularExpression
  | template
  | thisReference
  | superReference
  -- Expressions.
  | array
  | hole
  | spread
  | object
  | keyValue
  | shorthand (name : String)
  | shorthandDefault (name : String)
  | method
  | getter
  | setter
  | computedKey
  | function
  /-- An arrow function; `typed` says whether the type of its result is its last part. -/
  | arrow (typed : Bool)
  | classBody
  | parenthesized
  | sequence
  | member (optional : Bool)
  | call (optional : Bool)
  | importReference
  | importCall
  | construct (withArguments : Bool)
  | metaProperty
  | taggedTemplate
  | unary
  | deletion
  | update
  | await
  | yield
  | binary
  | conditional
  | assignment (plain : Bool)
  | asserted
  | constAsserted
  | nonNull
  | instantiation
  | decorator
  | markup
  | markupAttribute
  | missing
  -- Binding patterns.
  | arrayPattern
  | objectPattern
  | defaulted
  | rest
  | parameter
  | parameterProperty
  -- Class members.
  | constructorMember
  | methodMember
  | propertyMember
  | indexMember
  | staticBlock
  | emptyMember
  -- Statements and declarations.
  | block
  | empty
  | expressionStatement
  | jump
  | labelled
  | branch
  | loop
  | switchStatement
  | switchClause
  | guarded
  | handler
  | scopeExtension
  | variableList
  | declarator
  | functionDeclaration
  | classDeclaration
  | enumeration
  | enumMember
  | typeAlias
  | importDeclaration
  | importAlias
  | exportDeclaration
  | exportNames
  | exportDefault
  | exportAssignment
  | exportNamespace
  -- Types.  A type query keeps its target; its parts are its type arguments.
  | keywordType
  | typeReference
  | typeQuery (target : QueryTarget) (instantiated : Bool)
  | literalType
  | thisType
  | importType
  | arrayType
  | indexedType
  | tupleType
  | parenthesizedType
  | functionType
  | constructorType
  | unionType
  | intersectionType
  | conditionalType
  | operatorType
  | inferType
  | mappedType
  | predicateType
  | optionalType
  | restType
  | typeParameter
  deriving DecidableEq, Repr, Inhabited

mutual

/-- A phrase of a module and the line it starts on. -/
inductive Phrase where
  /-- A phrase whose parts are other phrases. -/
  | node (kind : Kind) (line : Nat) (parts : List Phrase)
  /-- `module`, `namespace` and `global` declarations. -/
  | module (line : Nat) (name : ModuleName) (body : List Phrase)
  /-- `interface name … { body }`; the heritage lists type parameters and bases. -/
  | interface (line : Nat) (name : String) (heritage : List Phrase) (body : List Element)
  /-- An object type `{ … }`. -/
  | objectType (line : Nat) (body : List Element)

/-- An element of an interface or of an object type. -/
inductive Element where
  /-- `key: type`; a computed key stands in brackets. -/
  | property (line : Nat) (computed : Bool) (key : Phrase) (type : Option Phrase)
  /-- Every other element. -/
  | signature (kind : SignatureKind) (line : Nat) (parts : List Phrase)

end

instance : Inhabited Phrase := ⟨.node .missing 0 []⟩

namespace Phrase

/-- The line a phrase starts on. -/
def line : Phrase → Nat
  | .node _ line _ => line
  | .module line _ _ => line
  | .interface line _ _ _ => line
  | .objectType line _ => line

/-- The kind of a phrase that is a node. -/
def kind? : Phrase → Option Kind
  | .node kind _ _ => some kind
  | _ => none

/-- The parts of a phrase that is a node. -/
def parts : Phrase → List Phrase
  | .node _ _ parts => parts
  | _ => []

/-- The name of a phrase that is a bare identifier. -/
def identifier? : Phrase → Option String
  | .node (.identifier name) _ _ => some name
  | _ => none

/-- Whether a phrase is an arrow function.  Nothing can be appended to one. -/
def isArrow : Phrase → Bool
  | .node (.arrow _) _ _ => true
  | _ => false

end Phrase

/-- The line an element starts on. -/
def Element.line : Element → Nat
  | .property line _ _ _ => line
  | .signature _ line _ => line

end AddonRegistry.TypeScript
