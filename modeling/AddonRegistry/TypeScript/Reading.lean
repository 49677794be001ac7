import AddonRegistry.TypeScript.Cursor
import AddonRegistry.TypeScript.Phrase

/-!
# Steps of reading

A reading takes a setting and a cursor and ends in one of two ways: it returns a value and the
cursor behind what it read, or it fails and leaves the cursor where the fault was found.  The
cursor of a failure matters, because a few rules of the grammar go on from there.  A reading that
is only tried out gives its cursor back (`Reading.attempt`).

* `Setting` — what surrounds a phrase and changes how it is read.
* `Reading` — a step, with the operations of a monad.
* `expect`, `eat`, `endStatement` — the steps on single tokens.
* `Reading.collect`, `Reading.listed` — repetition.  Every round reads at least one token, so the
  bound that the cursor carries is never reached.
-/

namespace AddonRegistry.TypeScript

/-- What surrounds a phrase. -/
structure Setting where
  /-- Whether `<` may open a tag. -/
  markup : Bool
  /-- Whether `in` is an operator here. -/
  membership : Bool
  /-- Whether the nearest function is a generator. -/
  generator : Bool
  /-- Whether the nearest function is asynchronous. -/
  asynchronous : Bool
  /-- Whether the declaration is only announced, by `declare`. -/
  ambient : Bool
  /-- Whether a colon of a conditional expression is still to come. -/
  colonAwaited : Bool
  /-- Whether the phrase is a branch of a conditional expression. -/
  inConditional : Bool
  /-- Whether the word `extends` belongs to an enclosing type. -/
  extendsTaken : Bool
  /-- Whether the phrase stands at the head of a `for` loop. -/
  loopHead : Bool
  /-- Whether a function or class surrounds the phrase. -/
  enclosed : Bool
  deriving Repr

/-- The setting of the items of a module. -/
def Setting.outermost (markup : Bool) : Setting :=
  ⟨markup, false, false, false, false, false, false, false, false, false⟩

/-- How a step of reading ends. -/
inductive Outcome (α : Type) where
  | done (value : α) (cursor : Cursor)
  | failed (fault : Fault) (cursor : Cursor)

/-- A step of reading. -/
def Reading (α : Type) : Type := Setting → Cursor → Outcome α

namespace Reading

variable {α β : Type}

/-- Reads nothing. -/
@[inline] protected def pure (value : α) : Reading α := fun _ c => .done value c

/-- One step and then another, which may depend on the value of the first. -/
@[inline] protected def bind (step : Reading α) (next : α → Reading β) : Reading β := fun s c =>
  match step s c with
  | .done value c => next value s c
  | .failed fault c => .failed fault c

instance : Monad Reading where
  pure := Reading.pure
  bind := Reading.bind

instance : Inhabited (Reading α) := ⟨fun _ c => .failed ⟨c.line, .unexpectedEnd⟩ c⟩

/-- The cursor. -/
@[inline] def cursor : Reading Cursor := fun _ c => .done c c

/-- The setting. -/
@[inline] def setting : Reading Setting := fun s c => .done s c

/-- Moves the cursor. -/
@[inline] def move (f : Cursor → Cursor) : Reading Unit := fun _ c => .done () (f c)

/-- A step in another setting. -/
@[inline] def under (change : Setting → Setting) (step : Reading α) : Reading α :=
  fun s c => step (change s) c

/-- Fails with a fault. -/
@[inline] def failWith (fault : Fault) : Reading α := fun _ c => .failed fault c

/-- Fails at the current token. -/
@[inline] def fail (cause : Cause) : Reading α := fun _ c => .failed ⟨c.line, cause⟩ c

/-- Fails because the current token starts none of the phrases that may stand here. -/
def unexpected (wanted : String) : Reading α := fun _ c =>
  .failed ⟨c.line, .unexpected c.token.display wanted⟩ c

/-- Tries a step; unless it returns something, nothing has been read. -/
def attempt (step : Reading (Option α)) : Reading (Option α) := fun s c =>
  match step s c with
  | .done (some value) c => .done (some value) c
  | _ => .done none c

/-- Asks a question by reading on, and goes back. -/
def lookAhead (question : Reading Bool) : Reading Bool := fun s c =>
  match question s c with
  | .done answer _ => .done answer c
  | .failed _ _ => .done false c

/-- A step whose failure is passed over: what it read stays read. -/
def lenient (step : Reading α) : Reading (Option α) := fun s c =>
  match step s c with
  | .done value c => .done (some value) c
  | .failed _ c => .done none c

/-- Repeats a step while a question is answered with yes. -/
def repeatWhile (more : Reading Bool) (step : Reading α) :
    (fuel : Nat) → (read : List α) → Reading (List α)
  | 0, _ => fail .unexpectedEnd
  | n + 1, read => fun s c =>
      match more s c with
      | .failed fault c => .failed fault c
      | .done false c => .done read.reverse c
      | .done true c =>
          match step s c with
          | .failed fault c => .failed fault c
          | .done value c => repeatWhile more step n (value :: read) s c

/-- What a step reads, time after time, while a question is answered with yes. -/
def collect (more : Reading Bool) (step : Reading α) : Reading (List α) := fun s c =>
  repeatWhile more step c.bound [] s c

/-- What a step reads, time after time, until it reads nothing. -/
def collectSomeFrom (step : Reading (Option α)) : (fuel : Nat) → (read : List α) → Reading (List α)
  | 0, _ => fail .unexpectedEnd
  | n + 1, read => fun s c =>
      match step s c with
      | .failed fault c => .failed fault c
      | .done none c => .done read.reverse c
      | .done (some value) c => collectSomeFrom step n (value :: read) s c

/-- What a step reads, time after time, until it reads nothing. -/
def collectSome (step : Reading (Option α)) : Reading (List α) := fun s c =>
  collectSomeFrom step c.bound [] s c

/-- Repeats a step that says when to stop, and passes a value from round to round. -/
def iterateFrom (step : α → Reading (α × Bool)) : (fuel : Nat) → α → Reading α
  | 0, _ => fail .unexpectedEnd
  | n + 1, value => fun s c =>
      match step value s c with
      | .failed fault c => .failed fault c
      | .done (value, true) c => iterateFrom step n value s c
      | .done (value, false) c => .done value c

/-- Repeats a step until it says that it is finished. -/
def iterate (step : α → Reading (α × Bool)) (value : α) : Reading α := fun s c =>
  iterateFrom step c.bound value s c

end Reading

open Reading

/-! ## Single tokens -/

/-- Goes on to the next token. -/
def bump : Reading Unit := move Cursor.next

/-- Whether the current token is a mark. -/
def atMark (mark : Mark) : Reading Bool := fun _ c => .done (c.isMark mark) c

/-- Whether the current token is a keyword. -/
def atKeyword (name : String) : Reading Bool := fun _ c => .done (c.isKeyword name) c

/-- Whether the text ends here. -/
def atEnd : Reading Bool := fun _ c => .done (c.token = .endOfText) c

/-- Whether the current token is an identifier or a keyword of any sort. -/
def atWord : Reading Bool := fun _ c => .done c.token.isWord c

/-- Whether the current token can be a reference to a variable. -/
def atReference : Reading Bool := fun _ c => .done c.token.isReference c

/-- The line of the current token. -/
def currentLine : Reading Nat := fun _ c => .done c.line c

/-- Whether a line ended in front of the current token. -/
def lineBroke : Reading Bool := fun _ c => .done c.broke c

/-- Whether a statement may end here. -/
def atStatementEnd : Reading Bool := fun _ c => .done c.endsStatement c

/-- The token after the current one, with its surroundings. -/
def peek : Reading Cursor := fun _ c => .done c.next c

/-- Passes over a mark, if it stands here. -/
def eat (mark : Mark) : Reading Bool := fun _ c =>
  if c.isMark mark then .done true c.next else .done false c

/-- Passes over a keyword, if it stands here. -/
def eatKeyword (name : String) : Reading Bool := fun _ c =>
  if c.isKeyword name then .done true c.next else .done false c

/-- Passes over a mark that has to stand here. -/
def expect (mark : Mark) : Reading Unit := fun _ c =>
  if c.isMark mark then .done () c.next
  else .failed ⟨c.line, .expected mark.text c.token.display⟩ c

/-- Passes over a keyword that has to stand here. -/
def expectKeyword (name : String) : Reading Unit := fun _ c =>
  if c.isKeyword name then .done () c.next
  else .failed ⟨c.line, .expected name c.token.display⟩ c

/-- Passes over a semicolon, and says whether the statement ends here. -/
def eatStatementEnd : Reading Bool := fun _ c =>
  if c.isMark .semicolon then .done true c.next else .done c.endsStatement c

/-- The statement has to end here. -/
def endStatement : Reading Unit := fun _ c =>
  if c.isMark .semicolon then .done () c.next
  else if c.endsStatement then .done () c
  else .failed ⟨c.line, .expected Mark.semicolon.text c.token.display⟩ c

/-- What a comma-separated list holds up to where it is closed. -/
def listedUntil {α : Type} (closed : Reading Bool) (item : Reading α) : Reading (List α) :=
  collect (do return !(← closed)) do
    let value ← item
    if !(← closed) then expect .comma
    return value

/-- What a comma-separated list holds up to, and without, its closing mark. -/
def listed {α : Type} (close : Mark) (item : Reading α) : Reading (List α) :=
  listedUntil (atMark close) item

/-! ## Names -/

/-- A word of any sort and the line it stands on. -/
def word : Reading (String × Nat) := do
  let c ← cursor
  match c.token with
  | .word name _ =>
      bump
      return (name, c.line)
  | _ => fail .expectedIdentifier

/-- A name, which may be any word. -/
def nameWord : Reading Phrase := do
  let (name, line) ← word
  return .node (.identifier name) line []

/-- A name that something is bound to.  Reserved words are refused; `await` is reserved except in
announcements. -/
def boundName : Reading Phrase := do
  let c ← cursor
  match c.token with
  | .word name keyword =>
      bump
      if keyword = some "await" && !(← setting).ambient then
        failWith ⟨c.line, .awaitAsIdentifier⟩
      else if keyword ≠ some "this" && keyword ≠ some "enum" && keyword.any alwaysReserved.contains
      then failWith ⟨c.line, .expectedIdentifier⟩
      else return .node (.identifier name) c.line []
  | _ => fail .expectedIdentifier

/-- A private name where a value stands: a hash and a word, with or without a space between. -/
def privateValue : Reading Phrase := do
  let c ← cursor
  bump
  let (name, _) ← word
  return .node (.privateName name) c.line []

/-- A private name where a member is named: a hash and a word right behind it. -/
def privateName : Reading Phrase := do
  let c ← cursor
  if c.rest.length = c.next.text.length then privateValue
  else
    bump
    failWith ⟨c.line, .spaceAfterHash⟩

/-- A name of a member, which may be private. -/
def memberName : Reading Phrase := do
  if ← atMark .hash then privateName else nameWord

/-- Modifiers stand in front of something they can modify: a word that is followed by a name or, on
the same line, by a mark that starts a member. -/
def modifier? (allowed : List String) : Reading (Option String) := do
  let c ← cursor
  match c.token with
  | .bad fault => failWith fault
  | .endOfText => fail .unexpectedEnd
  | .word name keyword =>
      let isCandidate := allowed.contains name &&
        keyword.all fun k => !alwaysReserved.contains k || k = "in" || k = "const"
      let n := c.next
      let canFollow := match n.token with
        | .word _ _ | .string _ | .number | .bigInt => true
        | .mark m => !n.broke &&
            (m = .openBracket || m = .openBrace || m = .star || m = .ellipsis || m = .hash)
        | _ => false
      if isCandidate && canFollow then
        bump
        return some name
      else return none
  | _ => return none

/-- Passes over a modifier of a parameter or property, if one stands here. -/
def eatAccessModifier : Reading Bool := do
  let c ← cursor
  let isModifier := ["public", "protected", "private", "readonly"].any c.isKeyword
  let n := c.next
  if isModifier && (n.token.isWord || n.isMark .openBrace || n.isMark .openBracket) then
    let _ ← lenient (modifier? ["public", "protected", "private", "readonly"])
    return true
  else return false

end AddonRegistry.TypeScript
