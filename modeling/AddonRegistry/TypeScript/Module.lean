import AddonRegistry.TypeScript.Grammar.Markup
import AddonRegistry.TypeScript.Grammar.Modules

/-!
# Reading a module

The grammar's functions read a phrase given a way to read the phrases inside it.  Here the circle
is closed: `Phrase.read` reads phrases down to a given depth, and `Module.parse` reads a whole text
with a depth that no text of its length can reach.

* `Phrase.read` — a phrase of any category.
* `parse` — the items of a module, or its first fault.
-/

namespace AddonRegistry.TypeScript

/-- Reads a phrase of a category, with at most `depth` phrases inside each other. -/
def Phrase.read : (depth : Nat) → Reader
  | 0 => fun _ => Reading.fail .unexpectedEnd
  | depth + 1 => fun category =>
      let read := Phrase.read depth
      match category with
      | .expression => Grammar.expression read
      | .assignment => Grammar.assignment read
      | .unary arrow => Grammar.unary read arrow
      | .leftHand => Grammar.leftHand read false
      | .construction => Grammar.construction read false
      | .operations left strength => Grammar.operations read left strength
      | .subscripts base calls brackets => Grammar.subscripts read base calls brackets
      | .object => Grammar.object read
      | .markup inside => Grammar.markup read inside
      | .pattern => Grammar.binding read false
      | .type => Grammar.type read
      | .unconditionalType => Grammar.unconditionalType read
      | .typeOperand => Grammar.operandType read
      | .statement declarations => Grammar.statement read declarations
      | .item => Grammar.item read
      | .block => Grammar.block read

/-- A depth that phrases in a text of a given length cannot reach: between two phrases that start
at the same token there are fewer categories than this counts for each token. -/
def depthBound (length : Nat) : Nat := 16 * (length + 4)

/-- The items of a module, in order, or the first fault of its text.  `markup` says whether the
text may hold tags. -/
def parse (text : List Char) (markup : Bool) : Except Fault (List Phrase) :=
  let read := Phrase.read (depthBound text.length)
  let items := Reading.collect (do return !(← atEnd)) (read .item)
  match items (.outermost markup) (.start text) with
  | .done items _ => .ok items
  | .failed fault _ => .error fault

end AddonRegistry.TypeScript
