/-!
# Similar names

Two names are similar if many of their characters stand at nearly the same place.  A character is
matched with an equal one that is not matched yet and not too far away; `similarity` grows with the
share of matched characters on both sides and falls with the number of those that change places.

* `similarity` — from zero to one.
* `mostSimilar?` — the most similar of some names, if it is similar enough.
-/

namespace AddonRegistry.CommandLine

/-- Takes the first of the items from an index on that is equal to a character and not taken. -/
def takeFirst (c : Char) (first last : Nat) : Nat → List (Char × Bool) → Option (List (Char × Bool))
  | _, [] => none
  | index, (d, taken) :: rest =>
      if first ≤ index && index < last && c = d && !taken then some ((d, true) :: rest)
      else (takeFirst c first last (index + 1) rest).map ((d, taken) :: ·)

/-- The characters of a name that are matched, and the items of the other name with those that were
taken. -/
def matchUp (reach : Nat) : Nat → List Char → List (Char × Bool) → List Char × List (Char × Bool)
  | _, [], items => ([], items)
  | index, c :: rest, items =>
      match takeFirst c (index - reach) (index + reach + 1) 0 items with
      | some items =>
          let (matched, items) := matchUp reach (index + 1) rest items
          (c :: matched, items)
      | none => matchUp reach (index + 1) rest items

/-- How similar two names are. -/
def similarity (a b : List Char) : Float :=
  if a.isEmpty && b.isEmpty then 1
  else
    let reach := max a.length b.length / 2 - 1
    let (matched, items) := matchUp reach 0 a (b.map fun c => (c, false))
    if matched.isEmpty then 0
    else
      let taken := (items.filter (·.2)).map (·.1)
      let moved := ((matched.zip taken).filter fun (c, d) => c ≠ d).length / 2
      let count := matched.length.toUInt64.toFloat
      (count / a.length.toUInt64.toFloat + count / b.length.toUInt64.toFloat +
        (matched.length - moved).toUInt64.toFloat / count) / 3

/-- The most similar of some names, and the last of them if there are several, if it is similar
enough. -/
def mostSimilar? (name : String) (names : List String) : Option String :=
  let best := names.foldl (fun (best : Option (Float × String)) candidate =>
    let here := similarity name.toList candidate.toList
    if here > 0.7 then
      match best with
      | some (other, _) => if other > here then best else some (here, candidate)
      | none => some (here, candidate)
    else best) none
  best.map (·.2)

end AddonRegistry.CommandLine
