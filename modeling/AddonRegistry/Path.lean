/-!
# Paths

A path is kept as it is spelled.  What it means is its list of components: repeated and trailing
slashes say nothing, and a single dot counts only in front.  A pair of dots stays as it is, since
where it leads depends on the files.

* `Path.components` — what a path means; two paths are the same when these agree (`Path.Same`).
* `Path.join`, `Path.parent?`, `Path.rest?` — building a path, and taking it apart.
* `Path.absolute` — a path seen from a folder.
* `Path.relativeTo` — how a module below one path is named in a module below another.
-/

namespace AddonRegistry

/-- A path as it is spelled. -/
structure Path where
  text : String
  deriving DecidableEq, Repr, Inhabited

/-- What stands between the slashes of a path. -/
inductive Component where
  /-- The slash in front of an absolute path. -/
  | root
  /-- The dot in front of a relative path. -/
  | current
  | parent
  | name (text : String)
  deriving DecidableEq, Repr

namespace Component

/-- How a component is written. -/
def text : Component → String
  | .root => "/"
  | .current => "."
  | .parent => ".."
  | .name text => text

end Component

namespace Path

/-! ## Between the slashes -/

/-- The stretches of a text between its slashes; there is one more of them than slashes. -/
def splitAtSlashes : List Char → List (List Char)
  | [] => [[]]
  | c :: rest =>
      if c = '/' then [] :: splitAtSlashes rest
      else
        match splitAtSlashes rest with
        | [] => [[c]]
        | stretch :: others => (c :: stretch) :: others

/-- Stretches with a slash between each two. -/
def joinWithSlashes : List (List Char) → List Char
  | [] => []
  | [stretch] => stretch
  | stretch :: rest => stretch ++ '/' :: joinWithSlashes rest

/-- Whether a stretch says nothing where it stands behind another. -/
def isIdle (stretch : List Char) : Bool :=
  stretch = [] || stretch = ['.']

/-- The component that a stretch behind the front of a path stands for. -/
def componentOf? (stretch : List Char) : Option Component :=
  if isIdle stretch then none
  else if stretch = ['.', '.'] then some .parent
  else some (.name (String.ofList stretch))

/-- The front of a path, which a slash or a dot makes a component of its own, and the stretches
behind it. -/
def frontAndBody (p : Path) : Option Component × List (List Char) :=
  match splitAtSlashes p.text.toList with
  | [] :: second :: rest => (some .root, second :: rest)
  | ['.'] :: rest => (some .current, rest)
  | stretches => (none, stretches)

/-! ## Meaning -/

/-- The components of a path. -/
def components (p : Path) : List Component :=
  let (front, body) := p.frontAndBody
  front.toList ++ body.filterMap componentOf?

/-- Whether two paths are spellings of the same components. -/
def Same (p q : Path) : Prop := p.components = q.components

instance (p q : Path) : Decidable (p.Same q) := inferInstanceAs (Decidable (_ = _))

/-- Whether a path starts at the root. -/
def isAbsolute (p : Path) : Bool := p.text.toList.head? = some '/'

/-! ## Building paths and taking them apart -/

/-- A path below another.  An absolute path stays what it is. -/
def join (base rest : Path) : Path :=
  if rest.isAbsolute then rest
  else
    match base.text.toList.getLast? with
    | none => rest
    | some '/' => ⟨base.text ++ rest.text⟩
    | some _ => ⟨base.text ++ "/" ++ rest.text⟩

/-- A path that is spelled by a front and stretches. -/
def ofFrontAndBody (front : Option Component) (body : List (List Char)) : Path :=
  match front, body with
  | some .root, body => ⟨"/" ++ String.ofList (joinWithSlashes body)⟩
  | some front, [] => ⟨front.text⟩
  | some front, body => ⟨front.text ++ "/" ++ String.ofList (joinWithSlashes body)⟩
  | none, body => ⟨String.ofList (joinWithSlashes body)⟩

/-- Stretches without the idle ones at the end. -/
def trimEnd (body : List (List Char)) : List (List Char) :=
  (body.reverse.dropWhile isIdle).reverse

/-- The path without its last component; the root has no parent and an empty path has none. -/
def parent? (p : Path) : Option Path :=
  let (front, body) := p.frontAndBody
  match body.reverse.dropWhile isIdle with
  | _ :: above => some (ofFrontAndBody front (trimEnd above.reverse))
  | [] => if front = some .current then some ⟨""⟩ else none

/-- The paths above a path, the nearest first, up to the root or the empty path; `count` bounds
their number. -/
def parents : Nat → Path → List Path
  | 0, _ => []
  | count + 1, p =>
      match p.parent? with
      | some above => above :: parents count above
      | none => []

/-- A path and all those above it, the nearest first. -/
def ancestors (p : Path) : List Path := p :: parents p.components.length p

/-- Stretches behind a number of components, without the idle ones in front. -/
def dropComponents : Nat → List (List Char) → List (List Char)
  | 0, body => body.dropWhile isIdle
  | count + 1, body => dropComponents count (body.dropWhile isIdle).tail

/-- What is left of a path behind the components of another, as it is spelled there. -/
def rest? (p base : Path) : Option Path :=
  if base.components.isPrefixOf p.components then
    let (front, body) := p.frontAndBody
    match front, base.components.length with
    | front, 0 => some (ofFrontAndBody front (trimEnd body))
    | some _, count + 1 => some (ofFrontAndBody none (trimEnd (dropComponents count body)))
    | none, count => some (ofFrontAndBody none (trimEnd (dropComponents count body)))
  else none

/-! ## Seen from elsewhere -/

/-- A path seen from a folder: absolute, without idle stretches, and ending in a slash if it did.
A pair of slashes in front stays a pair, since such paths may have a meaning of their own. -/
def absolute (folder p : Path) : Path :=
  let below := p.components.filter fun c => c ≠ .root ∧ c ≠ .current
  let start : Path :=
    match p.text.toList with
    | '/' :: '/' :: '/' :: _ => ⟨"/"⟩
    | '/' :: '/' :: _ => ⟨"//"⟩
    | '/' :: _ => ⟨"/"⟩
    | _ => folder
  let whole := below.foldl (fun whole c => whole.join ⟨c.text⟩) start
  if p.text.toList.getLast? = some '/' then whole.join ⟨""⟩ else whole

/-- Components with slashes between them. -/
def slashed (components : List Component) : String :=
  "/".intercalate (components.map Component.text)

/-- The length of the longest common beginning of two lists. -/
def commonLength {α : Type} [DecidableEq α] : List α → List α → Nat
  | x :: xs, y :: ys => if x = y then commonLength xs ys + 1 else 0
  | _, _ => 0

/-- The components that lead from the end of one list to the end of another: up to where the two
part, and down again. -/
def climb (path base : List Component) : List Component :=
  let shared := commonLength path base
  List.replicate (base.length - shared) .parent ++ path.drop shared

/-- A path as it is written relative to another. -/
def relativeTo (p base : Path) : String :=
  match p.rest? base with
  | some rest => slashed rest.components
  | none => slashed (climb p.components base.components)

end Path

end AddonRegistry
