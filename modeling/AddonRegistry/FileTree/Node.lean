/-!
# Files and folders

A file holds bytes, and a folder holds named files and folders.  A place in a folder is the list of
the names that lead to it.

* `Node.get?` — what is at a place.
* `Node.put` — a folder with something new at a place.
* `sortByName` — entries in the order of their names, character by character.
* `Node.descendants` — everything below a folder, each folder in front of what it holds.
-/

namespace AddonRegistry

/-- A file or a folder. -/
inductive Node where
  | file (content : ByteArray)
  | folder (entries : List (String × Node))
  deriving Inhabited

/-- Entries in which a name stands for `node`. -/
def putEntry (name : String) (node : Node) : List (String × Node) → List (String × Node)
  | [] => [(name, node)]
  | (other, old) :: rest =>
      if other = name then (name, node) :: rest else (other, old) :: putEntry name node rest

/-- Puts an entry behind those with smaller names. -/
def insertByName {α : Type} (entry : String × α) : List (String × α) → List (String × α)
  | [] => [entry]
  | other :: rest =>
      if other.1 < entry.1 then other :: insertByName entry rest else entry :: other :: rest

/-- Entries in the order of their names. -/
def sortByName {α : Type} (entries : List (String × α)) : List (String × α) :=
  entries.foldr insertByName []

namespace Node

/-- A folder that holds nothing. -/
def empty : Node := .folder []

/-- Whether a node is a folder. -/
def isFolder : Node → Bool
  | .folder _ => true
  | .file _ => false

/-- What is at a place. -/
def get? : Node → List String → Option Node
  | node, [] => some node
  | .file _, _ :: _ => none
  | .folder entries, name :: rest =>
      match entries.lookup name with
      | some child => child.get? rest
      | none => none

/-- A folder with a node at a place.  Missing folders on the way are added, and nothing changes if a
file stands in the way. -/
def put : Node → List String → Node → Node
  | _, [], new => new
  | .file content, _ :: _, _ => .file content
  | .folder entries, name :: rest, new =>
      .folder (putEntry name (((entries.lookup name).getD empty).put rest new) entries)

mutual

/-- Everything below a folder with the names that lead there: each folder in front of what it holds,
and otherwise in the order of the names. -/
def descendants : Node → List (List String × Node)
  | .file _ => []
  | .folder entries => (sortByName (blocks entries)).flatMap (·.2)

/-- For each entry, itself and everything below it. -/
def blocks : List (String × Node) → List (String × List (List String × Node))
  | [] => []
  | (name, node) :: rest =>
      (name, ([name], node) :: node.descendants.map fun (names, below) => (name :: names, below)) ::
        blocks rest

end

/-- The names in a folder, in order. -/
def names : Node → List String
  | .file _ => []
  | .folder entries => (sortByName entries).map (·.1)

end Node

end AddonRegistry
