import AddonRegistry.Glob.Search
import AddonRegistry.Proofs.FileTree.Walks

/-!
# What does not depend on the bytes of files

The shape of a tree is the tree with all its files empty.  Paths lead to the same places in a tree and
in its shape, and a search by patterns finds the same files in both: so neither depends on what the
files hold.  A file that is overwritten leaves the shape of the tree as it was.

* `Node.shape`, `FileTree.shape` — a tree with all its files empty.
* `locate_shape`, `find_shape` — where paths lead.
* **`filesMatching_shape`** — what patterns find.
* `shape_put_file` — a file that is overwritten keeps the shape.
* **`readText_put_of_ne`** — and every other file keeps its text.
-/

namespace AddonRegistry

namespace Node

mutual

/-- A node with all its files empty. -/
def shape : Node → Node
  | .file _ => .file .empty
  | .folder entries => .folder (shapes entries)

/-- Entries with all their files empty. -/
def shapes : List (String × Node) → List (String × Node)
  | [] => []
  | (name, node) :: rest => (name, node.shape) :: shapes rest

end

lemma lookup_shapes (name : String) :
    ∀ entries, (shapes entries).lookup name = (entries.lookup name).map shape
  | [] => rfl
  | (other, node) :: rest => by
      rw [shapes, List.lookup_cons, List.lookup_cons, lookup_shapes name rest]
      cases name == other <;> rfl

lemma get?_shape (place : List String) :
    ∀ node : Node, node.shape.get? place = (node.get? place).map shape := by
  induction place with
  | nil => intro node; simp
  | cons name rest ih =>
      intro node
      cases node with
      | file content => rfl
      | folder entries =>
          rw [shape, get?_folder_cons, get?_folder_cons, lookup_shapes]
          cases entries.lookup name with
          | none => rfl
          | some child => exact ih child

lemma shapes_putEntry (name : String) (node : Node) :
    ∀ entries, shapes (putEntry name node entries) = putEntry name node.shape (shapes entries)
  | [] => rfl
  | (other, old) :: rest => by
      rw [putEntry, shapes, putEntry]
      split_ifs
      · rfl
      · rw [shapes, shapes_putEntry name node rest]

lemma shape_put (new : Node) (place : List String) :
    ∀ node : Node, (node.put place new).shape = node.shape.put place new.shape := by
  induction place with
  | nil => intro node; simp
  | cons name rest ih =>
      intro node
      cases node with
      | file content => rfl
      | folder entries =>
          rw [put_folder_cons, shape, shapes_putEntry, ih, shape, put_folder_cons, lookup_shapes]
          cases entries.lookup name <;> rfl

/-- A file that is overwritten keeps the shape. -/
lemma shape_put_file {node : Node} {place : List String} {old new : ByteArray}
    (h : node.get? place = some (.file old)) : (node.put place (.file new)).shape = node.shape := by
  rw [shape_put]
  refine put_of_get? ?_
  rw [get?_shape, h]
  rfl

@[simp] lemma isFolder_shape (node : Node) : node.shape.isFolder = node.isFolder := by
  cases node <;> rfl

/-! ## Names and descendants -/

lemma insertByName_map {α β : Type} (f : α → β) (entry : String × α) :
    ∀ entries, insertByName (entry.1, f entry.2) (entries.map fun e => (e.1, f e.2))
      = (insertByName entry entries).map fun e => (e.1, f e.2)
  | [] => rfl
  | other :: rest => by
      rw [List.map_cons, insertByName, insertByName]
      dsimp only
      split_ifs
      · rw [insertByName_map f entry rest, List.map_cons]
      · rfl

lemma sortByName_map {α β : Type} (f : α → β) :
    ∀ entries : List (String × α), sortByName (entries.map fun e => (e.1, f e.2))
      = (sortByName entries).map fun e => (e.1, f e.2)
  | [] => rfl
  | entry :: rest => by
      have ih := sortByName_map f rest
      rw [sortByName, sortByName] at ih ⊢
      rw [List.map_cons, List.foldr_cons, ih, List.foldr_cons, insertByName_map]

lemma shapes_eq_map : ∀ entries, shapes entries = entries.map fun e => (e.1, e.2.shape)
  | [] => rfl
  | (name, node) :: rest => by rw [shapes, shapes_eq_map rest, List.map_cons]

@[simp] lemma names_shape (node : Node) : node.shape.names = node.names := by
  cases node with
  | file content => rfl
  | folder entries =>
      rw [shape, names, shapes_eq_map, sortByName_map, List.map_map, names]
      rfl

mutual

lemma descendants_shape :
    ∀ node : Node, node.shape.descendants = node.descendants.map fun d => (d.1, d.2.shape)
  | .file _ => rfl
  | .folder entries => by
      rw [shape, descendants, blocks_shapes entries, descendants, List.map_flatMap,
        sortByName_map, List.flatMap_map]

lemma blocks_shapes :
    ∀ entries : List (String × Node), blocks (shapes entries)
      = (blocks entries).map fun b => (b.1, b.2.map fun d => (d.1, d.2.shape))
  | [] => rfl
  | (name, node) :: rest => by
      rw [shapes, blocks, blocks_shapes rest, descendants_shape node, blocks, List.map_cons,
        List.map_cons, List.map_map, List.map_map]
      rfl

end

end Node

namespace FileTree

/-- A tree with all its files empty. -/
def shape (tree : FileTree) : FileTree := { tree with root := tree.root.shape }

variable (tree : FileTree) (p : Path)

/-! ## Where paths lead -/

lemma get?_root_shape (place : List String) :
    tree.shape.root.get? place = (tree.root.get? place).map Node.shape :=
  Node.get?_shape place tree.root

lemma walk_shape (steps : List Step) :
    ∀ place, tree.shape.walk place steps = tree.walk place steps := by
  induction steps with
  | nil => intro place; rfl
  | cons step steps ih =>
      intro place
      rw [walk.eq_def, walk.eq_def tree]
      dsimp only
      rw [get?_root_shape]
      rcases tree.root.get? place with _ | ⟨content⟩ | ⟨entries⟩
      · rfl
      · rfl
      · cases step with
        | stay => exact ih place
        | up => exact ih place.dropLast
        | into name => exact ite_congr rfl (fun _ => rfl) fun _ => ih (place ++ [name])

lemma locate_shape : tree.shape.locate p = tree.locate p := by
  rw [locate, locate, follow, follow]
  simp only [walk_shape]
  rfl

lemma find_shape : tree.shape.find p = (tree.find p).map Node.shape := by
  rw [find, find, locate_shape]
  cases tree.locate p with
  | error fault => rfl
  | ok place =>
      dsimp only
      rw [get?_root_shape]
      cases tree.root.get? place <;> rfl

lemma holds_shape : tree.shape.holds p = tree.holds p := by
  rw [holds, holds, find_shape]
  cases tree.find p <;> rfl

lemma isFolder_shape : tree.shape.isFolder p = tree.isFolder p := by
  rw [isFolder, isFolder, find_shape]
  rcases tree.find p with fault | ⟨content⟩ | ⟨entries⟩ <;> rfl

lemma isFile_shape : tree.shape.isFile p = tree.isFile p := by
  rw [isFile, isFile, find_shape]
  rcases tree.find p with fault | ⟨content⟩ | ⟨entries⟩ <;> rfl

end FileTree

/-! ## What patterns find -/

namespace Glob

variable (tree : FileTree)

lemma visible_shape (path : Path) : visible tree.shape path = visible tree path := by
  rw [visible, visible, tree.find_shape]
  cases tree.find path with
  | error fault => rfl
  | ok node =>
      dsimp only [Except.map]
      rw [Node.names_shape]

lemma below_shape (path : Path) : below tree.shape path = below tree path := by
  rw [below, below, tree.find_shape]
  cases tree.find path with
  | error fault => rfl
  | ok node =>
      dsimp only [Except.map]
      rw [Node.descendants_shape, List.filter_map, List.map_map]
      simp [Function.comp_def]

lemma leadsOn_shape (path : Path) (name : String) :
    leadsOn tree.shape path name = leadsOn tree path name := by
  rw [leadsOn, leadsOn, tree.isFolder_shape, tree.holds_shape]

lemma expand_shape (legs : List Leg) :
    ∀ path, expand tree.shape legs path = expand tree legs path := by
  induction legs with
  | nil => intro path; rfl
  | cons leg rest ih =>
      intro path
      cases leg <;>
        simp only [expand, leadsOn_shape, visible_shape, below_shape, tree.isFolder_shape, ih]

lemma listsFolder_shape (path : Path) (name : String) :
    listsFolder tree.shape path name = listsFolder tree path name := by
  rw [listsFolder, listsFolder, tree.find_shape]
  cases tree.find path with
  | error fault => rfl
  | ok node =>
      dsimp only [Except.map]
      rw [Node.get?_shape]
      cases node.get? [name] with
      | none => rfl
      | some child => exact Node.isFolder_shape child

lemma reads_shape (legs : List Leg) :
    ∀ path, reads tree.shape legs path = reads tree legs path := by
  induction legs with
  | nil => intro path; rfl
  | cons leg rest ih =>
      intro path
      cases leg <;>
        simp only [reads, visible_shape, below_shape, listsFolder_shape, tree.isFolder_shape, ih]

lemma search_shape (pattern : String) : search tree.shape pattern = search tree pattern := by
  have hfolder : tree.shape.isFolder = tree.isFolder := funext tree.isFolder_shape
  simp only [search, expand_shape, reads_shape, hfolder]

lemma unreadable?_shape (folder : Path) : unreadable? tree.shape folder = unreadable? tree folder := by
  rw [unreadable?, unreadable?, tree.find_shape]
  cases tree.find folder <;> rfl

/-- **Patterns find the same files, whatever the files hold.** -/
theorem filesMatching_shape (base : Path) (patterns : List String) :
    filesMatching tree.shape base patterns = filesMatching tree base patterns := by
  have hfile : tree.shape.isFile = tree.isFile := funext tree.isFile_shape
  have hone : filesMatchingOne tree.shape base = filesMatchingOne tree base := by
    funext pattern
    rw [filesMatchingOne, filesMatchingOne, search_shape, hfile, funext (unreadable?_shape tree)]
  rw [filesMatching, filesMatching, hone]

end Glob

/-! ## A file that is overwritten -/

namespace FileTree

variable {tree : FileTree} {place : List String} {old : ByteArray}

lemma shape_put_file (h : tree.root.get? place = some (.file old)) (new : ByteArray) :
    (tree.put place (.file new)).shape = tree.shape := by
  rw [shape, put, shape]
  dsimp only
  rw [Node.shape_put_file h]

/-- Paths lead where they led before. -/
lemma locate_put_file (h : tree.root.get? place = some (.file old)) (new : ByteArray) (p : Path) :
    (tree.put place (.file new)).locate p = tree.locate p := by
  rw [← locate_shape, shape_put_file h, locate_shape]

/-- Every other file keeps its bytes. -/
lemma readBytes_put_of_ne (h : tree.root.get? place = some (.file old)) (new : ByteArray) {p : Path}
    (hp : tree.locate p ≠ .ok place) :
    (tree.put place (.file new)).readBytes p = tree.readBytes p := by
  rw [readBytes, readBytes, find, find, locate_put_file h]
  cases hl : tree.locate p with
  | error fault => rfl
  | ok other =>
      have hne : other ≠ place := fun he => hp (he ▸ hl)
      have hshape : ((tree.put place (.file new)).root.get? other).map Node.shape
          = (tree.root.get? other).map Node.shape := by
        rw [← get?_root_shape, ← get?_root_shape, shape_put_file h]
      have hfile : ∀ content, (tree.put place (.file new)).root.get? other = some (.file content) ↔
          tree.root.get? other = some (.file content) :=
        fun content => Node.get?_put_file_of_ne h hne
      dsimp only
      rcases hg : tree.root.get? other with _ | ⟨content⟩ | ⟨entries⟩
      · rw [hg, Option.map_none, Option.map_eq_none_iff] at hshape
        rw [hshape]
      · rw [(hfile content).mpr hg]
      · rw [hg] at hshape
        obtain ⟨node, hn, hs⟩ := Option.map_eq_some_iff.mp hshape
        rw [hn]
        cases node with
        | file content => exact absurd hs (by simp [Node.shape])
        | folder found => rfl

/-- **Every other file keeps its text.** -/
theorem readText_put_of_ne (h : tree.root.get? place = some (.file old)) (new : ByteArray) {p : Path}
    (hp : tree.locate p ≠ .ok place) :
    (tree.put place (.file new)).readText p = tree.readText p := by
  rw [readText, readText, readBytes_put_of_ne h new hp]

end FileTree

end AddonRegistry
