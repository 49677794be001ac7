import AddonRegistry.FileTree.Place
import AddonRegistry.Proofs.FileTree.Nodes

/-!
# Names of files

A file system has names that are not empty, hold no slash, and are not the dots by which a path stays
where it is or goes up.  So a path that is written from such names means them one by one.

* `IsFileName`, `FileTree.Named` — that a text can be the name of a file, and that all names in a tree can.
* `mem_descendants_folder`, `mem_descendants_of_get?` — what is below a folder, entry by entry and from
  any place above it.
* **`Named.descendants`**, `Named.names` — the names that are found at a place.
-/

namespace AddonRegistry

/-- Whether a text can be the name of a file. -/
def IsFileName (name : String) : Prop := name ≠ "" ∧ name ≠ "." ∧ name ≠ ".." ∧ '/' ∉ name.toList

instance (name : String) : Decidable (IsFileName name) := inferInstanceAs (Decidable (_ ∧ _))

/-- That all names in a tree can be names of files. -/
def FileTree.Named (tree : FileTree) : Prop :=
  ∀ d ∈ tree.root.descendants, ∀ name ∈ d.1, IsFileName name

instance (tree : FileTree) : Decidable tree.Named := List.decidableBAll _ _

/-! ## Entries in order -/

lemma insertByName_perm {α : Type} (entry : String × α) :
    ∀ entries, (insertByName entry entries).Perm (entry :: entries)
  | [] => .refl _
  | other :: rest => by
      rw [insertByName]
      split_ifs
      · exact ((insertByName_perm entry rest).cons other).trans (.swap entry other rest)
      · exact .refl _

lemma sortByName_perm {α : Type} : ∀ entries : List (String × α), (sortByName entries).Perm entries
  | [] => .refl _
  | entry :: rest =>
      (insertByName_perm entry (sortByName rest)).trans ((sortByName_perm rest).cons entry)

namespace Node

variable {node found : Node} {entries : List (String × Node)} {d : List String × Node}

/-! ## Below a folder -/

lemma blocks_eq_map : ∀ entries : List (String × Node), blocks entries = entries.map fun entry =>
    (entry.1, ([entry.1], entry.2) :: entry.2.descendants.map fun d => (entry.1 :: d.1, d.2))
  | [] => rfl
  | (name, node) :: rest => by rw [blocks, blocks_eq_map rest, List.map_cons]

/-- What is below a folder: its entries, and what is below these. -/
lemma mem_descendants_folder : d ∈ (folder entries).descendants ↔
    ∃ entry ∈ entries, d = ([entry.1], entry.2) ∨
      ∃ below ∈ entry.2.descendants, d = (entry.1 :: below.1, below.2) := by
  rw [descendants, List.mem_flatMap, blocks_eq_map]
  constructor
  · rintro ⟨block, hb, hd⟩
    obtain ⟨entry, he, rfl⟩ := List.mem_map.mp ((sortByName_perm _).mem_iff.mp hb)
    rcases List.mem_cons.mp hd with rfl | hd
    · exact ⟨entry, he, .inl rfl⟩
    · obtain ⟨below, hbelow, rfl⟩ := List.mem_map.mp hd
      exact ⟨entry, he, .inr ⟨below, hbelow, rfl⟩⟩
  · rintro ⟨entry, he, hd⟩
    refine ⟨_, (sortByName_perm _).mem_iff.mpr (List.mem_map_of_mem he), List.mem_cons.mpr ?_⟩
    exact hd.imp_right fun ⟨below, hbelow, h⟩ => List.mem_map.mpr ⟨below, hbelow, h.symm⟩

lemma exists_cons_of_mem_descendants (h : d ∈ node.descendants) : ∃ name rest, d.1 = name :: rest := by
  cases node with
  | file content => cases h
  | folder entries =>
      obtain ⟨entry, -, rfl | ⟨below, -, rfl⟩⟩ := mem_descendants_folder.mp h
      · exact ⟨entry.1, [], rfl⟩
      · exact ⟨entry.1, below.1, rfl⟩

/-- What is below a node is below everything above it. -/
lemma mem_descendants_of_get? (hd : d ∈ found.descendants) :
    ∀ {place : List String} {node : Node}, node.get? place = some found →
      (place ++ d.1, d.2) ∈ node.descendants
  | [], node, h => by
      rw [get?_nil] at h
      cases h
      exact hd
  | name :: rest, .file content, h => by cases h
  | name :: rest, .folder entries, h => by
      rw [get?_folder_cons] at h
      obtain ⟨child, hchild, hrest⟩ := Option.bind_eq_some_iff.mp h
      obtain ⟨before, after, rfl, -⟩ := List.lookup_eq_some_iff.mp hchild
      exact mem_descendants_folder.mpr ⟨(name, child), by simp, .inr ⟨_, mem_descendants_of_get? hd hrest, rfl⟩⟩

/-- What a name leads to is an entry. -/
lemma exists_entries_of_get? {name : String} {child : Node} (h : node.get? [name] = some child) :
    ∃ entries, node = .folder entries ∧ (name, child) ∈ entries := by
  cases node with
  | file content => cases h
  | folder entries =>
      rw [get?_folder_cons] at h
      obtain ⟨entry, hentry, hchild⟩ := Option.bind_eq_some_iff.mp h
      rw [get?_nil] at hchild
      cases hchild
      obtain ⟨before, after, rfl, -⟩ := List.lookup_eq_some_iff.mp hentry
      exact ⟨_, rfl, by simp⟩

lemma mem_names_of_get? {name : String} {child : Node} (h : node.get? [name] = some child) :
    name ∈ node.names := by
  obtain ⟨entries, rfl, hm⟩ := exists_entries_of_get? h
  exact List.mem_map.mpr ⟨(name, child), (sortByName_perm _).mem_iff.mpr hm, rfl⟩

lemma mem_descendants_of_get?_singleton {name : String} {child : Node} (h : node.get? [name] = some child) :
    ([name], child) ∈ node.descendants := by
  obtain ⟨entries, rfl, hm⟩ := exists_entries_of_get? h
  exact mem_descendants_folder.mpr ⟨(name, child), hm, .inl rfl⟩

lemma exists_mem_descendants_of_mem_names {name : String} (h : name ∈ node.names) :
    ∃ child, ([name], child) ∈ node.descendants := by
  cases node with
  | file content => cases h
  | folder entries =>
      obtain ⟨entry, he, rfl⟩ := List.mem_map.mp h
      exact ⟨entry.2, mem_descendants_folder.mpr ⟨entry, (sortByName_perm entries).mem_iff.mp he, .inl rfl⟩⟩

end Node

/-! ## Names at a place -/

namespace FileTree

variable {tree : FileTree} {place : List String} {node : Node}

/-- **What is found at a place** has only names of files below it. -/
lemma Named.descendants (h : tree.Named) (hnode : tree.root.get? place = some node) :
    ∀ d ∈ node.descendants, ∀ name ∈ d.1, IsFileName name := fun _ hd name hname =>
  h _ (Node.mem_descendants_of_get? hd hnode) name (List.mem_append_right place hname)

lemma Named.names (h : tree.Named) (hnode : tree.root.get? place = some node) :
    ∀ name ∈ node.names, IsFileName name := by
  intro name hname
  obtain ⟨child, hchild⟩ := Node.exists_mem_descendants_of_mem_names hname
  exact h.descendants hnode _ hchild name List.mem_cons_self

end FileTree

end AddonRegistry
