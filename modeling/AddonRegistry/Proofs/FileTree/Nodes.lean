import AddonRegistry.FileTree.Node
import Mathlib.Tactic.Common

/-!
# Places in a folder

What `Node.put` does to what `Node.get?` sees.  Everything a run does to the files of a project is a
`put`, so these lemmas are all that the rest of the theory knows about nodes.

* `get?_append` — a place is looked up one stretch after the other.
* `get?_put_self`, `get?_put_file_of_ne` — a new file is at its own place, and no other file is
  changed by it.
* `put_of_get?` — putting what is already there changes nothing.
* `IsFolderAt` — the places that can be walked through; a new file keeps all of them.
-/

namespace AddonRegistry

open List (lookup)

/-! ## Entries -/

lemma lookup_putEntry_self (name : String) (node : Node) :
    ∀ entries, (putEntry name node entries).lookup name = some node
  | [] => by simp [putEntry]
  | (other, old) :: rest => by
      rw [putEntry]
      split_ifs with h
      · simp
      · simp [List.lookup_cons, beq_false_of_ne (Ne.symm h), lookup_putEntry_self name node rest]

lemma lookup_putEntry_of_ne {name other : String} (h : other ≠ name) (node : Node) :
    ∀ entries, (putEntry name node entries).lookup other = entries.lookup other
  | [] => by simp [putEntry, List.lookup_cons, beq_false_of_ne h]
  | (known, old) :: rest => by
      rw [putEntry]
      split_ifs with hk
      · subst hk
        simp [List.lookup_cons, beq_false_of_ne h]
      · simp [List.lookup_cons, lookup_putEntry_of_ne h node rest]

/-- Entering what a name stands for already changes nothing, even if the name occurs twice. -/
lemma putEntry_of_lookup {name : String} {node : Node} :
    ∀ {entries}, lookup name entries = some node → putEntry name node entries = entries
  | [], h => by simp at h
  | (other, old) :: rest, h => by
      rw [putEntry]
      by_cases hk : other = name
      · subst hk
        simp only [List.lookup_cons, beq_self_eq_true] at h
        rw [if_pos rfl, Option.some.inj h]
      · rw [List.lookup_cons, beq_false_of_ne (Ne.symm hk)] at h
        rw [if_neg hk, putEntry_of_lookup h]

namespace Node

/-! ## Looking up -/

@[simp] lemma get?_nil (node : Node) : node.get? [] = some node := by
  cases node <;> rfl

@[simp] lemma get?_file_cons (content : ByteArray) (name : String) (rest : List String) :
    (Node.file content).get? (name :: rest) = none := rfl

lemma get?_folder_cons (entries : List (String × Node)) (name : String) (rest : List String) :
    (Node.folder entries).get? (name :: rest) = (entries.lookup name).bind (·.get? rest) := by
  rw [get?]
  cases entries.lookup name <;> rfl

/-- A place is looked up one stretch after the other. -/
lemma get?_append (above below : List String) :
    ∀ node : Node, node.get? (above ++ below) = (node.get? above).bind (·.get? below) := by
  induction above with
  | nil => intro node; simp
  | cons name above ih =>
      intro node
      cases node with
      | file content => simp
      | folder entries =>
          rw [List.cons_append, get?_folder_cons, get?_folder_cons, Option.bind_assoc]
          exact congrArg _ (funext fun child => ih child)

/-- What is strictly above something is a folder. -/
lemma folder_of_get?_append {node found : Node} {above below : List String} (hne : below ≠ [])
    (h : node.get? (above ++ below) = some found) :
    ∃ entries, node.get? above = some (.folder entries) := by
  rw [get?_append] at h
  obtain ⟨between, hb, hf⟩ := Option.bind_eq_some_iff.mp h
  cases between with
  | folder entries => exact ⟨entries, hb⟩
  | file content =>
      obtain ⟨name, rest, rfl⟩ := List.exists_cons_of_ne_nil hne
      simp at hf

/-! ## Putting -/

@[simp] lemma put_nil (node new : Node) : node.put [] new = new := by
  cases node <;> rfl

lemma put_folder_cons (entries : List (String × Node)) (name : String) (rest : List String)
    (new : Node) : (Node.folder entries).put (name :: rest) new
      = .folder (putEntry name (((entries.lookup name).getD empty).put rest new) entries) := rfl

/-- A new node is at its place if the place above it is a folder. -/
lemma get?_put_self {node new : Node} :
    ∀ {place : List String}, (∀ name above, place = above ++ [name] →
      ∃ entries, node.get? above = some (.folder entries)) →
      (node.put place new).get? place = some new := by
  intro place
  induction place generalizing node with
  | nil => intro _; simp
  | cons name rest ih =>
      intro h
      cases node with
      | file content =>
          -- some folder is above the place, and a file has nothing below it
          exfalso
          rcases List.eq_nil_or_concat rest with rfl | ⟨front, last, rfl⟩
          · obtain ⟨_, he⟩ := h name [] rfl
            simp at he
          · obtain ⟨_, he⟩ := h last (name :: front) (by simp)
            simp at he
      | folder entries =>
          rw [put_folder_cons, get?_folder_cons, lookup_putEntry_self]
          simp only [Option.bind_some]
          apply ih
          rintro last above rfl
          obtain ⟨found, hf⟩ := h last (name :: above) rfl
          rw [get?_folder_cons] at hf
          obtain ⟨child, hc, hg⟩ := Option.bind_eq_some_iff.mp hf
          exact ⟨found, by rw [hc]; exact hg⟩

/-- Putting what is already there changes nothing. -/
lemma put_of_get? {node old : Node} :
    ∀ {place : List String}, node.get? place = some old → node.put place old = node := by
  intro place
  induction place generalizing node with
  | nil => intro h; simpa using h.symm
  | cons name rest ih =>
      intro h
      cases node with
      | file content => simp at h
      | folder entries =>
          rw [get?_folder_cons] at h
          obtain ⟨child, hc, hg⟩ := Option.bind_eq_some_iff.mp h
          rw [put_folder_cons, hc, Option.getD_some, ih hg, putEntry_of_lookup hc]

/-! ## A new file among others -/

/-- A new file takes the place of no folder, so what can be walked through stays. -/
lemma folder_put_file {node : Node} {content : ByteArray} :
    ∀ {place other : List String}, (∀ entries, node.get? place ≠ some (.folder entries)) →
      (∃ entries, node.get? other = some (.folder entries)) →
      ∃ entries, (node.put place (.file content)).get? other = some (.folder entries) := by
  intro place
  induction place generalizing node with
  | nil =>
      -- the whole node is no folder, and then nothing in it is one
      rintro other hno ⟨entries, ho⟩
      cases node with
      | folder found => exact absurd (get?_nil _) (hno found)
      | file old => cases other <;> simp at ho
  | cons name rest ih =>
      rintro other hno ⟨entries, ho⟩
      cases node with
      | file old => exact ⟨entries, ho⟩
      | folder found =>
          rw [put_folder_cons]
          cases other with
          | nil => exact ⟨_, get?_nil _⟩
          | cons first others =>
              rw [get?_folder_cons] at ho ⊢
              by_cases hf : first = name
              · subst hf
                rw [lookup_putEntry_self, Option.bind_some]
                obtain ⟨child, hc, hg⟩ := Option.bind_eq_some_iff.mp ho
                rw [hc, Option.getD_some]
                refine ih (fun entries he => hno entries ?_) ⟨entries, hg⟩
                rw [get?_folder_cons, hc]
                exact he
              · exact ⟨entries, by rw [lookup_putEntry_of_ne hf]; exact ho⟩

/-- **A new file changes no other file.**  A file is a leaf, so the place of one is neither above nor
below the place of another. -/
lemma get?_put_file_of_ne {node : Node} {old new content : ByteArray} :
    ∀ {place other : List String}, node.get? place = some (.file old) → other ≠ place →
      ((node.put place (.file new)).get? other = some (.file content) ↔
        node.get? other = some (.file content)) := by
  intro place
  induction place generalizing node with
  | nil =>
      intro other h hne
      simp only [get?_nil, Option.some.injEq] at h
      subst h
      obtain ⟨name, rest, rfl⟩ := List.exists_cons_of_ne_nil hne
      simp
  | cons name rest ih =>
      intro other h hne
      cases node with
      | file _ => simp at h
      | folder entries =>
          rw [get?_folder_cons] at h
          obtain ⟨child, hc, hg⟩ := Option.bind_eq_some_iff.mp h
          rw [put_folder_cons, hc, Option.getD_some]
          cases other with
          | nil => simp
          | cons first others =>
              rw [get?_folder_cons, get?_folder_cons]
              by_cases hf : first = name
              · subst hf
                rw [lookup_putEntry_self, hc, Option.bind_some, Option.bind_some]
                exact ih hg fun e => hne (by rw [e])
              · rw [lookup_putEntry_of_ne hf]

end Node

end AddonRegistry
