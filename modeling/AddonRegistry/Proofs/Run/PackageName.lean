import AddonRegistry.Proofs.Json.Unique
import AddonRegistry.Proofs.Manifest
import AddonRegistry.Proofs.Run.Courses

/-!
# The package that a registry is for

The name in front of every import path is read from the manifest at the root of the project, and from its
own member `name` alone: not from a name further inside, not from one of two names.  A manifest is meant to
be an object.  But a list that holds nothing but a text is taken for one, too, and the text for its name.

* `readPackageName_eq_ok` — the name is that of the manifest.
* `ToldByManifest` — what a manifest has to say.
* **`package_name_is_told_by_manifest`** — when a manifest supplies which name.
* `listed_name_is_taken` — a list that supplies one.
-/

namespace AddonRegistry

open Json Manifest

variable {tree : FileTree} {root : Path} {name : String}

lemma readPackageName_eq_ok :
    readPackageName tree root = .ok name ↔
      ∃ text, tree.readText (root.join ⟨manifestFile⟩) = .ok text ∧ packageName text = .ok name := by
  rw [readPackageName]
  cases tree.readText (root.join ⟨manifestFile⟩) with
  | error fault => exact ⟨nofun, nofun⟩
  | ok text =>
      cases hname : packageName text with
      | error fault => simp [hname]
      | ok found => simp [hname]

/-- That the manifest of a project tells the name of its package: it is an object that names the package, or
a list that holds nothing but the name. -/
def ToldByManifest (tree : FileTree) (root : Path) (name : String) : Prop :=
  ∃ text value, tree.readText (root.join ⟨manifestFile⟩) = .ok text ∧ Says text value ∧
    (NamesPackage value name ∨ value = .list [written name])

lemma readPackageName_eq_ok_iff_told :
    readPackageName tree root = .ok name ↔ ToldByManifest tree root name := by
  simp only [readPackageName_eq_ok, packageName_eq_ok_iff, ToldByManifest, says_iff]
  exact exists_congr fun text => exists_and_left.symm

/-- **The name of the package** comes from the manifest at the root alone, and nothing else is ever put in
front of the paths of the imports.  It is the only member `name` of the object that the manifest is, and a
text; or else the manifest is a list of this text. -/
theorem package_name_is_told_by_manifest (options : Options) (tree : FileTree) (scan : Scan) :
    (∀ root name, readPackageName tree root = .ok name ↔ ToldByManifest tree root name) ∧
    (∀ body, expectedBody options tree scan = .ok body ↔
      ∃ name, ToldByManifest tree options.root name ∧ body = Body.ofScan scan options.root name) := by
  refine ⟨fun root name => readPackageName_eq_ok_iff_told, fun body => ?_⟩
  rw [expectedBody_eq_ok]
  exact exists_congr fun name => and_congr_left' readPackageName_eq_ok_iff_told

/-- A project whose manifest is a list. -/
def listedProject : FileTree where
  root := .folder [("p", .folder [("package.json", .file "[\"pkg\"]".toUTF8)])]
  here := []

lemma not_object_of_bracket {rest : List Char} {members : List (List Nat × Value)} :
    ¬ SpellsElement ('[' :: rest) (.object members) := by
  intro h
  obtain ⟨before, inside, behind, hbefore, hinside, -, he⟩ := h.exists_parts
  cases before with
  | nil => cases hinside <;> cases he
  | cons c before =>
      cases he
      exact absurd (hbefore _ List.mem_cons_self) (by decide)

/-- A list supplies a name. -/
theorem listed_name_is_taken :
    listedProject.readText ⟨"p/package.json"⟩ = .ok "[\"pkg\"]" ∧
      readPackageName listedProject ⟨"p"⟩ = .ok "pkg" ∧
      ∀ members, ¬ SpellsElement "[\"pkg\"]".toList (.object members) :=
  ⟨eq_ok_of_toOption (by decide +kernel), eq_ok_of_toOption (by decide +kernel),
    fun _ => not_object_of_bracket⟩

end AddonRegistry
