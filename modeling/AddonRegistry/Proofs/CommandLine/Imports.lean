import AddonRegistry.CommandLine.Arguments
import AddonRegistry.Proofs.Glob.Below
import AddonRegistry.Proofs.Run.Patterns

/-!
# Imports of a run from the command line

The root of a project that is given on the command line is seen from the working folder, so it is always
absolute, whatever it is spelled like.  Hence the files that patterns find start with the root, component
by component, and a file is imported by the names that lead to it from there.

* `undotted_of_isAbsolute` — no dot stands in front of an absolute path.
* **`command_line_imports_are_below_root`** — the files of a run from the command line, and where they are
  imported from.
-/

namespace AddonRegistry

open CommandLine

lemma Glob.undotted_of_isAbsolute {p : Path} (h : p.isAbsolute) : Glob.Undotted p := by
  have hne := Path.ne_empty_of_isAbsolute h
  obtain ⟨second, rest, hs⟩ := Path.exists_splitAtSlashes_of_isAbsolute h
  refine ⟨hne, ?_⟩
  rw [Path.components_of_splitAtSlashes hne hs]
  exact nofun

lemma CommandLine.Arguments.isAbsolute_root {here : Path} (hhere : here.isAbsolute)
    (arguments : Arguments) : (arguments.options here).root.isAbsolute := by
  rw [Arguments.options]
  cases arguments.cwd with
  | none => exact hhere
  | some cwd => exact Path.isAbsolute_absolute hhere _

/-- **Files of a run from the command line.**  The root is absolute, and if it holds no character that
means something in a pattern, every file that relative patterns without dots in front of a stretch find is
absolute and below the root.  It is imported by the names that lead to it from the root: through the
package if the first of them is the source folder and another one follows, and otherwise as they are. -/
theorem command_line_imports_are_below_root (arguments : Arguments) (here : Path) (tree : FileTree)
    (package : String) (hhere : here.isAbsolute) (hnamed : tree.Named)
    (hplain : Glob.IsPlain (arguments.options here).root.text.toList)
    (hglobs : ∀ glob ∈ arguments.globs, Path.isAbsolute ⟨glob⟩ = false ∧ Glob.DotFree glob) :
    (arguments.options here).root.isAbsolute ∧
      ∀ files, collect (arguments.options here) tree = .ok files → ∀ file ∈ files,
        file.isAbsolute ∧ ∃ names : List String, names ≠ [] ∧ (∀ name ∈ names, IsFileName name) ∧
          file.components = (arguments.options here).root.components ++ names.map .name ∧
          importPath file (arguments.options here).root package = importOf package names := by
  have habsolute := Arguments.isAbsolute_root hhere arguments
  refine ⟨habsolute, fun files hfiles file hfile => ?_⟩
  obtain ⟨hread, rfl⟩ := collect_eq_ok.mp hfiles
  obtain ⟨glob, hglob, hfile⟩ := List.mem_flatMap.mp hfile
  obtain ⟨found, hfound⟩ := hread glob hglob
  obtain ⟨hrelative, hdots⟩ := hglobs glob hglob
  rw [filesOf, hfound] at hfile
  obtain ⟨habs, names, hne, hnames, hcomponents⟩ := Glob.exists_of_mem_filesMatchingOne hnamed
    (Glob.undotted_of_isAbsolute habsolute) hplain hrelative hdots hfound hfile
  exact ⟨habs.trans habsolute, names, hne, hnames, hcomponents,
    importPath_of_append (fun name hm => (hnames name hm).2.2.2) hcomponents package⟩

/-- A project beside the working folder. -/
def besideProject : FileTree where
  root := .folder [("home", .folder [
    ("here", .empty),
    ("p", .folder [
      ("addon", .folder [("ui", .folder [("x.ts", .file .empty)])]),
      ("lib", .folder [("y.ts", .file .empty)])])])]
  here := ["home", "here"]

/-- What is asked for there: the project is named by going up, and with slashes that say nothing. -/
def besideArguments : Arguments where
  globs := ["**/*.ts"]
  cwd := some "..//p/"

/-- The files of a project beside the working folder are imported by their names in the project. -/
theorem beside_imports_are_below_root :
    (besideArguments.options ⟨"/home/here"⟩).root = ⟨"/home/here/../p/"⟩ ∧
      collect (besideArguments.options ⟨"/home/here"⟩) besideProject =
        .ok [⟨"/home/here/../p/addon/ui/x.ts"⟩, ⟨"/home/here/../p/lib/y.ts"⟩] ∧
      ∃ names : List String, names ≠ [] ∧ (∀ name ∈ names, IsFileName name) ∧
        Path.components ⟨"/home/here/../p/addon/ui/x.ts"⟩ =
          (besideArguments.options ⟨"/home/here"⟩).root.components ++ names.map .name ∧
        importPath ⟨"/home/here/../p/addon/ui/x.ts"⟩ (besideArguments.options ⟨"/home/here"⟩).root "pkg" =
          importOf "pkg" names := by
  have hcollected : collect (besideArguments.options ⟨"/home/here"⟩) besideProject =
      .ok [⟨"/home/here/../p/addon/ui/x.ts"⟩, ⟨"/home/here/../p/lib/y.ts"⟩] :=
    eq_ok_of_toOption (by decide +kernel)
  refine ⟨by decide +kernel, hcollected, ?_⟩
  obtain ⟨-, hbelow⟩ := command_line_imports_are_below_root besideArguments ⟨"/home/here"⟩ besideProject
    "pkg" (by decide) (by decide +kernel) (by decide +kernel) (by decide +kernel)
  exact (hbelow _ hcollected _ List.mem_cons_self).2

end AddonRegistry
