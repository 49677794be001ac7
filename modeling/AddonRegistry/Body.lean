import AddonRegistry.Extraction
import AddonRegistry.Path

/-!
# The body of a registry

The registry of a project declares every registered name and imports the type it stands for from
the file that registers it.  Both follow the order in which the files were found; nothing is sorted.

* `Scan` — the files that register names, in the order of their first occurrence.
* `importPath` — where a consumer of the package imports a file from.
* `Body` — the lines of a registry: one declaration for each member, each import line once.
-/

namespace AddonRegistry

/-- The files that register names, each with what it registers. -/
abbrev Scan := List (Path × List Member)

namespace Scan

/-- Records what a file registers.  A file that is there already keeps its place and its spelling,
and what it registers is replaced. -/
def insert : Scan → Path → List Member → Scan
  | [], file, members => [(file, members)]
  | (known, old) :: rest, file, members =>
      if known.Same file then (known, members) :: rest
      else (known, old) :: insert rest file members

/-- The number of files. -/
def fileCount (scan : Scan) : Nat := scan.length

end Scan

/-! ## Import paths -/

/-- What follows the slash behind the name of the source folder, in a path that starts there. -/
def belowSourceFolder? (relative : List Char) : Option (List Char) :=
  let start := sourceFolder.toList ++ ['/']
  if start.isPrefixOf relative then some (relative.drop start.length) else none

/-- Where a file is imported from: through the package if it is below the source folder, and
otherwise by its path relative to the root of the project. -/
def importPath (file root : Path) (package : String) : String :=
  let relative := file.relativeTo root
  match belowSourceFolder? relative.toList with
  | some below => package ++ "/" ++ String.ofList below
  | none => relative

/-! ## Lines -/

/-- The line that declares a registered name. -/
def Member.declarationLine (m : Member) : String :=
  "'" ++ m.name ++ "': typeof " ++ m.target ++ ";"

/-- The line that imports the type of a registered name. -/
def Member.importLine (m : Member) (path : String) : String :=
  "import type " ++ m.target ++ " from '" ++ path ++ "';"

/-- The first occurrences in a list, in order. -/
def distinct : List String → List String
  | [] => []
  | line :: rest => line :: (distinct rest).filter (· ≠ line)

/-- The lines of a registry. -/
structure Body where
  imports : List String
  declarations : List String
  deriving DecidableEq, Repr

namespace Body

/-- The lines for the files of a project. -/
def ofScan (scan : Scan) (root : Path) (package : String) : Body where
  imports := distinct <| scan.flatMap fun (file, members) =>
    members.map fun m => m.importLine (importPath file root package)
  declarations := scan.flatMap fun (_, members) => members.map Member.declarationLine

/-- The import lines as one text. -/
def importsBlock (body : Body) : String := "\n".intercalate body.imports

/-- The declaration lines as one text. -/
def declarationsBlock (body : Body) : String := "\n".intercalate body.declarations

/-- The number of declared names. -/
def memberCount (body : Body) : Nat := body.declarations.length

end Body

end AddonRegistry
