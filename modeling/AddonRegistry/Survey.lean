import AddonRegistry.Body
import AddonRegistry.Failure
import AddonRegistry.FileTree.Access
import AddonRegistry.Style

/-!
# Looking at the files of a project

The files of a project are looked at one after the other.  What each of them registers, or why it
cannot be read, makes up the survey; a survey ends for its reader with the first file that fails.

* `examine`, `surveyOf` — what a file registers, and what each of many files does.
* `Survey.scan` — the files that register names, or the first failure.
* `Survey.notes` — what the user is told meanwhile.
-/

namespace AddonRegistry

/-- For each file what it registers, or why it cannot be read. -/
abbrev Survey := List (Path × Except Failure (List Member))

/-- What a file registers. -/
def examine (tree : FileTree) (file : Path) : Except Failure (List Member) :=
  match tree.readText file with
  | .error fault => .error (.sourceFile file fault)
  | .ok code =>
      match membersOf code file.text with
      | .error error => .error (.extraction file error)
      | .ok members => .ok members

/-- What each of the files registers. -/
def surveyOf (tree : FileTree) (files : List Path) : Survey :=
  files.map fun file => (file, examine tree file)

/-- What the user is told about a run. -/
inductive Note where
  | checking (file : String)
  | found (count : Nat)
  | creating (file : Path)
  deriving DecidableEq, Repr

/-- A note as a line of text. -/
def Note.text (colours : Bool) : Note → String
  | .checking file => Style.dimmed.paint colours "Checking" ++ " " ++ file ++ "...\n"
  | .found count =>
      "  " ++ Style.green.paint colours "found" ++ " " ++ toString count ++ " registry member(s)\n"
  | .creating file =>
      Style.dimmed.paint colours "Creating template registry file" ++ " " ++ file.text ++ "\n"

namespace Survey

/-- Adds the files of a survey that register names to those that are known. -/
def scanFrom (scan : Scan) : Survey → Except Failure Scan
  | [] => .ok scan
  | (_, .error failure) :: _ => .error failure
  | (_, .ok []) :: rest => scanFrom scan rest
  | (file, .ok members) :: rest => scanFrom (scan.insert file members) rest

/-- The files of a survey that register names. -/
def scan (survey : Survey) : Except Failure Scan := scanFrom [] survey

/-- The notes on a survey; files are named as seen from the root of the project. -/
def notes (root : Path) : Survey → List Note
  | [] => []
  | (file, result) :: rest =>
      .checking ((file.rest? root).getD file).text ::
        match result with
        | .error _ => []
        | .ok [] => notes root rest
        | .ok members => .found members.length :: notes root rest

end Survey

end AddonRegistry
