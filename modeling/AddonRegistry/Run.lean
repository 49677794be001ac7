import AddonRegistry.Glob.Search
import AddonRegistry.Options
import AddonRegistry.Outcome
import AddonRegistry.RegistryFile
import AddonRegistry.Survey
import AddonRegistry.Template

/-!
# Runs

A run finds the files of a project, looks at them one after the other, and reads the registry file.
Under `check` it compares what is there with what should be.  Otherwise it writes the registry, or an
empty one if there was none: so that the first run on a project creates the file, and the second one
fills it.  Nothing is written before everything has been read.

* `findings` — what a run reads, without any effect.
* `compare`, `update` — the two ways to go on.
* `run` — a whole run: how it ends, the files it leaves, and what the user is told.
-/

namespace AddonRegistry

/-- Why the files of a project are not found. -/
def searchFailure : String × Glob.SearchFault → Failure
  | (text, .pattern fault) => .pattern text fault
  | (text, .folder folder fault) => .searchedFolder text folder fault

/-- The files of a project that the patterns ask for. -/
def collect (options : Options) (tree : FileTree) : Except Failure (List Path) :=
  (Glob.filesMatching tree options.root options.patterns).mapError searchFailure

/-- The survey of a project. -/
def survey (options : Options) (tree : FileTree) : Except Failure Survey :=
  (collect options tree).map (surveyOf tree)

/-- What a run needs to know. -/
structure Findings where
  scan : Scan
  registry : RegistryState
  deriving DecidableEq, Repr

/-- What a run needs to know, from the survey of the project. -/
def findings (options : Options) (tree : FileTree) (survey : Except Failure Survey) :
    Except Failure Findings := do
  let scan ← (← survey).scan
  let registry ← readRegistry tree options.registryPath
  return ⟨scan, registry⟩

/-- What the registry should hold. -/
def expectedBody (options : Options) (tree : FileTree) (scan : Scan) : Except Failure Body := do
  return Body.ofScan scan options.root (← readPackageName tree options.root)

/-- Whether the registry is what it should be. -/
def compare (options : Options) (tree : FileTree) (found : Findings) : Except Failure Outcome :=
  match found.registry with
  | .absent => .ok (.outOfSync true)
  | .present text => do
      let body ← expectedBody options tree found.scan
      return if text = render body then .inSync else .outOfSync false

/-- Writes the registry, or an empty one if there was none. -/
def update (options : Options) (tree : FileTree) (found : Findings) :
    FileTree × Except Failure Outcome :=
  match found.registry with
  | .absent =>
      let (after, result) := writeRegistry tree options.registryPath stub
      (after, result.map fun _ => .created)
  | .present _ =>
      match expectedBody options tree found.scan with
      | .error failure => (tree, .error failure)
      | .ok body =>
          let (after, result) := writeRegistry tree options.registryPath (render body)
          (after, result.map fun _ => .updated body.memberCount found.scan.fileCount)

/-- How a run goes on from what it needs to know. -/
def conclude (options : Options) (tree : FileTree) (found : Except Failure Findings) :
    FileTree × Except Failure Outcome :=
  match found with
  | .error failure => (tree, .error failure)
  | .ok found =>
      if options.check then (tree, compare options tree found) else update options tree found

/-- What the user is told during a run. -/
def notes (options : Options) (survey : Except Failure Survey)
    (found : Except Failure Findings) : List Note :=
  if options.verbose then
    match survey with
    | .error _ => []
    | .ok survey =>
        survey.notes options.root ++
          match found with
          | .ok ⟨_, .absent⟩ => if options.check then [] else [.creating options.registryPath]
          | _ => []
  else []

/-- What a run leaves. -/
structure Run where
  result : Except Failure Outcome
  tree : FileTree
  notes : List Note

/-- The status with which the program ends: a run that fails counts like one that finds the registry
out of sync. -/
def Run.status (r : Run) : Nat :=
  match r.result with
  | .ok outcome => outcome.exitCode
  | .error _ => 1

/-- What the user is told, as one text. -/
def Run.log (r : Run) (colours : Bool) : String := String.join (r.notes.map (Note.text colours))

/-- A whole run. -/
def run (options : Options) (tree : FileTree) : Run :=
  let survey := survey options tree
  let found := findings options tree survey
  let (after, result) := conclude options tree found
  ⟨result, after, notes options survey found⟩

end AddonRegistry
