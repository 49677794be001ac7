import AddonRegistry.Extraction
import AddonRegistry.FileTree.Place
import AddonRegistry.Glob.Pattern
import AddonRegistry.Json.Cursor

/-!
# Why a run fails

* `Failure` — what goes wrong, with the pattern, file or folder involved.
* `Failure.message` — the wording: first what could not be done, then why.
-/

namespace AddonRegistry

/-- What goes wrong in a run. -/
inductive Failure where
  | pattern (text : String) (fault : Glob.PatternFault)
  | searchedFolder (text : String) (folder : Path) (fault : FileFault)
  | sourceFile (file : Path) (fault : FileFault)
  | extraction (file : Path) (error : ExtractionError)
  | registryFile (file : Path) (fault : FileFault)
  | manifestFile (file : Path) (fault : FileFault)
  | manifest (file : Path) (fault : Json.Fault)
  | newFolder (folder : Path) (fault : FileFault)
  | newRegistry (file : Path) (fault : FileFault)
  deriving DecidableEq, Repr

/-- The wording of a failure. -/
def Failure.message : Failure → String
  | .pattern text fault => "Invalid glob pattern: \"" ++ text ++ "\": " ++ fault.message
  | .searchedFolder text folder fault =>
      "Cannot access path matching \"" ++ text ++ "\": attempting to read `" ++ folder.text ++
        "` resulted in an error: " ++ fault.message
  | .sourceFile file fault => "Failed to read file: " ++ file.text ++ ": " ++ fault.message
  | .extraction file error =>
      "Failed to extract registry from " ++ file.text ++ ": " ++ error.message
  | .registryFile file fault =>
      "Failed to read registry file: " ++ file.text ++ ": " ++ fault.message
  | .manifestFile file fault => "Failed to read " ++ file.text ++ ": " ++ fault.message
  | .manifest file fault => "Invalid package manifest: " ++ file.text ++ ": " ++ fault.message
  | .newFolder folder fault => "Failed to create directory: " ++ folder.text ++ ": " ++ fault.message
  | .newRegistry file fault =>
      "Failed to write registry file: " ++ file.text ++ ": " ++ fault.message

end AddonRegistry
