import AddonRegistry.Path
import AddonRegistry.Style

/-!
# How a run ends

* `Outcome` — how a run ends that does not fail.
* `Outcome.report` — the line that tells the user.
* `Outcome.exitCode` — the status of the program: only a registry that is found out of sync counts
  as a failure.
-/

namespace AddonRegistry

/-- How a run ends that does not fail. -/
inductive Outcome where
  /-- There was no registry file, and an empty one was written. -/
  | created
  /-- The registry file was written again. -/
  | updated (members files : Nat)
  /-- The registry file is what it should be. -/
  | inSync
  /-- The registry file is not what it should be, or there is none. -/
  | outOfSync (missing : Bool)
  deriving DecidableEq, Repr

namespace Outcome

/-- A number of things. -/
def counted (count : Nat) (one many : String) : String :=
  toString count ++ " " ++ if count = 1 then one else many

/-- What is said behind the mark about a run. -/
def sentence (registryFile : Path) (colours : Bool) : Outcome → String
  | .created =>
      "Created template registry file " ++ Style.bold.paint colours registryFile.text
  | .updated members files =>
      "Done! Template registry updated (" ++ counted members "member" "members" ++ " from " ++
        counted files "file" "files" ++ ")."
  | .inSync =>
      "Template registry " ++ Style.bold.paint colours registryFile.text ++ " is up to date."
  | .outOfSync true =>
      "Template registry " ++ Style.bold.paint colours registryFile.text ++ " does not exist."
  | .outOfSync false =>
      "Template registry " ++ Style.bold.paint colours registryFile.text ++
        " is out of sync. Run without " ++ Style.yellow.paint colours "--check" ++ " to update it."

/-- Whether the registry is what it should be in the end. -/
def succeeded : Outcome → Bool
  | .outOfSync _ => false
  | _ => true

/-- The mark in front of a report. -/
def mark (outcome : Outcome) (colours : Bool) : String :=
  if outcome.succeeded then Style.green.paint colours "✓" else Style.red.paint colours "✘"

/-- The line that tells the user how a run ended. -/
def report (outcome : Outcome) (registryFile : Path) (colours : Bool) : String :=
  outcome.mark colours ++ " " ++ outcome.sentence registryFile colours ++ "\n"

/-- The status with which the program ends. -/
def exitCode (outcome : Outcome) : Nat := if outcome.succeeded then 0 else 1

end Outcome

end AddonRegistry
