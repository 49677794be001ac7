import AddonRegistry.CommandLine.Arguments
import AddonRegistry.Run

/-!
# The program

A run works on a tree of files as a value.  The program takes that tree from the disk, and afterwards
brings the disk to where the tree is.  Of the files, only those are read that the run looks at.

* `Disk.tree` — the part of the disk that a run can see.
* `Disk.store` — what a run changed, on the disk.
* `main` — the program.
-/

namespace AddonRegistry

namespace Disk

/-- The place that the steps of a path lead to. -/
def placeOf (here : List String) (p : Path) : List String :=
  p.steps.foldl
    (fun place step =>
      match step with
      | .stay => place
      | .up => place.dropLast
      | .into name => place ++ [name])
    (if p.isAbsolute then [] else here)

/-- The text that names a place. -/
def nameOf (place : List String) : String := "/" ++ "/".intercalate place

/-- What is at a place: a folder without its entries, or a file. -/
def nodeAt (place : List String) : IO (Option Node) := do
  match ← (do (← IO.FS.realPath (nameOf place)).readDir).toBaseIO with
  | .ok _ => return some .empty
  | .error _ =>
      match ← (IO.FS.readBinFile (nameOf place)).toBaseIO with
      | .ok content => return some (.file content)
      | .error _ => return none

/-- A tree with what the disk has at a place and on the way there. -/
def reach (tree : FileTree) (place : List String) : IO FileTree :=
  (List.range (place.length + 1)).foldlM
    (fun tree depth => do
      let onTheWay := place.take depth
      match tree.root.get? onTheWay with
      | some (.folder _) => return tree
      | _ =>
          match ← nodeAt onTheWay with
          | some node => return tree.put onTheWay node
          | none => return tree)
    tree

/-- Everything at and below a name, without the bytes of the files.  A link is not followed. -/
partial def below (name : String) : IO Node := do
  let folder ← IO.FS.realPath name
  if folder.toString ≠ name then return .file .empty
  match ← folder.readDir.toBaseIO with
  | .error _ => return .file .empty
  | .ok entries =>
      return .folder (← entries.toList.mapM fun entry => do
        return (entry.fileName, ← below (folder / entry.fileName).toString))

/-- A tree with everything below a place, the files without their bytes. -/
def spread (tree : FileTree) (place : List String) : IO FileTree := do
  let tree ← reach tree place
  match tree.root.get? place with
  | some (.folder _) =>
      return tree.put place (← below (← IO.FS.realPath (nameOf place)).toString)
  | _ => return tree

/-- The part of the disk that a run can see. -/
def tree (options : Options) (here : Path) : IO FileTree := do
  let here := placeOf [] here
  let starts := options.patterns.map fun pattern => placeOf here (Glob.outset options.root pattern)
  let tree ← starts.foldlM spread (← reach ⟨.empty, here⟩ here)
  let sources := match collect options tree with
    | .ok files => files
    | .error _ => []
  let files := sources ++ [options.registryPath, options.root.join ⟨manifestFile⟩]
  (files.map (placeOf here)).foldlM reach tree

/-- Brings a file on the disk, and the folders above it, from one tree to another. -/
def store (before after : FileTree) (file : Path) : IO Unit := do
  for folder in file.ancestors.reverse do
    if after.isFolder folder && !before.isFolder folder then IO.FS.createDir folder.text
  match after.readText file with
  | .error _ => return
  | .ok text =>
      match before.readText file with
      | .ok old => if text ≠ old then IO.FS.writeFile file.text text
      | .error _ => IO.FS.writeFile file.text text

end Disk

/-- Tells the user why nothing can be run. -/
def refuse (fault : CommandLine.UsageFault) : IO UInt32 := do
  if fault.exitCode = 0 then IO.print fault.message else IO.eprint fault.message
  return fault.exitCode.toUInt32

/-- Runs what the user asked for. -/
def perform (arguments : CommandLine.Arguments) (colours : Bool) : IO UInt32 := do
  let here : Path := ⟨(← IO.currentDir).toString⟩
  let options := arguments.options here
  let before ← Disk.tree options here
  let r := run options before
  IO.eprint (r.log colours)
  Disk.store before r.tree options.registryPath
  match r.result with
  | .ok outcome => IO.print (outcome.report options.registryFile colours)
  | .error failure => IO.eprintln ("Error: " ++ failure.message)
  return r.status.toUInt32

end AddonRegistry

open AddonRegistry in
/-- The program. -/
def main (args : List String) : IO UInt32 := do
  let registryFile ← IO.getEnv "SYNC_TEMPLATE_REGISTRY_FILE"
  let cwd ← IO.getEnv "SYNC_TEMPLATE_REGISTRY_CWD"
  match CommandLine.parse { registryFile, cwd } args with
  | .error fault => refuse fault
  | .ok arguments => do
      let colours := coloursWanted (← (← IO.getStdout).isTty) (← IO.getEnv "CLICOLOR_FORCE")
        (← IO.getEnv "NO_COLOR") (← IO.getEnv "CLICOLOR")
      try perform arguments colours
      catch fault =>
        IO.eprintln ("Error: " ++ toString fault)
        return 1
