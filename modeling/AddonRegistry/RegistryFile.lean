import AddonRegistry.FileTree.Access
import AddonRegistry.Failure
import AddonRegistry.Manifest

/-!
# The files of a project

The registry file is there or not; only a missing file counts as absent, and everything else that
keeps its text from being read is a failure.  It is written as a whole, and what it held before is
never looked at.

* `RegistryState`, `readRegistry` — what is found at the place of the registry file.
* `writeRegistry` — a new registry file, with the folders above it.
* `readPackageName` — the name of the package.
-/

namespace AddonRegistry

/-- What is found at the place of the registry file. -/
inductive RegistryState where
  | absent
  | present (text : String)
  deriving DecidableEq, Repr

/-- Reads the registry file. -/
def readRegistry (tree : FileTree) (file : Path) : Except Failure RegistryState :=
  match tree.readText file with
  | .ok text => .ok (.present text)
  | .error .notFound => .ok .absent
  | .error fault => .error (.registryFile file fault)

/-- Writes the text of the registry file where its folder is there. -/
def writeInFolder (tree : FileTree) (file : Path) (text : String) :
    FileTree × Except Failure Unit :=
  match tree.writeText file text with
  | .ok written => (written, .ok ())
  | .error fault => (tree, .error (.newRegistry file fault))

/-- Writes the registry file, and makes the missing folders above it first. -/
def writeRegistry (tree : FileTree) (file : Path) (text : String) :
    FileTree × Except Failure Unit :=
  match file.parent? with
  | none => writeInFolder tree file text
  | some folder =>
      if folder.text.isEmpty then writeInFolder tree file text
      else
        match tree.makeFolders folder with
        | (made, .ok ()) => writeInFolder made file text
        | (made, .error fault) => (made, .error (.newFolder folder fault))

/-- Reads the name of the package from the manifest at the root of a project. -/
def readPackageName (tree : FileTree) (root : Path) : Except Failure String :=
  let file := root.join ⟨manifestFile⟩
  match tree.readText file with
  | .error fault => .error (.manifestFile file fault)
  | .ok text =>
      match Manifest.packageName text with
      | .error fault => .error (.manifest file fault)
      | .ok name => .ok name

end AddonRegistry
