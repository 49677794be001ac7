import AddonRegistry.FileTree.Node
import AddonRegistry.Path

/-!
# Finding the place of a path

A tree of files is seen from a working folder.  A path leads to a place step by step, and every step
needs a folder to start from: so a dot or a slash behind the name of a file leads nowhere, and a pair
of dots goes back from what is there, not from what is written.

* `FileFault` — why a file or folder cannot be used, with its wording.
* `FileTree.locate` — the place that a path leads to; the last name on it may be new.
* `FileTree.find` — what is there.
-/

namespace AddonRegistry

/-- Why a file or folder cannot be used. -/
inductive FileFault where
  | notFound
  | alreadyExists
  | notAFolder
  | isAFolder
  | nameTooLong
  | nulCharacter
  | notText
  deriving DecidableEq, Repr

/-- The wording of a fault. -/
def FileFault.message : FileFault → String
  | .notFound => "No such file or directory (os error 2)"
  | .alreadyExists => "File exists (os error 17)"
  | .notAFolder => "Not a directory (os error 20)"
  | .isAFolder => "Is a directory (os error 21)"
  | .nameTooLong => "File name too long (os error 36)"
  | .nulCharacter => "file name contained an unexpected NUL byte"
  | .notText => "stream did not contain valid UTF-8"

/-- The files, seen from a working folder. -/
structure FileTree where
  root : Node
  /-- The place of the working folder. -/
  here : List String
  deriving Inhabited

/-- A step on the way to a place. -/
inductive Step where
  | stay
  | up
  | into (name : String)
  deriving DecidableEq, Repr

/-- The number of bytes in the longest name. -/
def longestName : Nat := 255

/-- The number of bytes in the longest path. -/
def longestPath : Nat := 4095

namespace Path

/-- The step that a stretch between slashes asks for. -/
def stepOf? (stretch : List Char) : Option Step :=
  if stretch = [] then none
  else if stretch = ['.'] then some .stay
  else if stretch = ['.', '.'] then some .up
  else some (.into (String.ofList stretch))

/-- The steps of a path, without the one that a slash at the end asks for. -/
def steps (p : Path) : List Step := (splitAtSlashes p.text.toList).filterMap stepOf?

/-- Whether a path ends in a slash. -/
def endsInSlash (p : Path) : Bool := p.text.toList.getLast? = some '/'

/-- All steps of a path.  A slash at the end asks for a folder. -/
def allSteps (p : Path) : List Step := if p.endsInSlash then p.steps ++ [.stay] else p.steps

end Path

namespace FileTree

/-- The place that steps lead to.  Each of them needs a folder to start from; what is at the end
does not matter. -/
def walk (tree : FileTree) : List String → List Step → Except FileFault (List String)
  | place, [] => .ok place
  | place, step :: rest =>
      match tree.root.get? place with
      | none => .error .notFound
      | some (.file _) => .error .notAFolder
      | some (.folder _) =>
          match step with
          | .stay => walk tree place rest
          | .up => walk tree place.dropLast rest
          | .into name =>
              if longestName < name.utf8ByteSize then .error .nameTooLong
              else walk tree (place ++ [name]) rest

/-- What is wrong with a path before any file is looked at. -/
def spellingFault? (p : Path) : Option FileFault :=
  if p.text.toList.contains '\x00' then some .nulCharacter
  else if p.text.isEmpty then some .notFound
  else if longestPath < p.text.utf8ByteSize then some .nameTooLong
  else none

/-- Where the steps of a path start. -/
def start (tree : FileTree) (p : Path) : List String := if p.isAbsolute then [] else tree.here

/-- The place that steps of a path lead to. -/
def follow (tree : FileTree) (p : Path) (steps : List Step) : Except FileFault (List String) :=
  match spellingFault? p with
  | some fault => .error fault
  | none => tree.walk (tree.start p) steps

/-- The place that a path leads to. -/
def locate (tree : FileTree) (p : Path) : Except FileFault (List String) :=
  tree.follow p p.allSteps

/-- What a path leads to. -/
def find (tree : FileTree) (p : Path) : Except FileFault Node :=
  match tree.locate p with
  | .error fault => .error fault
  | .ok place =>
      match tree.root.get? place with
      | some node => .ok node
      | none => .error .notFound

/-- Whether a path leads to a file or folder. -/
def holds (tree : FileTree) (p : Path) : Bool := (tree.find p).isOk

/-- Whether a path leads to a folder. -/
def isFolder (tree : FileTree) (p : Path) : Bool :=
  match tree.find p with
  | .ok (.folder _) => true
  | _ => false

/-- Whether a path leads to a file. -/
def isFile (tree : FileTree) (p : Path) : Bool :=
  match tree.find p with
  | .ok (.file _) => true
  | _ => false

end FileTree

end AddonRegistry
