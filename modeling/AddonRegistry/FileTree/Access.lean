import AddonRegistry.FileTree.Place

/-!
# Reading and writing files

* `FileTree.readText` — the text of a file.
* `FileTree.writeText` — a file with a new text; its folder has to be there.
* `FileTree.makeFolder`, `FileTree.makeFolders` — a new folder, alone or with those above it.

Folders are made from the bottom up: the lowest is tried first, and those above it only if they are
missing.  What was made before a failure stays, so `makeFolders` answers with a tree in either case.
-/

namespace AddonRegistry.FileTree

/-- The bytes of a file. -/
def readBytes (tree : FileTree) (p : Path) : Except FileFault ByteArray :=
  match tree.find p with
  | .error fault => .error fault
  | .ok (.folder _) => .error .isAFolder
  | .ok (.file content) => .ok content

/-- The text of a file. -/
def readText (tree : FileTree) (p : Path) : Except FileFault String :=
  match tree.readBytes p with
  | .error fault => .error fault
  | .ok content =>
      match String.fromUTF8? content with
      | some text => .ok text
      | none => .error .notText

/-- Everything with a node at a place. -/
def put (tree : FileTree) (place : List String) (node : Node) : FileTree :=
  { tree with root := tree.root.put place node }

/-- A file with new bytes.  A slash at the end asks for a folder, and a folder is not overwritten. -/
def writeBytes (tree : FileTree) (p : Path) (content : ByteArray) : Except FileFault FileTree :=
  match tree.follow p p.steps with
  | .error fault => .error fault
  | .ok place =>
      if p.endsInSlash then .error .isAFolder
      else
        match tree.root.get? place with
        | some (.folder _) => .error .isAFolder
        | _ => .ok (tree.put place (.file content))

/-- A file with a new text. -/
def writeText (tree : FileTree) (p : Path) (text : String) : Except FileFault FileTree :=
  tree.writeBytes p text.toUTF8

/-- A new folder. -/
def makeFolder (tree : FileTree) (p : Path) : Except FileFault FileTree :=
  match tree.follow p p.steps with
  | .error fault => .error fault
  | .ok place =>
      match tree.root.get? place with
      | some _ => .error .alreadyExists
      | none => .ok (tree.put place .empty)

/-- Makes the first of the given folders, where each next one is above the one before it.  Folders
that are there already are fine, and the empty path always is. -/
def makeFirst (tree : FileTree) : List Path → FileTree × Except FileFault Unit
  | [] => (tree, .ok ())
  | p :: above =>
      if p.text.isEmpty then (tree, .ok ())
      else
        match tree.makeFolder p with
        | .ok made => (made, .ok ())
        | .error .notFound =>
            match makeFirst tree above with
            | (made, .error fault) => (made, .error fault)
            | (made, .ok ()) =>
                match made.makeFolder p with
                | .ok complete => (complete, .ok ())
                | .error fault =>
                    (made, if made.isFolder p then .ok () else .error fault)
        | .error fault => (tree, if tree.isFolder p then .ok () else .error fault)

/-- Makes a folder and the missing ones above it. -/
def makeFolders (tree : FileTree) (p : Path) : FileTree × Except FileFault Unit :=
  tree.makeFirst p.ancestors

end AddonRegistry.FileTree
