import AddonRegistry.FileTree.Access
import AddonRegistry.Glob.Pattern

/-!
# Finding files

A pattern of a path is searched stretch by stretch.  A stretch without wildcards is looked up as it
is spelled, so that upper and lower case matter there, and hidden names can be found.  A stretch with
wildcards is compared with the names in a folder; hidden names never fit.

* `Leg`, `legs` — the parts of a search: two stars belong to the stretch behind them.
* `visible`, `below` — what wildcards can fit in and below a folder.
* `expand` — the paths that legs lead to.
* `reads` — the folders that have to be read on the way.
* `search` — the paths that fit a pattern, in the order of their names, and the folders that are read.
* `outset` — where one has to look for them.
* `filesMatching` — the files that fit patterns below a base folder, if every folder can be read.

What a folder holds is known before the path of it is used.  So wildcards lead to folders whose path is too
long, and these cannot be read.
-/

namespace AddonRegistry.Glob

/-- A part of a search. -/
inductive Leg where
  /-- The file or folder of this name. -/
  | named (name : String)
  /-- Every visible name that fits. -/
  | fitting (pattern : List Token)
  /-- Every visible name that fits, at any depth. -/
  | deep (pattern : List Token)
  /-- All visible folders, at any depth. -/
  | folders
  deriving DecidableEq, Repr

/-- The legs for the stretches of a pattern; `deep` says whether two stars stand in front. -/
def legs : Bool → List (List Token) → List Leg
  | false, [] => []
  | true, [] => [.folders]
  | _, [.anyDepth] :: rest => legs true rest
  | true, pattern :: rest => .deep pattern :: legs false rest
  | false, pattern :: rest =>
      (match literal? pattern with
        | some name => .named (String.ofList name)
        | none => .fitting pattern) :: legs false rest

/-- Whether a name is hidden. -/
def isHidden (name : String) : Bool := name.toList.head? = some '.'

/-- A path one step further on.  The working folder is not written in front. -/
def step (path : Path) (name : String) : Path :=
  if path.components = [.current] then ⟨name⟩ else path.join ⟨name⟩

/-- The names in a folder that wildcards can fit. -/
def visible (tree : FileTree) (path : Path) : List String :=
  match tree.find path with
  | .ok node => node.names.filter fun name => !isHidden name
  | .error _ => []

/-- What is below a folder and not hidden: names that lead there, and whether it is a folder. -/
def below (tree : FileTree) (path : Path) : List (List String × Bool) :=
  match tree.find path with
  | .ok node =>
      (node.descendants.filter fun (names, _) => names.all fun name => !isHidden name).map
        fun (names, node) => (names, node.isFolder)
  | .error _ => []

/-- The two names that every folder has besides its entries.  They are found by patterns that start
with a dot. -/
def dotNames (pattern : List Token) : List String :=
  if pattern.head? = some (.char '.') then ["..", "."].filter (fits pattern) else []

/-- Whether a name leads on from a path. -/
def leadsOn (tree : FileTree) (path : Path) (name : String) : Bool :=
  if name = "." ∨ name = ".." then tree.isFolder path else tree.holds (step path name)

/-- The paths that legs lead to from a path. -/
def expand (tree : FileTree) : List Leg → Path → List Path
  | [], path => [path]
  | .named name :: rest, path =>
      if leadsOn tree path name then expand tree rest (step path name) else []
  | .fitting pattern :: rest, path =>
      ((dotNames pattern).flatMap fun name =>
        if tree.isFolder path then expand tree rest (path.join ⟨name⟩) else []) ++
        ((visible tree path).filter (fits pattern)).flatMap fun name =>
          expand tree rest (step path name)
  | .deep pattern :: rest, path =>
      (below tree path).flatMap fun (names, _) =>
        if fits pattern (names.getLast?.getD "") then expand tree rest (names.foldl step path)
        else []
  | .folders :: rest, path =>
      (below tree path).flatMap fun (names, isFolder) =>
        if isFolder then expand tree rest (names.foldl step path) else []

/-- Whether a folder has a folder of a name. -/
def listsFolder (tree : FileTree) (path : Path) (name : String) : Bool :=
  match tree.find path with
  | .ok node => (node.get? [name]).any Node.isFolder
  | .error _ => false

/-- The folders that legs read from a folder, in the order of the search.  A name is looked up without
reading the folder that it is in.  A folder that a wildcard fits is one if it is listed as one, whether or
not its path leads there. -/
def reads (tree : FileTree) : List Leg → Path → List Path
  | [], _ => []
  | .named name :: rest, path =>
      if tree.isFolder (step path name) then reads tree rest (step path name) else []
  | .fitting pattern :: rest, path =>
      path :: (((dotNames pattern).flatMap fun name =>
        if tree.isFolder (path.join ⟨name⟩) then reads tree rest (path.join ⟨name⟩) else []) ++
        ((visible tree path).filter (fits pattern)).flatMap fun name =>
          if listsFolder tree path name then reads tree rest (step path name) else [])
  | .deep pattern :: rest, path =>
      path :: (below tree path).flatMap fun (names, isFolder) =>
        if isFolder then
          (if fits pattern (names.getLast?.getD "") then reads tree rest (names.foldl step path) else []) ++
            [names.foldl step path]
        else []
  | .folders :: rest, path =>
      path :: (below tree path).flatMap fun (names, isFolder) =>
        if isFolder then reads tree rest (names.foldl step path) ++ [names.foldl step path] else []

/-- The stretches of a pattern between its slashes.  A slash at the end adds none. -/
def stretches (pattern : List Char) : List (List Char) :=
  let all := Path.splitAtSlashes pattern
  if 1 < all.length ∧ all.getLast? = some [] then all.dropLast else all

/-- Where a search starts, and the pattern of what follows. -/
def startOf : List Char → Path × List Char
  | '/' :: behind => (⟨"/"⟩, behind)
  | text => (⟨"."⟩, text)

/-- What a search comes to: the paths that fit, and the folders that it reads. -/
structure Found where
  paths : List Path
  folders : List Path

/-- The search for a pattern.  A slash at the end asks for folders. -/
def search (tree : FileTree) (pattern : String) : Except PatternFault Found := do
  let text := pattern.toList
  let _ ← tokens text
  let (start, behind) := startOf text
  let patterns ← (stretches behind).mapM tokens
  let paths := expand tree (legs false patterns) start
  return {
    paths := if text.getLast? = some '/' then paths.filter tree.isFolder else paths
    folders := if tree.isFolder start then reads tree (legs false patterns) start else [] }

/-- A pattern below a base folder, which stands for itself. -/
def fullPattern (base : Path) (pattern : String) : String :=
  if Path.isAbsolute ⟨pattern⟩ then pattern
  else (Path.join ⟨String.ofList (escape base.text.toList)⟩ ⟨pattern⟩).text

/-- Where legs start to branch: the path behind those that only name a file or folder. -/
def branching : List Leg → Path → Path
  | .named name :: rest, path => branching rest (step path name)
  | _, path => path

/-- The path that everything lies at or below that can fit a pattern. -/
def outset (base : Path) (pattern : String) : Path :=
  let (start, behind) := startOf (fullPattern base pattern).toList
  match (stretches behind).mapM tokens with
  | .ok patterns => branching (legs false patterns) start
  | .error _ => start

/-- Why files are not found. -/
inductive SearchFault where
  /-- There is something wrong with the pattern. -/
  | pattern (fault : PatternFault)
  /-- A folder cannot be read. -/
  | folder (path : Path) (fault : FileFault)
  deriving DecidableEq, Repr

/-- Why a folder that is searched cannot be read. -/
def unreadable? (tree : FileTree) (folder : Path) : Option SearchFault :=
  match tree.find folder with
  | .ok _ => none
  | .error fault => some (.folder folder fault)

/-- The files that fit a pattern below a base folder. -/
def filesMatchingOne (tree : FileTree) (base : Path) (pattern : String) :
    Except (String × SearchFault) (List Path) :=
  match search tree (fullPattern base pattern) with
  | .error fault => .error (pattern, .pattern fault)
  | .ok found =>
      match found.folders.findSome? (unreadable? tree) with
      | some fault => .error (pattern, fault)
      | none => .ok (found.paths.filter tree.isFile)

/-- The files that fit patterns below a base folder, in the order of the patterns.  A file that fits
two of them occurs twice.  The first pattern that cannot be searched for is the error. -/
def filesMatching (tree : FileTree) (base : Path) (patterns : List String) :
    Except (String × SearchFault) (List Path) :=
  (patterns.mapM (filesMatchingOne tree base)).map List.flatten

end AddonRegistry.Glob
