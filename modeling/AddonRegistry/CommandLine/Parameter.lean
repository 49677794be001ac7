import AddonRegistry.Conventions

/-!
# Parameters of the program

* `Parameter` — what can be said on the command line.
* `Parameter.display` — how a message calls a parameter.
* `usage` — how the program is called, with the parameters that were used.
* `helpText`, `versionText` — what the program says about itself.
-/

namespace AddonRegistry.CommandLine

/-- What can be said on the command line. -/
inductive Parameter where
  | globs
  | registryFile
  | check
  | cwd
  | verbose
  | help
  | version
  deriving DecidableEq, Repr

/-- The values that the environment gives. -/
structure Environment where
  registryFile : Option String := none
  cwd : Option String := none
  deriving DecidableEq, Repr

namespace Parameter

/-- The parameters that are named with two dashes. -/
def named : List Parameter := [.registryFile, .check, .cwd, .verbose, .help, .version]

/-- The name behind two dashes. -/
def longName : Parameter → String
  | .globs => ""
  | .registryFile => "registry-file"
  | .check => "check"
  | .cwd => "cwd"
  | .verbose => "verbose"
  | .help => "help"
  | .version => "version"

/-- The letter behind one dash. -/
def letter? : Parameter → Option Char
  | .verbose => some 'v'
  | .help => some 'h'
  | .version => some 'V'
  | _ => none

/-- The placeholder for a value. -/
def valueName? : Parameter → Option String
  | .globs => some "GLOBS"
  | .registryFile => some "REGISTRY_FILE"
  | .cwd => some "CWD"
  | _ => none

/-- Whether a parameter is followed by a value. -/
def takesValue (p : Parameter) : Bool := p.valueName?.isSome

/-- How a message calls a parameter. -/
def display (p : Parameter) : String :=
  match p, p.valueName? with
  | .globs, _ => "<GLOBS>..."
  | p, some value => "--" ++ p.longName ++ " <" ++ value ++ ">"
  | p, none => "--" ++ p.longName

/-- The parameter with a name behind two dashes. -/
def ofLongName? (name : String) : Option Parameter := named.find? fun p => p.longName = name

/-- The parameter with a letter behind one dash. -/
def ofLetter? (letter : Char) : Option Parameter := named.find? fun p => p.letter? = some letter

end Parameter

/-- The name of the program. -/
def programName : String := "sync-template-registry"

/-- The first occurrences in a list of parameters, in order. -/
def firstUses : List Parameter → List Parameter
  | [] => []
  | p :: rest => p :: (firstUses rest).filter (· ≠ p)

/-- How the program is called.  The parameters that were used are listed, or it is said that there
are any; the patterns are always needed. -/
def usage (used : List Parameter) : String :=
  let options :=
    if used.isEmpty then [" [OPTIONS]"]
    else ((firstUses used).filter (· ≠ .globs)).map fun p => " " ++ p.display
  "Usage: " ++ programName ++ String.join options ++ " " ++ Parameter.globs.display

/-- A value of the environment within the column of explanations: lines after the first are
indented. -/
def inHelp (value : Option String) : String :=
  String.join <| (value.getD "").toList.map fun c =>
    if c = '\n' then "\n" ++ String.ofList (List.replicate 39 ' ') else String.singleton c

/-- What the program says when it is asked for help. -/
def helpText (env : Environment) : String :=
  "Keep a Glint template registry file in sync with the registry declarations of an Ember addon\n\n" ++
  usage [] ++ "\n\n" ++
  "Arguments:\n" ++
  "  <GLOBS>...  One or more paths or globs specifying the files to act on\n\n" ++
  "Options:\n" ++
  "      --registry-file <REGISTRY_FILE>  The path to the file exposing the addon's template registry " ++
    "[env: SYNC_TEMPLATE_REGISTRY_FILE=" ++ inHelp env.registryFile ++ "] [default: " ++
    defaultRegistryFile ++ "]\n" ++
  "      --check                          Stop at checking whether or not the registry is out of " ++
    "sync\n" ++
  "      --cwd <CWD>                      Project root (defaults to the current directory) " ++
    "[env: SYNC_TEMPLATE_REGISTRY_CWD=" ++ inHelp env.cwd ++ "]\n" ++
  "  -v, --verbose                        Enable verbose output\n" ++
  "  -h, --help                           Print help\n" ++
  "  -V, --version                        Print version\n"

/-- What the program says when it is asked for its version. -/
def versionText : String := programName ++ " 0.1.0\n"

end AddonRegistry.CommandLine
