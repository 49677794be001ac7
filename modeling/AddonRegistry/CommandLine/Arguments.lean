import AddonRegistry.CommandLine.Parameter
import AddonRegistry.CommandLine.Similarity
import AddonRegistry.Options

/-!
# Reading the command line

The arguments are read from left to right.  A parameter that takes a value waits for the next
argument, and what was read is entered only when the next thing comes: so a missing value is reported
there, and not where something else is wrong first.  Behind two dashes alone, everything is a pattern.

* `Arguments` — what was asked for.
* `UsageFault`, `UsageFault.message` — why nothing can be run, and what the user is told.
* `parse` — reads the arguments of the program.
* `Arguments.options` — what a run is asked to do, seen from the working folder.
-/

namespace AddonRegistry.CommandLine

/-- What was asked for on the command line. -/
structure Arguments where
  globs : List String
  registryFile : String := defaultRegistryFile
  check : Bool := false
  cwd : Option String := none
  verbose : Bool := false
  deriving DecidableEq, Repr

/-- What a run is asked to do.  The root of the project is the working folder or seen from there. -/
def Arguments.options (arguments : Arguments) (here : Path) : Options where
  patterns := arguments.globs
  root := match arguments.cwd with
    | some cwd => here.absolute ⟨cwd⟩
    | none => here
  registryFile := ⟨arguments.registryFile⟩
  check := arguments.check
  verbose := arguments.verbose

/-- Why nothing can be run. -/
inductive UsageFault where
  | help (env : Environment)
  | version
  | unknownArgument (text : String) (similar : Option Parameter) (used : List Parameter)
  | missingGlobs (used : List Parameter)
  | missingValue (parameter : Parameter)
  | repeatedParameter (parameter : Parameter)
  | unexpectedValue (parameter : Parameter) (value : String) (used : List Parameter)
  deriving DecidableEq, Repr

namespace UsageFault

/-- What every error message ends with. -/
def closing : String := "\n\nFor more information, try '--help'.\n"

/-- What the user is told. -/
def message : UsageFault → String
  | .help env => helpText env
  | .version => versionText
  | .unknownArgument text similar used =>
      "error: unexpected argument '" ++ text ++ "' found\n\n  tip: " ++
        (match similar with
          | some p => "a similar argument exists: '--" ++ p.longName ++ "'"
          | none => "to pass '" ++ text ++ "' as a value, use '-- " ++ text ++ "'") ++
        "\n\n" ++ usage used ++ closing
  | .missingGlobs used =>
      "error: the following required arguments were not provided:\n  " ++
        Parameter.globs.display ++ "\n\n" ++ usage (used ++ [.globs]) ++ closing
  | .missingValue p =>
      "error: a value is required for '" ++ p.display ++ "' but none was supplied" ++ closing
  | .repeatedParameter p =>
      "error: the argument '" ++ p.display ++ "' cannot be used multiple times\n\n" ++ usage [] ++
        closing
  | .unexpectedValue p value used =>
      "error: unexpected value '" ++ value ++ "' for '" ++ p.display ++
        "' found; no more were expected\n\n" ++ usage used ++ closing

/-- The status with which the program ends. -/
def exitCode : UsageFault → Nat
  | .help _ | .version => 0
  | _ => 2

end UsageFault

/-! ## What was read so far -/

/-- What was read so far: the parameters in the order of their first use, and the one that is not
entered yet. -/
structure Entries where
  given : List (Parameter × List String) := []
  pending : Option (Parameter × List String) := none
  deriving DecidableEq, Repr

namespace Entries

/-- The parameters that were used, in the order of their first use. -/
def used (entries : Entries) : List Parameter := entries.given.map (·.1)

/-- The values of a parameter. -/
def values? (entries : Entries) (p : Parameter) : Option (List String) := entries.given.lookup p

/-- Adds values to a parameter. -/
def add (entries : Entries) (p : Parameter) (values : List String) : Entries :=
  { entries with
    given :=
      if p ∈ entries.used then
        entries.given.map fun (q, old) => if q = p then (q, old ++ values) else (q, old)
      else entries.given ++ [(p, values)] }

/-- Enters a parameter that may be used only once, with its values.  What was entered comes with the
fault, for messages about something else. -/
def enter (entries : Entries) (p : Parameter) (values : List String) :
    Entries × Option UsageFault :=
  if p ∈ entries.used then
    ({ entries with given := entries.given.filter fun (q, _) => q ≠ p },
      some (.repeatedParameter p))
  else if values = [""] then (entries.add p [], some (.missingValue p))
  else (entries.add p values, none)

/-- Enters what is pending. -/
def settle (entries : Entries) : Entries × Option UsageFault :=
  let rest := { entries with pending := none }
  match entries.pending with
  | none => (rest, none)
  | some (.globs, values) => (rest.add .globs values, none)
  | some (p, []) => (rest, some (.missingValue p))
  | some (p, values) => rest.enter p values

/-- What was entered, unless there was a fault. -/
def orFault : Entries × Option UsageFault → Except UsageFault Entries
  | (entries, none) => .ok entries
  | (_, some fault) => .error fault

/-- Enters a parameter without a value. -/
def enterFlag (env : Environment) (entries : Entries) (p : Parameter) :
    Except UsageFault Entries := do
  let entries ← orFault entries.settle
  match p with
  | .help => throw (.help env)
  | .version => throw .version
  | p => orFault (entries.enter p [])

/-- Keeps a pattern for later. -/
def keepGlob (entries : Entries) (text : String) : Except UsageFault Entries :=
  match entries.pending with
  | some (.globs, values) => .ok { entries with pending := some (.globs, values ++ [text]) }
  | _ => do
      let entries ← orFault entries.settle
      return { entries with pending := some (.globs, [text]) }

end Entries

/-! ## Reading -/

/-- The forms of an argument. -/
inductive Form where
  /-- Two dashes alone. -/
  | escape
  /-- A name behind two dashes, and what follows an equals sign. -/
  | long (name : String) (value : Option String)
  /-- Letters behind a dash. -/
  | letters (letters : List Char)
  | plain
  deriving DecidableEq, Repr

/-- The form of an argument. -/
def formOf (text : String) : Form :=
  match text.toList with
  | ['-', '-'] => .escape
  | '-' :: '-' :: rest =>
      .long (String.ofList (rest.takeWhile (· ≠ '=')))
        (match rest.dropWhile (· ≠ '=') with
          | _ :: value => some (String.ofList value)
          | [] => none)
  | '-' :: letter :: rest => .letters (letter :: rest)
  | _ => .plain

/-- The fault of a name that is not known. -/
def unknownName (entries : Entries) (name : String) : UsageFault :=
  let entries := entries.settle.1
  let similar :=
    (mostSimilar? name (Parameter.named.map Parameter.longName)).bind Parameter.ofLongName?
  .unknownArgument ("--" ++ name) similar (entries.used ++ similar.toList)

/-- Reads letters behind a dash. -/
def readLetters (env : Environment) (entries : Entries) : List Char → Except UsageFault Entries
  | [] => .ok entries
  | letter :: rest =>
      match Parameter.ofLetter? letter with
      | none => .error (.unknownArgument (String.ofList ['-', letter]) none [])
      | some p => do readLetters env (← entries.enterFlag env p) rest

/-- Reads arguments; `waiting` is the parameter whose value comes next. -/
def readArguments (env : Environment) :
    Entries → Option Parameter → List String → Except UsageFault Entries
  | entries, _, [] => .ok entries
  | entries, waiting, text :: rest =>
      match formOf text with
      | .escape => rest.foldlM Entries.keepGlob entries
      | .letters letters => do
          readArguments env (← readLetters env entries letters) none rest
      | .plain =>
          match waiting with
          | some p => readArguments env { entries with pending := some (p, [text]) } none rest
          | none => do readArguments env (← entries.keepGlob text) none rest
      | .long name value =>
          match Parameter.ofLongName? name with
          | none => .error (unknownName entries name)
          | some p =>
              match p.takesValue, value with
              | true, some value => do
                  let entries ← Entries.orFault entries.settle
                  readArguments env (← Entries.orFault (entries.enter p [value])) none rest
              | true, none => do
                  let entries ← Entries.orFault entries.settle
                  readArguments env { entries with pending := some (p, []) } (some p) rest
              | false, some value =>
                  .error (.unexpectedValue p value (entries.used.filter (· ≠ .globs) ++ [p]))
              | false, none => do readArguments env (← entries.enterFlag env p) none rest

/-- Enters a value of the environment for a parameter that was not used. -/
def enterFromEnvironment (entries : Entries) (p : Parameter) (value : Option String) :
    Except UsageFault Entries :=
  match value with
  | some value =>
      if p ∈ entries.used then .ok entries else Entries.orFault (entries.enter p [value])
  | none => .ok entries

/-- Reads the arguments of the program. -/
def parse (env : Environment) (texts : List String) : Except UsageFault Arguments := do
  let entries ← Entries.orFault (← readArguments env {} none texts).settle
  let entries ← enterFromEnvironment entries .registryFile env.registryFile
  let entries ← enterFromEnvironment entries .cwd env.cwd
  match entries.values? .globs with
  | none => throw (.missingGlobs entries.used)
  | some globs =>
      return {
        globs
        registryFile :=
          ((entries.values? .registryFile).bind List.head?).getD defaultRegistryFile
        check := .check ∈ entries.used
        cwd := (entries.values? .cwd).bind List.head?
        verbose := .verbose ∈ entries.used }

end AddonRegistry.CommandLine
