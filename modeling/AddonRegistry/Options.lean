import AddonRegistry.Conventions
import AddonRegistry.Path

/-!
# What a run is asked to do

* `Options` — the patterns of the files to look at, the project, its registry file, and whether
  the registry is only compared.
* `Options.registryPath` — the place of the registry file.
-/

namespace AddonRegistry

/-- What a run is asked to do. -/
structure Options where
  /-- Patterns of the files to look at, seen from the root. -/
  patterns : List String
  /-- The root of the project. -/
  root : Path
  /-- The registry file, seen from the root. -/
  registryFile : Path := ⟨defaultRegistryFile⟩
  /-- Only compare, never write. -/
  check : Bool := false
  verbose : Bool := false
  deriving DecidableEq, Repr

namespace Options

/-- The place of the registry file. -/
def registryPath (options : Options) : Path := options.root.join options.registryFile

end Options

end AddonRegistry
