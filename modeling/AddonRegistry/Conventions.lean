/-!
# Conventions

The names a project and its registry agree on.

* `registryModule`, `registryInterface` — where a source file declares what it registers.
* `sourceFolder` — the folder whose files are published under the name of the package.
* `manifestFile`, `defaultRegistryFile` — the files of a project that have a fixed place.
-/

namespace AddonRegistry

/-- The module whose declarations hold the registry. -/
def registryModule : String := "@glint/environment-ember-loose/registry"

/-- The interface in that module that lists the registered names. -/
def registryInterface : String := "Registry"

/-- The source folder of an addon, which is published under the name of the package. -/
def sourceFolder : String := "addon"

/-- The file that holds the name of the package. -/
def manifestFile : String := "package.json"

/-- Where the registry file is, unless something else is asked for. -/
def defaultRegistryFile : String := "addon/template-registry.ts"

end AddonRegistry
