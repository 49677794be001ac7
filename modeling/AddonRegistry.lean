import AddonRegistry.Main
import AddonRegistry.Proofs.FileTree.Nodes
import AddonRegistry.Proofs.FileTree.Walks
import AddonRegistry.Proofs.FileTree.Shape
import AddonRegistry.Proofs.FileTree.Entries
import AddonRegistry.Proofs.RegistryFile
import AddonRegistry.Proofs.Run.Courses
import AddonRegistry.Proofs.Run.Modes
import AddonRegistry.Proofs.Run.FixedPoint
import AddonRegistry.Proofs.Extraction.Interfaces
import AddonRegistry.Proofs.Extraction.Walks
import AddonRegistry.Proofs.Extraction.Registries
import AddonRegistry.Proofs.Template
import AddonRegistry.Proofs.TypeScript.Lexemes
import AddonRegistry.Proofs.TypeScript.Steps
import AddonRegistry.Proofs.TypeScript.Lines
import AddonRegistry.Proofs.Extraction.Generated
import AddonRegistry.Proofs.FileTree.Spellings
import AddonRegistry.Proofs.Survey
import AddonRegistry.Proofs.Run.SelfMatch
import AddonRegistry.Proofs.Run.Frame
import AddonRegistry.Proofs.Run.LifeCycle
import AddonRegistry.Proofs.Run.Regeneration
import AddonRegistry.Proofs.TypeScript.Keys
import AddonRegistry.Proofs.TypeScript.Quotes
import AddonRegistry.Proofs.Extraction.ReadBack
import AddonRegistry.Proofs.Firsts
import AddonRegistry.Proofs.Paths.Relative
import AddonRegistry.Proofs.Paths.Joins
import AddonRegistry.Proofs.Scan
import AddonRegistry.Proofs.Body
import AddonRegistry.Proofs.Run.Patterns
import AddonRegistry.Proofs.Bindings
import AddonRegistry.Proofs.FileTree.Named
import AddonRegistry.Proofs.Glob.Steps
import AddonRegistry.Proofs.Glob.Roots
import AddonRegistry.Proofs.Glob.Below
import AddonRegistry.Proofs.CommandLine.Imports
import AddonRegistry.Proofs.Glob.Twins
import AddonRegistry.Proofs.Paths.Parents
import AddonRegistry.Proofs.RegistryBelow
import AddonRegistry.Proofs.Glob.Respelled
import AddonRegistry.Proofs.Run.Spellings
import AddonRegistry.Proofs.ScanOrder
import AddonRegistry.Proofs.Extraction.Elements
import AddonRegistry.Proofs.Glob.Wildcards
import AddonRegistry.Proofs.Glob.Standing
import AddonRegistry.Proofs.Glob.Exact
import AddonRegistry.Proofs.Glob.Lookalikes
import AddonRegistry.Proofs.Glob.Ways
import AddonRegistry.Proofs.Glob.Folders
import AddonRegistry.Proofs.Glob.Moved
import AddonRegistry.Proofs.Paths.Climbs
import AddonRegistry.Proofs.ImportPaths
import AddonRegistry.Proofs.Insertions
import AddonRegistry.Proofs.FileTree.Detours
import AddonRegistry.Proofs.FailedWrites
import AddonRegistry.Proofs.Run.Creation
import AddonRegistry.Proofs.Lines
import AddonRegistry.Proofs.Run.Counts
import AddonRegistry.Proofs.Run.InSync
import AddonRegistry.Proofs.Json.Grammar
import AddonRegistry.Proofs.Json.Steps
import AddonRegistry.Proofs.Json.Strings
import AddonRegistry.Proofs.Json.Values
import AddonRegistry.Proofs.Json.Unique
import AddonRegistry.Proofs.Manifest
import AddonRegistry.Proofs.Run.PackageName
