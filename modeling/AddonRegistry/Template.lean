import AddonRegistry.Body

/-!
# The registry file

A registry file is a template with two placeholders, one for the imports and one for the
declarations.  The declarations are put in first: they stand behind the placeholder for the imports,
so that nothing in them can be taken for it.

* `replaceFirst` — replaces the first occurrence of a text.
* `render` — the registry file with given lines.
* `stub` — the registry file without any.
-/

namespace AddonRegistry

/-- The place of the import lines. -/
def importsPlaceholder : List Char := "[[imports]]".toList

/-- The place of the declaration lines. -/
def declarationsPlaceholder : List Char := "[[registry_declarations]]".toList

/-- The registry file with both places empty. -/
def template : List Char :=
  importsPlaceholder ++ "\n\nexport default interface AddonRegistry \x7b\n".toList ++
    declarationsPlaceholder ++ "\n\x7d\n".toList

/-- A text with the first occurrence of `old` replaced. -/
def replaceFirst (old new : List Char) : List Char → List Char
  | [] => if old = [] then new else []
  | c :: rest =>
      if old.isPrefixOf (c :: rest) then new ++ (c :: rest).drop old.length
      else c :: replaceFirst old new rest

/-- The template with texts in its two places. -/
def fillTemplate (imports declarations : String) : String :=
  String.ofList <|
    replaceFirst importsPlaceholder imports.toList <|
      replaceFirst declarationsPlaceholder declarations.toList template

/-- The registry file with the lines of a body. -/
def render (body : Body) : String := fillTemplate body.importsBlock body.declarationsBlock

/-- The registry file of a project before anything is registered. -/
def stub : String := fillTemplate "" ""

end AddonRegistry
