import AddonRegistry.Proofs.Paths.Climbs

/-!
# Files that are imported from one place

The path of a file relative to the root tells which file it is, since it leads back to it.  All of that goes
into the path that the file is imported from, but for one thing: where this starts with the name of the
package, it does not tell whether that stands for the source folder or for a folder of that name.

* `relativeTo_eq_iff` — relative paths tell absolute paths apart, also those that are reached by climbing.
* `importPath_of_source`, `importPath_of_outside` — the two kinds of import paths.
* **`import_paths_agree_iff`** — when two files are imported from one place.
* `folder_named_as_package_shadows_source` — two files that are.
-/

namespace AddonRegistry

variable {p q root : Path} {package rest : String}

/-- That a path, seen from the root, is one below the source folder. -/
def InSourceFolder (relative : String) : Prop := (sourceFolder ++ "/").toList <+: relative.toList

/-- That a path outside of the source folder is what a path below it becomes when the package is put in the
place of the source folder. -/
def Shadows (package outside inside : String) : Prop :=
  ∃ rest, inside = sourceFolder ++ "/" ++ rest ∧ outside = package ++ "/" ++ rest ∧
    ¬ InSourceFolder outside

/-! ## What a relative path tells -/

/-- **Relative paths** tell absolute paths without pairs of dots apart. -/
lemma relativeTo_eq_iff (hroot : root.isAbsolute) (hp : p.isAbsolute) (hq : q.isAbsolute)
    (hpDots : .parent ∉ p.components) (hqDots : .parent ∉ q.components) :
    p.relativeTo root = q.relativeTo root ↔ p.Same q := by
  constructor
  · intro h
    have hlead := Path.resolve_relativeTo hp hroot hpDots
    rw [h, Path.resolve_relativeTo hq hroot hqDots] at hlead
    exact hlead.symm
  · intro h
    rw [Path.relativeTo_eq, Path.relativeTo_eq, h]

/-! ## The two kinds of import paths -/

lemma exists_of_inSourceFolder {relative : String} (h : InSourceFolder relative) :
    ∃ rest, relative = sourceFolder ++ "/" ++ rest := by
  obtain ⟨rest, hrest⟩ := h
  refine ⟨String.ofList rest, ?_⟩
  rw [← String.toList_inj, String.toList_append, String.toList_ofList, hrest]

lemma inSourceFolder_append (rest : String) : InSourceFolder (sourceFolder ++ "/" ++ rest) :=
  ⟨rest.toList, String.toList_append.symm⟩

/-- A file below the source folder is imported through the package. -/
lemma importPath_of_source (h : p.relativeTo root = sourceFolder ++ "/" ++ rest) (package : String) :
    importPath p root package = package ++ "/" ++ rest := by
  have hbelow : belowSourceFolder? (p.relativeTo root).toList = some rest.toList := by
    rw [belowSourceFolder?_eq_some, h]
    simp
  unfold importPath
  dsimp only
  rw [hbelow]
  dsimp only
  rw [String.ofList_toList]

/-- Every other file is imported by its relative path. -/
lemma importPath_of_outside (h : ¬ InSourceFolder (p.relativeTo root)) (package : String) :
    importPath p root package = p.relativeTo root := by
  have hbelow : belowSourceFolder? (p.relativeTo root).toList = none := by
    refine Option.eq_none_iff_forall_ne_some.mpr fun below hb => h ⟨below, ?_⟩
    rw [belowSourceFolder?_eq_some.mp hb, String.toList_append, List.append_assoc]
    rfl
  unfold importPath
  dsimp only
  rw [hbelow]

/-- A file that shadows another one is imported from the place of that one. -/
lemma importPath_of_shadows (h : Shadows package (q.relativeTo root) (p.relativeTo root)) :
    importPath q root package = importPath p root package := by
  obtain ⟨rest, hinside, houtside, hnot⟩ := h
  rw [importPath_of_outside hnot, importPath_of_source hinside, houtside]

/-- Import paths that agree come from one relative path, or one of these shadows the other. -/
lemma relativeTo_eq_or_shadows (h : importPath p root package = importPath q root package) :
    p.relativeTo root = q.relativeTo root ∨
      Shadows package (q.relativeTo root) (p.relativeTo root) ∨
        Shadows package (p.relativeTo root) (q.relativeTo root) := by
  by_cases hp : InSourceFolder (p.relativeTo root) <;> by_cases hq : InSourceFolder (q.relativeTo root)
  · obtain ⟨rest, hrest⟩ := exists_of_inSourceFolder hp
    obtain ⟨more, hmore⟩ := exists_of_inSourceFolder hq
    rw [importPath_of_source hrest, importPath_of_source hmore, String.append_right_inj] at h
    exact .inl (by rw [hrest, hmore, h])
  · obtain ⟨rest, hrest⟩ := exists_of_inSourceFolder hp
    rw [importPath_of_source hrest, importPath_of_outside hq] at h
    exact .inr (.inl ⟨rest, hrest, h.symm, hq⟩)
  · obtain ⟨more, hmore⟩ := exists_of_inSourceFolder hq
    rw [importPath_of_outside hp, importPath_of_source hmore] at h
    exact .inr (.inr ⟨more, hmore, h, hp⟩)
  · rw [importPath_of_outside hp, importPath_of_outside hq] at h
    exact .inl h

lemma not_shadows_of_iff {outside inside : String} (h : InSourceFolder outside ↔ InSourceFolder inside) :
    ¬ Shadows package outside inside := by
  rintro ⟨rest, rfl, -, hnot⟩
  exact hnot (h.mpr (inSourceFolder_append rest))

/-! ## The statement -/

/-- **When two files are imported from one place.**  They are one file in two spellings, or one is below the
source folder and the other one is outside of it, in the same way below a path that is spelled like the
package.  So among the files of the source folder, and among all others, an import path tells the file.  The
files are absolute and without pairs of dots; the root may hold some. -/
theorem import_paths_agree_iff (hroot : root.isAbsolute) (hp : p.isAbsolute) (hq : q.isAbsolute)
    (hpDots : .parent ∉ p.components) (hqDots : .parent ∉ q.components) (package : String) :
    (importPath p root package = importPath q root package ↔
      p.Same q ∨ Shadows package (q.relativeTo root) (p.relativeTo root) ∨
        Shadows package (p.relativeTo root) (q.relativeTo root)) ∧
    ((InSourceFolder (p.relativeTo root) ↔ InSourceFolder (q.relativeTo root)) →
      (importPath p root package = importPath q root package ↔ p.Same q)) := by
  have htell := relativeTo_eq_iff hroot hp hq hpDots hqDots
  have hagree : importPath p root package = importPath q root package ↔
      p.Same q ∨ Shadows package (q.relativeTo root) (p.relativeTo root) ∨
        Shadows package (p.relativeTo root) (q.relativeTo root) := by
    constructor
    · intro h
      rw [← htell]
      exact relativeTo_eq_or_shadows h
    · rintro (hsame | hshadows | hshadows)
      · exact importPath_congr hsame rfl package
      · exact (importPath_of_shadows hshadows).symm
      · exact importPath_of_shadows hshadows
  refine ⟨hagree, fun hside => hagree.trans ⟨?_, .inl⟩⟩
  rintro (hsame | hshadows | hshadows)
  · exact hsame
  · exact absurd hshadows (not_shadows_of_iff hside.symm)
  · exact absurd hshadows (not_shadows_of_iff hside)

/-- A folder that is named as the package, beside the source folder. -/
theorem folder_named_as_package_shadows_source :
    Path.isAbsolute ⟨"/p"⟩ ∧ Path.isAbsolute ⟨"/p/addon/x.ts"⟩ ∧ Path.isAbsolute ⟨"/p//@o/ui/x.ts"⟩ ∧
      .parent ∉ Path.components ⟨"/p/addon/x.ts"⟩ ∧ .parent ∉ Path.components ⟨"/p//@o/ui/x.ts"⟩ ∧
      ¬ Path.Same ⟨"/p/addon/x.ts"⟩ ⟨"/p//@o/ui/x.ts"⟩ ∧
      importPath ⟨"/p/addon/x.ts"⟩ ⟨"/p"⟩ "@o/ui" = importPath ⟨"/p//@o/ui/x.ts"⟩ ⟨"/p"⟩ "@o/ui" := by
  refine ⟨by decide, by decide, by decide, by decide +kernel, by decide +kernel, by decide +kernel, ?_⟩
  refine (import_paths_agree_iff (by decide) (by decide) (by decide) (by decide +kernel)
    (by decide +kernel) "@o/ui").1.mpr (.inr (.inl ⟨"x.ts", ?_, ?_, ?_⟩))
  · decide +kernel
  · decide +kernel
  · rw [InSourceFolder]
    decide +kernel

end AddonRegistry
