import AddonRegistry.Proofs.Scan

/-!
# The lines of a scan

* `mem_distinct`, `nodup_distinct`, `filter_distinct`, `distinct_append` — first occurrences of lines.
* `Scan.importLines` — the import lines of a scan, as often as they occur.
* `mem_imports_ofScan` — which lines there are among the imports.
* `mem_imports_firsts` — the import lines of a project can be read off its files in any order.
-/

namespace AddonRegistry

/-! ## First occurrences of lines -/

section

variable {lines others : List String} {line : String}

lemma mem_distinct : line ∈ distinct lines ↔ line ∈ lines := by
  rw [distinct_eq_firsts]
  refine ⟨mem_of_mem_firsts, fun h => ?_⟩
  obtain ⟨first, hfirst, rfl⟩ := exists_mem_firsts id h
  exact hfirst

lemma nodup_distinct (lines : List String) : (distinct lines).Nodup := by
  have h := nodup_map_firsts id lines
  rwa [List.map_id, ← distinct_eq_firsts] at h

lemma filter_distinct (p : String → Bool) :
    (distinct lines).filter p = distinct (lines.filter p) := by
  rw [distinct_eq_firsts, distinct_eq_firsts]
  exact filter_firsts fun x _ y _ he => congrArg p he

lemma distinct_append (lines others : List String) :
    distinct (lines ++ others) = distinct lines ++ (distinct others).filter (· ∉ distinct lines) := by
  rw [distinct_eq_firsts, firsts_append, ← distinct_eq_firsts, ← distinct_eq_firsts]
  congr 1
  refine List.filter_congr fun line _ => decide_eq_decide.mpr ?_
  rw [mem_distinct]
  exact ⟨fun h hm => h line hm rfl, fun h other ho (he : line = other) => h (he ▸ ho)⟩

end

/-! ## Scans -/

variable {scan known : Scan} {root : Path} {package line : String}

/-- The import lines of a scan, as often as they occur. -/
def Scan.importLines (scan : Scan) (root : Path) (package : String) : List String :=
  scan.flatMap fun entry => entry.2.map fun m => m.importLine (importPath entry.1 root package)

/-- The declaration lines of what files register. -/
def declarationLines (members : List Member) : List String := members.map Member.declarationLine

lemma imports_ofScan (scan : Scan) (root : Path) (package : String) :
    (Body.ofScan scan root package).imports = distinct (scan.importLines root package) := rfl

lemma nodup_imports_ofScan (scan : Scan) (root : Path) (package : String) :
    (Body.ofScan scan root package).imports.Nodup :=
  nodup_distinct _

lemma declarations_ofScan (scan : Scan) (root : Path) (package : String) :
    (Body.ofScan scan root package).declarations =
      (scan.map Prod.snd).flatMap declarationLines := by
  rw [List.flatMap_map]
  rfl

lemma declarations_eq_map (scan : Scan) (root : Path) (package : String) :
    (Body.ofScan scan root package).declarations =
      (scan.flatMap Prod.snd).map Member.declarationLine := by
  rw [List.map_flatMap]
  rfl

lemma mem_importLines : line ∈ scan.importLines root package ↔
    ∃ entry ∈ scan, ∃ m ∈ entry.2, m.importLine (importPath entry.1 root package) = line := by
  simp only [Scan.importLines, List.mem_flatMap, List.mem_map]

/-- Which lines there are among the imports. -/
lemma mem_imports_ofScan : line ∈ (Body.ofScan scan root package).imports ↔
    ∃ entry ∈ scan, ∃ m ∈ entry.2, m.importLine (importPath entry.1 root package) = line := by
  rw [imports_ofScan, mem_distinct, mem_importLines]

/-- Spellings of one path with the same names have the same import lines. -/
lemma importLine_of_meaning_eq {entry other : Path × List Member} {m : Member}
    (hmeaning : Scan.meaning entry = Scan.meaning other) :
    m.importLine (importPath entry.1 root package) = m.importLine (importPath other.1 root package) := by
  rw [importPath_congr hmeaning rfl]

/-- The import lines of a project can be read off its files, however often they are met. -/
lemma mem_imports_firsts
    (hsame : ∀ entry ∈ scan, ∀ other ∈ scan, Scan.meaning entry = Scan.meaning other →
      entry.2 = other.2) :
    line ∈ (Body.ofScan (firsts Scan.meaning scan) root package).imports ↔
      line ∈ scan.importLines root package := by
  rw [mem_imports_ofScan, mem_importLines]
  constructor
  · rintro ⟨entry, he, hline⟩
    exact ⟨entry, mem_of_mem_firsts he, hline⟩
  · rintro ⟨entry, he, m, hm, rfl⟩
    obtain ⟨first, hfirst, hmeaning⟩ := exists_mem_firsts Scan.meaning he
    refine ⟨first, hfirst, m, ?_, importLine_of_meaning_eq hmeaning⟩
    rwa [hsame first (mem_of_mem_firsts hfirst) entry he hmeaning]

end AddonRegistry
