import AddonRegistry.Proofs.Bindings

/-!
# Files that are put in one after the other

A scan grows by one file at a time, and a file that is put in again gives way to itself: it keeps its place
and its first spelling, and what it registers is what was said last.  So a scan can be told from the whole
list at once, and with it the lines of its registry.  Import lines are told apart as texts; but a text tells
the type and the path that it was made from, so one line is kept for each pair of these.

* `lastOf`, `tableOf` — the scan of a list of files, told at once.
* `Scan.insert_of_mem_meanings` — a file that is put in again.
* **`ofInsertions_eq`** — files that are put in one after the other make that scan.
* `imports_of_uses` — the import lines, by type and path.
* `Alike`, `forall₂_insert` — two scans that differ in their spelling, and a file put into both.
* `ofScan_congr` — spellings change no lines.
* **`lines_of_insertions`** — the lines of a registry, told from the list of files.
-/

namespace AddonRegistry

variable {scan : Scan} {insertions others front : List (Path × List Member)} {entry : Path × List Member}
  {file other root : Path} {package : String} {members : List Member}

/-- The scan that files make which are put in one after the other. -/
def Scan.ofInsertions (insertions : List (Path × List Member)) : Scan :=
  insertions.foldl (fun scan entry => scan.insert entry.1 entry.2) []

/-- What was said last of a file. -/
def lastOf (insertions : List (Path × List Member)) (file : Path) : List Member :=
  ((insertions.filter fun entry => file.Same entry.1).getLast?.map Prod.snd).getD []

/-- Each file where it was first met, with what was said last of it. -/
def tableOf (insertions : List (Path × List Member)) : Scan :=
  (firsts Scan.meaning insertions).map fun entry => (entry.1, lastOf insertions entry.1)

/-! ## The scan -/

lemma Scan.ofInsertions_concat (front : List (Path × List Member)) (entry : Path × List Member) :
    ofInsertions (front ++ [entry]) = (ofInsertions front).insert entry.1 entry.2 := by
  rw [ofInsertions, List.foldl_append]
  rfl

lemma lastOf_concat (front : List (Path × List Member)) (entry : Path × List Member) (file : Path) :
    lastOf (front ++ [entry]) file = if file.Same entry.1 then entry.2 else lastOf front file := by
  rw [lastOf, List.filter_append]
  split_ifs with hsame
  · simp [hsame]
  · simp [hsame, lastOf]

/-- What was said last of a file was said at some time. -/
lemma exists_of_mem_lastOf {m : Member} (h : m ∈ lastOf insertions file) :
    ∃ entry ∈ insertions, m ∈ entry.2 := by
  rw [lastOf] at h
  cases hlast : (insertions.filter fun entry => file.Same entry.1).getLast? with
  | none =>
      rw [hlast] at h
      cases h
  | some entry =>
      rw [hlast] at h
      exact ⟨entry, (List.mem_filter.mp (List.mem_of_getLast? hlast)).1, h⟩

lemma meanings_tableOf (insertions : List (Path × List Member)) :
    (tableOf insertions).meanings = (firsts Scan.meaning insertions).map Scan.meaning := by
  rw [Scan.meanings, tableOf, List.map_map]
  rfl

lemma nodup_meanings_tableOf (insertions : List (Path × List Member)) :
    (tableOf insertions).meanings.Nodup := by
  rw [meanings_tableOf]
  exact nodup_map_firsts Scan.meaning insertions

/-- **A file that is put in again** keeps its place and its spelling. -/
lemma Scan.insert_of_mem_meanings (hnodup : scan.meanings.Nodup) (h : file.components ∈ scan.meanings) :
    scan.insert file members =
      scan.map fun entry => (entry.1, if entry.1.Same file then members else entry.2) := by
  induction scan with
  | nil => cases h
  | cons known rest ih =>
      rw [meanings, List.map_cons, List.nodup_cons] at hnodup
      rw [insert, List.map_cons]
      by_cases hknown : known.1.Same file
      · -- no other entry is the one of the file
        have hrest : ∀ entry ∈ rest, (entry.1, if entry.1.Same file then members else entry.2) = entry := by
          intro entry he
          rw [if_neg fun hentry => hnodup.1 ?_]
          have hmeaning : entry.1.components = known.1.components := hentry.trans hknown.symm
          rw [← hmeaning]
          exact List.mem_map_of_mem (f := fun entry : Path × List Member => entry.1.components) he
        rw [if_pos hknown, if_pos hknown, List.map_congr_left hrest, List.map_id']
      · have hmem : file.components ∈ meanings rest :=
          (List.mem_cons.mp h).resolve_left fun he => hknown he.symm
        rw [if_neg hknown, if_neg hknown, ih hnodup.2 hmem]

/-- **One file more** in a list is one file more in its scan. -/
lemma tableOf_concat (front : List (Path × List Member)) (entry : Path × List Member) :
    tableOf (front ++ [entry]) = (tableOf front).insert entry.1 entry.2 := by
  by_cases hmem : entry.1.components ∈ front.map Scan.meaning
  · obtain ⟨known, hknown, hsame⟩ := List.mem_map.mp hmem
    obtain ⟨first, hfirst, hmeaning⟩ := exists_mem_firsts Scan.meaning hknown
    have htable : entry.1.components ∈ (tableOf front).meanings := by
      rw [meanings_tableOf, ← hsame, ← hmeaning]
      exact List.mem_map_of_mem hfirst
    rw [Scan.insert_of_mem_meanings (nodup_meanings_tableOf front) htable, tableOf, tableOf,
      firsts_concat_of_mem hmem, List.map_map]
    refine List.map_congr_left fun first _ => ?_
    rw [lastOf_concat]
    rfl
  · have htable : ∀ first ∈ firsts Scan.meaning front, ¬ first.1.Same entry.1 := fun first hf hsame =>
      hmem (hsame ▸ List.mem_map_of_mem (f := Scan.meaning) (mem_of_mem_firsts hf))
    have hnew : ∀ listed ∈ tableOf front, ¬ listed.1.Same entry.1 := List.forall_mem_map.mpr htable
    rw [Scan.insert_of_forall hnew, tableOf, tableOf, firsts_concat_of_notMem hmem, List.map_append]
    congr 1
    · refine List.map_congr_left fun first hf => ?_
      rw [lastOf_concat, if_neg (htable first hf)]
    · have hself : entry.1.Same entry.1 := rfl
      rw [List.map_singleton, lastOf_concat, if_pos hself]

/-- **Files that are put in one after the other** make the scan that is told from the whole list. -/
lemma ofInsertions_eq (insertions : List (Path × List Member)) :
    Scan.ofInsertions insertions = tableOf insertions := by
  induction insertions using List.reverseRecOn with
  | nil => rfl
  | append_singleton front entry ih => rw [Scan.ofInsertions_concat, ih, tableOf_concat]

/-! ## Import lines -/

/-- The types that a scan uses and where they are imported from, as often as they are used. -/
def Scan.uses (scan : Scan) (root : Path) (package : String) : List (String × String) :=
  scan.flatMap fun entry => entry.2.map fun m => (m.target, importPath entry.1 root package)

lemma importLines_eq_map_uses (scan : Scan) (root : Path) (package : String) :
    scan.importLines root package = (scan.uses root package).map importLineOf := by
  rw [Scan.importLines, Scan.uses, List.map_flatMap]
  simp only [List.map_map]
  rfl

/-- The imports of a registry are its uses, each of them once. -/
lemma imports_of_uses (htargets : ∀ use ∈ scan.uses root package, ' ' ∉ use.1.toList) :
    (Body.ofScan scan root package).imports =
      (firsts id (scan.uses root package)).map importLineOf := by
  rw [imports_ofScan, importLines_eq_map_uses, distinct_eq_firsts, firsts_map]
  congr 1
  exact firsts_congr fun use hu other ho => importLineOf_inj (htargets use hu) (htargets other ho)

lemma exists_of_mem_uses {use : String × String} (h : use ∈ (tableOf insertions).uses root package) :
    ∃ entry ∈ insertions, ∃ m ∈ entry.2, m.target = use.1 := by
  obtain ⟨listed, hlisted, huse⟩ := List.mem_flatMap.mp h
  obtain ⟨first, -, rfl⟩ := List.mem_map.mp hlisted
  obtain ⟨m, hlast, rfl⟩ := List.mem_map.mp huse
  obtain ⟨entry, he, hm⟩ := exists_of_mem_lastOf hlast
  exact ⟨entry, he, m, hm, rfl⟩

/-! ## Other spellings -/

/-- That two entries are spellings of one path with the same members. -/
def Alike (entry other : Path × List Member) : Prop := entry.1.Same other.1 ∧ entry.2 = other.2

variable {respelled : Scan}

/-- **One file more**, under another spelling. -/
lemma forall₂_insert {entry other : Path × List Member} (h : List.Forall₂ Alike scan respelled)
    (hentry : Alike entry other) :
    List.Forall₂ Alike (scan.insert entry.1 entry.2) (respelled.insert other.1 other.2) := by
  induction h with
  | nil => exact .cons hentry .nil
  | @cons known known' rest rest' hknown hrest ih =>
      have hiff : known.1.Same entry.1 ↔ known'.1.Same other.1 := by
        rw [Path.Same, Path.Same, hknown.1, hentry.1]
      rw [Scan.insert, Scan.insert]
      by_cases hsame : known.1.Same entry.1
      · rw [if_pos hsame, if_pos (hiff.mp hsame)]
        exact .cons ⟨hknown.1, hentry.2⟩ hrest
      · rw [if_neg hsame, if_neg (mt hiff.mpr hsame)]
        exact .cons hknown ih

/-- Files under other spellings make a scan under other spellings. -/
lemma forall₂_ofInsertions (h : List.Forall₂ Alike insertions others) :
    List.Forall₂ Alike (Scan.ofInsertions insertions) (Scan.ofInsertions others) := by
  refine List.rel_foldl (P := List.Forall₂ Alike) ?_ .nil h
  intro scan respelled hscan entry other hentry
  exact forall₂_insert hscan hentry

lemma importLines_congr (h : List.Forall₂ Alike scan respelled) (hroot : root.Same other)
    (package : String) : scan.importLines root package = respelled.importLines other package := by
  induction h with
  | nil => rw [Scan.importLines, Scan.importLines, List.flatMap_nil, List.flatMap_nil]
  | cons hentry _ ih =>
      rw [Scan.importLines, Scan.importLines] at ih ⊢
      rw [List.flatMap_cons, List.flatMap_cons, ih, importPath_congr hentry.1 hroot package, hentry.2]

lemma members_congr (h : List.Forall₂ Alike scan respelled) :
    scan.map Prod.snd = respelled.map Prod.snd := by
  induction h with
  | nil => rfl
  | cons hentry _ ih => rw [List.map_cons, List.map_cons, hentry.2, ih]

lemma ofScan_eq (scan : Scan) (root : Path) (package : String) : Body.ofScan scan root package =
    ⟨distinct (scan.importLines root package), (scan.map Prod.snd).flatMap declarationLines⟩ := by
  rw [← imports_ofScan, ← declarations_ofScan]

/-- **Scans under other spellings** have the same lines. -/
lemma ofScan_congr (h : List.Forall₂ Alike scan respelled) (hroot : root.Same other) (package : String) :
    Body.ofScan scan root package = Body.ofScan respelled other package := by
  rw [ofScan_eq, ofScan_eq, importLines_congr h hroot, members_congr h]

/-! ## The statement -/

/-- **The lines of files that are put in one after the other.**  The declarations are those of each file
where it was first met, by what was said last of it.  The imports are one line for each pair of a type and
an import path that occurs there, in the order of first use: the lines of two pairs differ if the pairs do,
as the names of types hold no spaces.  And how the files or the root are spelled changes nothing. -/
theorem lines_of_insertions (insertions : List (Path × List Member)) (root : Path) (package : String)
    (htargets : ∀ entry ∈ insertions, ∀ m ∈ entry.2, ' ' ∉ m.target.toList) :
    (Body.ofScan (Scan.ofInsertions insertions) root package).declarations =
      (tableOf insertions).flatMap (fun entry => entry.2.map Member.declarationLine) ∧
    (Body.ofScan (Scan.ofInsertions insertions) root package).imports =
      (firsts id ((tableOf insertions).uses root package)).map importLineOf ∧
    (Body.ofScan (Scan.ofInsertions insertions) root package).imports.Nodup ∧
    (∀ use other : String × String, ' ' ∉ use.1.toList → ' ' ∉ other.1.toList →
      (importLineOf use = importLineOf other ↔ use = other)) ∧
    ∀ others other, List.Forall₂ Alike insertions others → root.Same other →
      Body.ofScan (Scan.ofInsertions insertions) root package =
        Body.ofScan (Scan.ofInsertions others) other package := by
  refine ⟨?_, ?_, nodup_imports_ofScan _ _ _, fun use other huse hother => importLineOf_inj huse hother,
    fun others other hothers hroot => ofScan_congr (forall₂_ofInsertions hothers) hroot package⟩
  · rw [ofInsertions_eq, declarations_ofScan, List.flatMap_map]
    rfl
  · rw [ofInsertions_eq]
    refine imports_of_uses fun use huse => ?_
    obtain ⟨entry, he, m, hm, htarget⟩ := exists_of_mem_uses huse
    rw [← htarget]
    exact htargets entry he m hm

/-- A file that is put in again under another spelling, behind one that uses a type of the same name. -/
def repeatedFile : List (Path × List Member) :=
  [(⟨"/p/addon/a.ts"⟩, [⟨"a", "A"⟩]), (⟨"/p/lib/b.ts"⟩, [⟨"b", "B"⟩, ⟨"c", "B"⟩]),
    (⟨"/p//addon/./a.ts"⟩, [⟨"d", "B"⟩])]

/-- The file keeps its place in the lines, and its new members take the place of the old one. -/
theorem repeated_file_keeps_its_place :
    (∀ entry ∈ repeatedFile, ∀ m ∈ entry.2, ' ' ∉ m.target.toList) ∧
      (Body.ofScan (Scan.ofInsertions repeatedFile) ⟨"/p/"⟩ "pkg").declarations =
        ["'d': typeof B;", "'b': typeof B;", "'c': typeof B;"] ∧
      (Body.ofScan (Scan.ofInsertions repeatedFile) ⟨"/p/"⟩ "pkg").imports =
        ["import type B from 'pkg/a.ts';", "import type B from 'lib/b.ts';"] := by
  have htargets : ∀ entry ∈ repeatedFile, ∀ m ∈ entry.2, ' ' ∉ m.target.toList := by decide +kernel
  obtain ⟨hdeclarations, himports, -⟩ := lines_of_insertions repeatedFile ⟨"/p/"⟩ "pkg" htargets
  refine ⟨htargets, ?_, ?_⟩
  · rw [hdeclarations]
    decide +kernel
  · rw [himports]
    decide +kernel

end AddonRegistry
