import AddonRegistry.Proofs.Body
import AddonRegistry.Proofs.Glob.Below
import AddonRegistry.Run
import Mathlib.Data.List.Perm.Basic

/-!
# The order of the patterns

The patterns of a project are searched one after the other, and what is found is looked at in that order.
So more patterns add to what the first ones come to, but for files that these find as well; and in
another order, the patterns come to the same lines in another order.

* `collect_eq_ok` — what several patterns find.
* `scanned`, `scanned_eq_ok` — the files that register names, as a run finds them.
* `scan_append` — what more files add to a scan.
* **`pattern_order_is_line_order`** — what more patterns add, and what another order of them changes.
-/

namespace AddonRegistry

variable {options : Options} {tree : FileTree} {files others : List Path} {scan known added : Scan}
  {root : Path} {package : String}

/-- The same project, asked for other patterns. -/
def Options.asking (options : Options) (patterns : List String) : Options := { options with patterns }

/-! ## What patterns find -/

/-- The files that a pattern finds, and none if it cannot be searched for. -/
def filesOf (tree : FileTree) (root : Path) (pattern : String) : List Path :=
  (Glob.filesMatchingOne tree root pattern).toOption.getD []

/-- **Several patterns** find the files of a project if each of them can be searched for, and then one after
the other. -/
lemma collect_eq_ok : collect options tree = .ok files ↔
    (∀ pattern ∈ options.patterns, ∃ found,
      Glob.filesMatchingOne tree options.root pattern = .ok found) ∧
      files = options.patterns.flatMap (filesOf tree options.root) := by
  have hcollect : collect options tree = .ok files ↔
      Glob.filesMatching tree options.root options.patterns = .ok files := by
    rw [collect]
    cases Glob.filesMatching tree options.root options.patterns <;> simp [Except.mapError]
  exact hcollect.trans Glob.filesMatching_eq_ok_iff_forall

lemma collect_append {ps qs : List String} :
    collect (options.asking (ps ++ qs)) tree = .ok files ↔
      ∃ first second, collect (options.asking ps) tree = .ok first ∧
        collect (options.asking qs) tree = .ok second ∧ files = first ++ second := by
  simp only [collect_eq_ok, Options.asking, List.forall_mem_append, List.flatMap_append]
  constructor
  · rintro ⟨⟨hps, hqs⟩, rfl⟩
    exact ⟨_, _, ⟨hps, rfl⟩, ⟨hqs, rfl⟩, rfl⟩
  · rintro ⟨_, _, ⟨hps, rfl⟩, ⟨hqs, rfl⟩, rfl⟩
    exact ⟨⟨hps, hqs⟩, rfl⟩

/-- In another order, patterns find the same files in another order. -/
lemma exists_perm_of_collect {ps qs : List String} (hperm : ps.Perm qs)
    (h : collect (options.asking ps) tree = .ok files) :
    ∃ others, collect (options.asking qs) tree = .ok others ∧ files.Perm others := by
  obtain ⟨hread, rfl⟩ := collect_eq_ok.mp h
  refine ⟨_, collect_eq_ok.mpr ⟨fun pattern hp => hread pattern (hperm.mem_iff.mpr hp), rfl⟩, ?_⟩
  exact hperm.flatMap_right _

/-! ## What the files register -/

/-- The files of a project that register names, as a run finds them. -/
def scanned (options : Options) (tree : FileTree) : Except Failure Scan :=
  survey options tree >>= Survey.scan

lemma scanned_eq_ok : scanned options tree = .ok scan ↔
    ∃ files, collect options tree = .ok files ∧ (surveyOf tree files).scan = .ok scan := by
  rw [scanned, survey]
  cases collect options tree <;> simp [Except.map, bind, Except.bind]

lemma eq_of_meaning_eq : ∀ entry ∈ entriesOf tree files, ∀ other ∈ entriesOf tree files,
    Scan.meaning entry = Scan.meaning other → entry.2 = other.2 := by
  intro entry he other ho hmeaning
  exact examine_eq_of_same hmeaning (mem_entriesOf.mp he).2.2 (mem_entriesOf.mp ho).2.2

/-- The entries of a scan whose path none of the files has. -/
def Scan.unmet (scan : Scan) (files : List Path) : Scan :=
  scan.filter fun entry => ∀ file ∈ files, ¬ entry.1.Same file

/-- A path that registers something is met by files that can be read if it occurs among those of them that
do so as well. -/
lemma unmet_firsts (hread : ∀ file ∈ files, ∃ members, examine tree file = .ok members) :
    (firsts Scan.meaning (entriesOf tree others)).filter
        (fun entry => ∀ x ∈ entriesOf tree files, Scan.meaning entry ≠ Scan.meaning x) =
      Scan.unmet (firsts Scan.meaning (entriesOf tree others)) files := by
  refine List.filter_congr fun entry he => decide_eq_decide.mpr ?_
  obtain ⟨-, hne, hentry⟩ := mem_entriesOf.mp (mem_of_mem_firsts he)
  constructor
  · intro h file hf hsame
    obtain ⟨members, hm⟩ := hread file hf
    have hmembers : entry.2 = members := examine_eq_of_same hsame hentry hm
    exact h (file, members) (mem_entriesOf.mpr ⟨hf, hmembers ▸ hne, hm⟩) hsame
  · intro h x hx hsame
    exact h x.1 (mem_entriesOf.mp hx).1 hsame

/-- **More files** add to a scan what is not met before. -/
lemma scan_append (hfirst : (surveyOf tree files).scan = .ok known)
    (hsecond : (surveyOf tree others).scan = .ok added) :
    (surveyOf tree (files ++ others)).scan = .ok (known ++ added.unmet files) := by
  obtain ⟨hfiles, rfl⟩ := scan_surveyOf_eq_ok_iff.mp hfirst
  obtain ⟨hothers, rfl⟩ := scan_surveyOf_eq_ok_iff.mp hsecond
  refine scan_surveyOf_eq_ok_iff.mpr ⟨?_, ?_⟩
  · rw [List.forall_mem_append]
    exact ⟨hfiles, hothers⟩
  · rw [entriesOf_append, firsts_append, unmet_firsts hfiles]

/-- What is met before has its import lines there. -/
lemma importLines_subset_of_met (root : Path) (package : String)
    (hfirst : (surveyOf tree files).scan = .ok known)
    (hsecond : (surveyOf tree others).scan = .ok added) {entry : Path × List Member}
    (he : entry ∈ added) (hmet : ¬ ∀ file ∈ files, ¬ entry.1.Same file) :
    ∀ m ∈ entry.2, m.importLine (importPath entry.1 root package) ∈
      (Body.ofScan known root package).imports := by
  obtain ⟨hfiles, rfl⟩ := scan_surveyOf_eq_ok_iff.mp hfirst
  obtain ⟨-, rfl⟩ := scan_surveyOf_eq_ok_iff.mp hsecond
  obtain ⟨-, hne, hentry⟩ := mem_entriesOf.mp (mem_of_mem_firsts he)
  push Not at hmet
  obtain ⟨file, hf, hsame⟩ := hmet
  obtain ⟨members, hm⟩ := hfiles file hf
  have hmembers : entry.2 = members := examine_eq_of_same hsame hentry hm
  intro m hmem
  rw [mem_imports_firsts eq_of_meaning_eq, mem_importLines]
  refine ⟨(file, members), mem_entriesOf.mpr ⟨hf, hmembers ▸ hne, hm⟩, m, hmembers ▸ hmem, ?_⟩
  have hmeaning : Scan.meaning (file, members) = Scan.meaning entry := hsame.symm
  exact importLine_of_meaning_eq hmeaning

/-- **More files** add the import lines that are not there before. -/
lemma imports_append (hfirst : (surveyOf tree files).scan = .ok known)
    (hsecond : (surveyOf tree others).scan = .ok added) :
    (Body.ofScan (known ++ added.unmet files) root package).imports =
      (Body.ofScan known root package).imports ++ (Body.ofScan added root package).imports.filter
        (· ∉ (Body.ofScan known root package).imports) := by
  have hlines : (known ++ added.unmet files).importLines root package =
      known.importLines root package ++ (added.unmet files).importLines root package :=
    List.flatMap_append
  rw [imports_ofScan, hlines, distinct_append, ← imports_ofScan, imports_ofScan added, filter_distinct,
    filter_distinct]
  congr 2
  rw [Scan.importLines, Scan.importLines, List.filter_flatMap, List.filter_flatMap, Scan.unmet]
  refine flatMap_filter_of_nil fun entry he hmet => List.filter_eq_nil_iff.mpr fun line hline => ?_
  obtain ⟨m, hm, rfl⟩ := List.mem_map.mp hline
  have hthere := importLines_subset_of_met root package hfirst hsecond he (by simpa using hmet) m hm
  simpa using hthere

/-! ## Another order -/

/-- In another order, files come to the same entries in another order, but for their spelling. -/
lemma perm_scan (hperm : files.Perm others) (hfirst : (surveyOf tree files).scan = .ok known) :
    ∃ added, (surveyOf tree others).scan = .ok added ∧
      (known.map Prod.snd).Perm (added.map Prod.snd) ∧
      ∀ root package, (Body.ofScan known root package).imports.Perm
        (Body.ofScan added root package).imports := by
  obtain ⟨hfiles, rfl⟩ := scan_surveyOf_eq_ok_iff.mp hfirst
  have hentries : (entriesOf tree files).Perm (entriesOf tree others) := by
    rw [entriesOf_eq_filterMap, entriesOf_eq_filterMap]
    exact hperm.filterMap _
  refine ⟨_, scan_surveyOf_eq_ok_iff.mpr ⟨fun file hf => hfiles file (hperm.mem_iff.mpr hf), rfl⟩,
    perm_map_firsts hentries eq_of_meaning_eq, fun root package => ?_⟩
  refine (List.perm_ext_iff_of_nodup (nodup_imports_ofScan _ root package)
    (nodup_imports_ofScan _ root package)).mpr fun line => ?_
  rw [mem_imports_firsts eq_of_meaning_eq, mem_imports_firsts eq_of_meaning_eq]
  exact (hentries.flatMap_right _).mem_iff

lemma perm_scanned {ps qs : List String} (hperm : ps.Perm qs)
    (h : scanned (options.asking ps) tree = .ok known) :
    ∃ added, scanned (options.asking qs) tree = .ok added ∧
      (known.map Prod.snd).Perm (added.map Prod.snd) ∧
      ∀ root package, (Body.ofScan known root package).imports.Perm
        (Body.ofScan added root package).imports := by
  obtain ⟨files, hcollect, hscan⟩ := scanned_eq_ok.mp h
  obtain ⟨others, hothers, hfiles⟩ := exists_perm_of_collect hperm hcollect
  obtain ⟨added, hadded, hrest⟩ := perm_scan hfiles hscan
  exact ⟨added, scanned_eq_ok.mpr ⟨others, hothers, hadded⟩, hrest⟩

/-- **The order of the patterns is the order of the lines.**  More patterns find what they find behind
the files of the first ones, and nothing is found if one of them cannot be searched for.  Of what
they find, the files that the first ones find as well add nothing, whatever they are spelled like; the
others add their declarations behind those of the first ones, and the import lines that are not there
yet.  In another order, patterns come to the same lines in another order, and to the same counts. -/
theorem pattern_order_is_line_order (options : Options) (tree : FileTree) (root : Path)
    (package : String) (ps qs : List String) :
    (∀ files, collect (options.asking (ps ++ qs)) tree = .ok files ↔
      ∃ first second, collect (options.asking ps) tree = .ok first ∧
        collect (options.asking qs) tree = .ok second ∧ files = first ++ second) ∧
    (∀ first second known added, collect (options.asking ps) tree = .ok first →
      collect (options.asking qs) tree = .ok second → (surveyOf tree first).scan = .ok known →
      (surveyOf tree second).scan = .ok added →
      ∃ scan, scanned (options.asking (ps ++ qs)) tree = .ok scan ∧
        (Body.ofScan scan root package).declarations =
          (Body.ofScan known root package).declarations ++
            (Body.ofScan (added.unmet first) root package).declarations ∧
        (Body.ofScan scan root package).imports =
          (Body.ofScan known root package).imports ++ (Body.ofScan added root package).imports.filter
            (· ∉ (Body.ofScan known root package).imports)) ∧
    (ps.Perm qs →
      ((∃ scan, scanned (options.asking ps) tree = .ok scan) ↔
        ∃ scan, scanned (options.asking qs) tree = .ok scan) ∧
      ∀ scan other, scanned (options.asking ps) tree = .ok scan →
        scanned (options.asking qs) tree = .ok other →
        (Body.ofScan scan root package).declarations.Perm (Body.ofScan other root package).declarations ∧
        (Body.ofScan scan root package).imports.Perm (Body.ofScan other root package).imports ∧
        (Body.ofScan scan root package).memberCount = (Body.ofScan other root package).memberCount ∧
        scan.fileCount = other.fileCount) := by
  refine ⟨fun files => collect_append, fun first second known added hps hqs hknown hadded => ?_,
    fun hperm => ⟨⟨fun ⟨scan, h⟩ => ?_, fun ⟨scan, h⟩ => ?_⟩, fun scan other hscan hother => ?_⟩⟩
  · refine ⟨known ++ added.unmet first, scanned_eq_ok.mpr ⟨first ++ second, ?_, ?_⟩, ?_, ?_⟩
    · exact collect_append.mpr ⟨first, second, hps, hqs, rfl⟩
    · exact scan_append hknown hadded
    · exact List.flatMap_append
    · exact imports_append hknown hadded
  · obtain ⟨other, hother, -⟩ := perm_scanned hperm h
    exact ⟨other, hother⟩
  · obtain ⟨other, hother, -⟩ := perm_scanned hperm.symm h
    exact ⟨other, hother⟩
  · obtain ⟨found, hfound, hmembers, himports⟩ := perm_scanned hperm hscan
    cases hfound.symm.trans hother
    have hdeclarations : (Body.ofScan scan root package).declarations.Perm
        (Body.ofScan other root package).declarations := by
      rw [declarations_ofScan, declarations_ofScan]
      exact hmembers.flatMap_right _
    have hcount := hmembers.length_eq
    rw [List.length_map, List.length_map] at hcount
    exact ⟨hdeclarations, himports root package, hdeclarations.length_eq, hcount⟩

end AddonRegistry
