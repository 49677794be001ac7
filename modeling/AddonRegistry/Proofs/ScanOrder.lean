import AddonRegistry.Proofs.Scan

/-!
# Scans, path by path

A scan is made with a table into which the files go one after the other, and a path that is met again
replaces its own entry.  None of this can be seen afterwards: a scan fails as its first unreadable file
does, and otherwise it is what one gets by reading each path once, where it is first met.

* `examine_eq_ok_iff`, `examine_eq_error_iff` — what a file registers is read off its text.
* `scanOfEach` — the scan of files each path of which is read once.
* `scanOfEach_eq` — the table holds it: of the paths that come to something, the first occurrences are those
  of all paths.
* `Survey.scanFrom_append` — a scan goes on where it stopped, from which `scan_insert_idle` and
  `scan_insert_known` follow: files that add nothing.
* **`scan_reads_each_path_once`** — all of it in one statement.
-/

namespace AddonRegistry

variable {tree : FileTree} {file other : Path} {files before front after : List Path}
  {members : List Member} {failure : Failure}

/-! ## One file -/

/-- That a file is read, and what it registers. -/
def Extracts (tree : FileTree) (file : Path) (members : List Member) : Prop :=
  ∃ code, tree.readText file = .ok code ∧ membersOf code file.text = .ok members

/-- That a file cannot be read, or that what it registers cannot.  The failure names the file. -/
def FailsWith (tree : FileTree) (file : Path) (failure : Failure) : Prop :=
  (∃ fault, tree.readText file = .error fault ∧ failure = .sourceFile file fault) ∨
    ∃ code error, tree.readText file = .ok code ∧ membersOf code file.text = .error error ∧
      failure = .extraction file error

lemma examine_eq_ok_iff : examine tree file = .ok members ↔ Extracts tree file members := by
  rw [examine, Extracts]
  rcases tree.readText file with fault | code
  · simp
  · rcases h : membersOf code file.text with error | found <;> simp [h]

lemma examine_eq_error_iff : examine tree file = .error failure ↔ FailsWith tree file failure := by
  rw [examine, FailsWith]
  rcases tree.readText file with fault | code
  · simp [eq_comm]
  · rcases h : membersOf code file.text with error | found <;> simp [h, eq_comm]

/-! ## Reading each path once -/

/-- The scan of files each path of which is read once, as it is spelled where it is first met. -/
def scanOfEach (tree : FileTree) (files : List Path) : Scan :=
  (firsts Path.components files).filterMap fun file => entryOf? (file, examine tree file)

lemma entryOf?_eq_some {result : Except Failure (List Member)} {entry : Path × List Member}
    (h : entryOf? (file, result) = some entry) : entry.1 = file ∧ result = .ok entry.2 := by
  rw [entryOf?] at h
  split at h
  · next m rest hresult =>
      cases h
      exact ⟨rfl, hresult⟩
  · cases h

/-- **Of the paths that come to something**, the first occurrences are those of all paths: a path comes to
the same in all its spellings. -/
lemma scanOfEach_eq (hread : ∀ file ∈ files, ∃ members, examine tree file = .ok members) :
    firsts Scan.meaning (entriesOf tree files) = scanOfEach tree files := by
  rw [entriesOf_eq_filterMap]
  refine firsts_filterMap (fun file _ entry h => ?_) fun file hf other ho hsame => ?_
  · rw [Scan.meaning, (entryOf?_eq_some h).1]
  · obtain ⟨members, hm⟩ := hread file hf
    obtain ⟨others, hn⟩ := hread other ho
    have heq : members = others := examine_eq_of_same hsame hm hn
    rw [hm, hn, heq]
    cases others <;> rfl

lemma mem_scanOfEach {entry : Path × List Member} :
    entry ∈ scanOfEach tree files ↔ entry.1 ∈ firsts Path.components files ∧ entry.2 ≠ [] ∧
      examine tree entry.1 = .ok entry.2 := by
  rw [scanOfEach, ← entriesOf_eq_filterMap, mem_entriesOf]

lemma nodup_meanings_scanOfEach (tree : FileTree) (files : List Path) :
    (scanOfEach tree files).meanings.Nodup := by
  have hfirsts := nodup_map_firsts Path.components files
  rw [List.Nodup, List.pairwise_map] at hfirsts
  rw [Scan.meanings, List.Nodup, List.pairwise_map, scanOfEach, List.pairwise_filterMap]
  refine hfirsts.imp fun hne entry hentry other hother => ?_
  rw [(entryOf?_eq_some hentry).1, (entryOf?_eq_some hother).1]
  exact hne

/-! ## Files that add nothing -/

/-- **A scan goes on where it stopped.** -/
lemma Survey.scanFrom_append (first second : Survey) (scan : Scan) :
    scanFrom scan (first ++ second) = (scanFrom scan first).bind fun known => scanFrom known second := by
  induction first generalizing scan with
  | nil => rfl
  | cons entry rest ih =>
      obtain ⟨file, failure | _ | ⟨m, members⟩⟩ := entry
      · rfl
      · exact ih scan
      · exact ih (scan.insert file (m :: members))

lemma scan_surveyOf_append (front after : List Path) :
    (surveyOf tree (front ++ after)).scan =
      (surveyOf tree front).scan.bind fun known => Survey.scanFrom known (surveyOf tree after) := by
  rw [surveyOf, List.map_append]
  exact Survey.scanFrom_append _ _ []

/-- A file that registers nothing adds nothing. -/
lemma scan_insert_idle (h : examine tree file = .ok []) (front after : List Path) :
    (surveyOf tree (front ++ file :: after)).scan = (surveyOf tree (front ++ after)).scan := by
  have hskip (known : Scan) : Survey.scanFrom known (surveyOf tree (file :: after)) =
      Survey.scanFrom known (surveyOf tree after) := by
    rw [surveyOf, List.map_cons, h]
    rfl
  simp only [scan_surveyOf_append, hskip]

/-- A file that is in a scan already adds nothing. -/
lemma scanFrom_known {known : Scan} (hknown : (surveyOf tree front).scan = .ok known)
    (hfile : file ∈ front) (hsame : other.Same file) (hother : examine tree other = .ok members) :
    Survey.scanFrom known (surveyOf tree (other :: after)) =
      Survey.scanFrom known (surveyOf tree after) := by
  obtain ⟨hread, rfl⟩ := scan_surveyOf_eq_ok_iff.mp hknown
  have hsurvey : surveyOf tree (other :: after) = (other, .ok members) :: surveyOf tree after := by
    rw [surveyOf, List.map_cons, hother, surveyOf]
  rw [hsurvey]
  cases members with
  | nil => rfl
  | cons m members =>
      obtain ⟨found, hf⟩ := hread file hfile
      have hfound : found = m :: members := examine_eq_of_same hsame.symm hf hother
      have hentry : (file, m :: members) ∈ entriesOf tree front :=
        mem_entriesOf.mpr ⟨hfile, List.cons_ne_nil m members, hfound ▸ hf⟩
      obtain ⟨entry, hmem, hmeaning⟩ := exists_mem_firsts Scan.meaning hentry
      have hagree : ∀ entry ∈ firsts Scan.meaning (entriesOf tree front), entry.1.Same other →
          entry.2 = m :: members := fun entry he hs =>
        examine_eq_of_same hs (mem_entriesOf.mp (mem_of_mem_firsts he)).2.2 hother
      rw [Survey.scanFrom, Scan.insert_of_exists hagree ⟨entry, hmem, hmeaning.trans hsame.symm⟩]
      simp

/-- A file that is met again adds nothing.  The other spelling has to be one that can be read: a path with a
slash at its end means the file, and cannot be opened. -/
lemma scan_insert_known (hfile : file ∈ front) (hsame : other.Same file)
    (hother : other = file ∨ ∃ members, examine tree other = .ok members) (after : List Path) :
    (surveyOf tree (front ++ other :: after)).scan = (surveyOf tree (front ++ after)).scan := by
  rw [scan_surveyOf_append, scan_surveyOf_append]
  cases hknown : (surveyOf tree front).scan with
  | error failure => rfl
  | ok known =>
      have hread : ∃ members, examine tree other = .ok members := by
        rcases hother with rfl | hother
        · exact (scan_surveyOf_eq_ok_iff.mp hknown).1 other hfile
        · exact hother
      obtain ⟨members, hm⟩ := hread
      exact scanFrom_known hknown hfile hsame hm

/-! ## The statement -/

/-- **A scan reads each path once.**  It fails if and only if a file of the list does, as the first one of
them does.  Otherwise it holds the paths that register something in the order in which they are first met,
each of them once and with what it registers.  So a file that registers nothing can be put anywhere, and a
path can be met again, under any spelling that can be read. -/
theorem scan_reads_each_path_once (tree : FileTree) (files : List Path) :
    (∀ failure, (surveyOf tree files).scan = .error failure ↔
      ∃ before file after, files = before ++ file :: after ∧
        (∀ other ∈ before, ∃ members, Extracts tree other members) ∧ FailsWith tree file failure) ∧
    (∀ scan, (surveyOf tree files).scan = .ok scan ↔
      (∀ file ∈ files, ∃ members, Extracts tree file members) ∧ scan = scanOfEach tree files) ∧
    (scanOfEach tree files).meanings.Nodup ∧
    (∀ file members, (file, members) ∈ scanOfEach tree files ↔
      file ∈ firsts Path.components files ∧ members ≠ [] ∧ Extracts tree file members) ∧
    ∀ front after, files = front ++ after →
      (∀ file, Extracts tree file [] →
        (surveyOf tree (front ++ file :: after)).scan = (surveyOf tree files).scan) ∧
      ∀ file ∈ front, ∀ other : Path, other.Same file →
        (other = file ∨ ∃ members, Extracts tree other members) →
          (surveyOf tree (front ++ other :: after)).scan = (surveyOf tree files).scan := by
  simp only [← examine_eq_ok_iff, ← examine_eq_error_iff]
  refine ⟨fun failure => scan_surveyOf_eq_error_iff, fun scan => ?_, ?_, fun file members => ?_, ?_⟩
  · rw [scan_surveyOf_eq_ok_iff]
    refine and_congr_right fun hread => ?_
    rw [scanOfEach_eq hread]
  · exact nodup_meanings_scanOfEach tree files
  · exact mem_scanOfEach
  · rintro front after rfl
    exact ⟨fun file h => scan_insert_idle h front after,
      fun file hf other hsame hother => scan_insert_known hf hsame hother after⟩

end AddonRegistry
