import AddonRegistry.Survey
import Mathlib.Data.List.Nodup
import Mathlib.Data.List.Perm.Subperm

/-!
# What a survey comes to

A scan has one entry for each path of the survey that registers something, whatever the path is spelled
like.

* `Scan.meanings` — the paths of a scan, without their spelling.
* `mem_meanings_scanFrom`, `nodup_meanings_scanFrom` — there is one entry for each path that registers
  something.
* **`fileCount_lt`** — a survey in which more paths register something comes to more files.
* `registers_surveyOf` — what the paths of a survey of files register.
* `scan_surveyOf_eq_error_iff` — a scan fails with the first file that cannot be read.
-/

namespace AddonRegistry

namespace Scan

/-- The paths of a scan, without their spelling. -/
def meanings (scan : Scan) : List (List Component) :=
  scan.map fun entry => entry.1.components

lemma length_meanings (scan : Scan) : scan.meanings.length = scan.fileCount :=
  List.length_map _

/-- A path keeps its entry, and a new one comes last. -/
lemma meanings_insert (file : Path) (members : List Member) : ∀ scan : Scan,
    (scan.insert file members).meanings =
      if file.components ∈ scan.meanings then scan.meanings else scan.meanings ++ [file.components]
  | [] => rfl
  | (known, old) :: rest => by
      have ih := meanings_insert file members rest
      rw [insert]
      by_cases hsame : known.Same file
      · have hmem : file.components ∈ meanings ((known, old) :: rest) := by
          rw [← hsame]
          exact List.mem_cons_self
        rw [if_pos hsame, if_pos hmem]
        rfl
      · have hne : file.components ≠ known.components := fun he => hsame he.symm
        have hcons (scan : Scan) (m : List Member) :
            meanings ((known, m) :: scan) = known.components :: scan.meanings := rfl
        rw [if_neg hsame, hcons, hcons, ih]
        simp only [List.mem_cons, hne, false_or]
        split_ifs <;> rfl

lemma mem_meanings_insert {c : List Component} {file : Path} {members : List Member} {scan : Scan} :
    c ∈ (scan.insert file members).meanings ↔ c ∈ scan.meanings ∨ c = file.components := by
  rw [meanings_insert]
  split_ifs with h
  · exact ⟨.inl, fun hc => hc.elim id fun he => he ▸ h⟩
  · rw [List.mem_append, List.mem_singleton]

lemma nodup_meanings_insert {file : Path} {members : List Member} {scan : Scan}
    (h : scan.meanings.Nodup) : (scan.insert file members).meanings.Nodup := by
  rw [meanings_insert]
  split_ifs with hmem
  · exact h
  · exact h.append (List.nodup_singleton _) (List.disjoint_singleton.mpr hmem)

end Scan

namespace Survey

/-- That a path of a survey registers something. -/
def Registers (survey : Survey) (file : Path) : Prop :=
  ∃ m members, (file, .ok (m :: members)) ∈ survey

/-- Every path of a survey that comes to something is read. -/
lemma exists_ok_of_scanFrom {result : Scan} : ∀ {survey : Survey} {scan : Scan},
    scanFrom scan survey = .ok result → ∀ entry ∈ survey, ∃ members, entry.2 = .ok members
  | [], _, _ => nofun
  | (_, .error failure) :: _, _, h => by
      rw [scanFrom] at h
      cases h
  | (file, .ok []) :: rest, _, h => by
      rw [scanFrom] at h
      intro entry hm
      rcases List.mem_cons.mp hm with rfl | hm
      · exact ⟨[], rfl⟩
      · exact exists_ok_of_scanFrom h entry hm
  | (file, .ok (m :: members)) :: rest, _, h => by
      rw [scanFrom] at h
      · intro entry hm
        rcases List.mem_cons.mp hm with rfl | hm
        · exact ⟨m :: members, rfl⟩
        · exact exists_ok_of_scanFrom h entry hm
      · simp

lemma mem_meanings_scanFrom {result : Scan} {c : List Component} : ∀ {survey : Survey} {scan : Scan},
    scanFrom scan survey = .ok result →
      (c ∈ result.meanings ↔
        c ∈ scan.meanings ∨ ∃ file, Registers survey file ∧ file.components = c)
  | [], _, h => by
      rw [scanFrom] at h
      cases h
      exact ⟨.inl, fun h => h.elim id fun ⟨_, ⟨_, _, hm⟩, _⟩ => nomatch hm⟩
  | (_, .error failure) :: _, _, h => by
      rw [scanFrom] at h
      cases h
  | (first, .ok []) :: rest, _, h => by
      rw [scanFrom] at h
      have hskip (file : Path) : Registers ((first, .ok []) :: rest) file ↔ Registers rest file := by
        simp [Registers]
      simp only [hskip]
      exact mem_meanings_scanFrom h
  | (first, .ok (m :: members)) :: rest, _, h => by
      rw [scanFrom] at h
      · rw [mem_meanings_scanFrom h, Scan.mem_meanings_insert, or_assoc]
        refine or_congr_right ⟨?_, ?_⟩
        · rintro (rfl | ⟨file, ⟨n, others, hm⟩, rfl⟩)
          · exact ⟨first, ⟨m, members, List.mem_cons_self⟩, rfl⟩
          · exact ⟨file, ⟨n, others, List.mem_cons_of_mem _ hm⟩, rfl⟩
        · rintro ⟨file, ⟨n, others, hm⟩, rfl⟩
          rcases List.mem_cons.mp hm with he | hm
          · cases he
            exact .inl rfl
          · exact .inr ⟨file, ⟨n, others, hm⟩, rfl⟩
      · simp

lemma nodup_meanings_scanFrom {result : Scan} : ∀ {survey : Survey} {scan : Scan},
    scanFrom scan survey = .ok result → scan.meanings.Nodup → result.meanings.Nodup
  | [], _, h, hscan => by
      rw [scanFrom] at h
      cases h
      exact hscan
  | (_, .error failure) :: _, _, h, _ => by
      rw [scanFrom] at h
      cases h
  | (_, .ok []) :: rest, _, h, hscan => by
      rw [scanFrom] at h
      exact nodup_meanings_scanFrom h hscan
  | (_, .ok (_ :: _)) :: rest, _, h, hscan => by
      rw [scanFrom] at h
      · exact nodup_meanings_scanFrom h (Scan.nodup_meanings_insert hscan)
      · simp

variable {first second : Survey} {small large : Scan} {file : Path}

/-- **A survey in which more paths register something** comes to more files. -/
lemma fileCount_lt (hfirst : first.scan = .ok small) (hsecond : second.scan = .ok large)
    (hmono : ∀ other, first.Registers other → second.Registers other)
    (hfile : second.Registers file) (hnew : ∀ other, first.Registers other → ¬ other.Same file) :
    small.fileCount < large.fileCount := by
  have hsub : ∀ c ∈ file.components :: small.meanings, c ∈ large.meanings := by
    intro c hc
    refine (mem_meanings_scanFrom hsecond).mpr (.inr ?_)
    rcases List.mem_cons.mp hc with rfl | hc
    · exact ⟨file, hfile, rfl⟩
    · rcases (mem_meanings_scanFrom hfirst).mp hc with hc | ⟨other, ho, rfl⟩
      · cases hc
      · exact ⟨other, hmono other ho, rfl⟩
  have hout : file.components ∉ small.meanings := by
    intro hc
    rcases (mem_meanings_scanFrom hfirst).mp hc with hc | ⟨other, ho, he⟩
    · cases hc
    · exact hnew other ho he
  have hnodup : (file.components :: small.meanings).Nodup :=
    List.nodup_cons.mpr ⟨hout, nodup_meanings_scanFrom hfirst List.nodup_nil⟩
  have hle := (List.subperm_of_subset hnodup hsub).length_le
  rwa [List.length_cons, Scan.length_meanings, Scan.length_meanings] at hle

end Survey

/-! ## Surveys of files -/

variable {tree : FileTree} {files : List Path} {file : Path}

lemma registers_surveyOf :
    (surveyOf tree files).Registers file ↔
      file ∈ files ∧ ∃ m members, examine tree file = .ok (m :: members) := by
  constructor
  · rintro ⟨m, members, hm⟩
    obtain ⟨known, hk, he⟩ := List.mem_map.mp hm
    obtain ⟨rfl, hmembers⟩ := Prod.mk.inj he
    exact ⟨hk, m, members, hmembers⟩
  · rintro ⟨hf, m, members, he⟩
    exact ⟨m, members, List.mem_map.mpr ⟨file, hf, Prod.ext rfl he⟩⟩

lemma readText_of_examine {members : List Member} (h : examine tree file = .ok members) :
    ∃ text, tree.readText file = .ok text := by
  rw [examine] at h
  split at h
  · cases h
  · next text ht => exact ⟨text, ht⟩

/-- A scan fails with the first file that cannot be read. -/
lemma scanFrom_surveyOf_eq_error_iff {tree : FileTree} {failure : Failure} :
    ∀ {files : List Path} {scan : Scan},
      Survey.scanFrom scan (surveyOf tree files) = .error failure ↔
        ∃ before file after, files = before ++ file :: after ∧
          (∀ other ∈ before, ∃ members, examine tree other = .ok members) ∧
          examine tree file = .error failure
  | [], scan => by simp [surveyOf, Survey.scanFrom]
  | first :: rest, scan => by
      have ih := @scanFrom_surveyOf_eq_error_iff tree failure rest
      have hsurvey : surveyOf tree (first :: rest) =
          (first, examine tree first) :: surveyOf tree rest := rfl
      rw [hsurvey]
      cases hfirst : examine tree first with
      | error other =>
          rw [Survey.scanFrom]
          constructor
          · intro h
            cases h
            exact ⟨[], first, rest, rfl, by simp, hfirst⟩
          · rintro ⟨_ | ⟨known, before⟩, file, after, hfiles, hbefore, hfile⟩
            · cases hfiles
              rw [hfirst] at hfile
              cases hfile
              rfl
            · cases hfiles
              obtain ⟨members, hm⟩ := hbefore first List.mem_cons_self
              rw [hfirst] at hm
              cases hm
      | ok members =>
          have hrest : (∃ before file after, first :: rest = before ++ file :: after ∧
              (∀ other ∈ before, ∃ members, examine tree other = .ok members) ∧
              examine tree file = .error failure) ↔
              ∃ before file after, rest = before ++ file :: after ∧
                (∀ other ∈ before, ∃ members, examine tree other = .ok members) ∧
                examine tree file = .error failure := by
            constructor
            · rintro ⟨_ | ⟨known, before⟩, file, after, hfiles, hbefore, hfile⟩
              · cases hfiles
                rw [hfirst] at hfile
                cases hfile
              · cases hfiles
                exact ⟨before, file, after, rfl,
                  fun other ho => hbefore other (List.mem_cons_of_mem _ ho), hfile⟩
            · rintro ⟨before, file, after, rfl, hbefore, hfile⟩
              refine ⟨first :: before, file, after, rfl, fun other ho => ?_, hfile⟩
              rcases List.mem_cons.mp ho with rfl | ho
              · exact ⟨members, hfirst⟩
              · exact hbefore other ho
          rw [hrest]
          cases members with
          | nil =>
              rw [Survey.scanFrom]
              exact ih
          | cons m members =>
              rw [Survey.scanFrom]
              · exact ih
              · simp

lemma scan_surveyOf_eq_error_iff {tree : FileTree} {failure : Failure} {files : List Path} :
    (surveyOf tree files).scan = .error failure ↔
      ∃ before file after, files = before ++ file :: after ∧
        (∀ other ∈ before, ∃ members, examine tree other = .ok members) ∧
        examine tree file = .error failure :=
  scanFrom_surveyOf_eq_error_iff

end AddonRegistry
