import AddonRegistry.Proofs.FileTree.Spellings
import AddonRegistry.Proofs.Firsts
import AddonRegistry.Proofs.Paths.Joins
import AddonRegistry.Proofs.Survey

/-!
# What a scan holds

A file registers the same names however its path is spelled: spellings lead to one place, and the one
thing that the spelling itself decides, whether the file is one with markup, is read off the last name,
which is that of the place.  So a path that is met again changes nothing, and a scan holds the first
occurrence of each path that registers something.

* **`toOption_examine_eq_of_locate`** — all paths to a file register the same names.
* `examine_eq_of_same` — two spellings of one path register the same names.
* `Survey.entries` — the paths of a survey that register something, as often as they occur.
* **`scan_surveyOf_eq_ok_iff`** — a scan of files that can all be read holds their first occurrences.
* `mem_imports_ofScan` — the import lines of a scan, in no order.
-/

namespace AddonRegistry

/-! ## Spellings of a file -/

namespace FileTree

variable {tree : FileTree} {p q : Path} {place : List String} {content : ByteArray}

/-- The last step to a file goes into a folder: a dot or a pair of dots would end at one. -/
lemma exists_into_of_walk {steps : List Step} {step : Step} {start : List String}
    (hw : tree.walk start (steps ++ [step]) = .ok place)
    (hf : tree.root.get? place = some (.file content)) : ∃ name, step = .into name := by
  obtain ⟨between, -, hlast⟩ := (walk_append _ _ _).mp hw
  obtain ⟨hfolder, -, hplace⟩ := walk_cons_eq_ok.mp hlast
  rw [walk_nil, Except.ok.injEq] at hplace
  cases step with
  | into name => exact ⟨name, rfl⟩
  | stay =>
      obtain ⟨entries, he⟩ := hfolder
      rw [← hplace, Step.apply, he] at hf
      cases hf
  | up =>
      have habove : tree.FolderAt place := by
        rw [← hplace, Step.apply]
        rcases List.eq_nil_or_concat between with rfl | ⟨front, name, rfl⟩
        · exact hfolder
        · rw [List.concat_eq_append, List.dropLast_concat]
          rw [List.concat_eq_append] at hfolder
          exact hfolder.above
      obtain ⟨entries, he⟩ := habove
      rw [he] at hf
      cases hf

/-- A path to a file ends in the name of the file. -/
lemma exists_last_stretch (hl : tree.locate p = .ok place)
    (hf : tree.root.get? place = some (.file content)) :
    ∃ front last, Path.splitAtSlashes p.text.toList = front ++ [last] ∧
      place.getLast? = some (String.ofList last) := by
  obtain ⟨hslash, hfollow⟩ := locate_file hl hf
  obtain ⟨hspelling, hwalk⟩ := follow_eq_ok.mp hfollow
  have hne : p.text ≠ "" := by
    intro h
    simp [spellingFault?, h] at hspelling
  obtain ⟨front, last, hs, hlast⟩ := Path.exists_splitAtSlashes_concat hne hslash
  refine ⟨front, last, hs, ?_⟩
  obtain ⟨step, hstep⟩ := Option.isSome_iff_exists.mp (Path.isSome_stepOf?_iff.mpr hlast)
  rw [Path.steps, hs, List.filterMap_append, List.filterMap_cons_some hstep, List.filterMap_nil]
    at hwalk
  obtain ⟨name, rfl⟩ := exists_into_of_walk hwalk hf
  have hname : name = String.ofList last := by
    rw [Path.stepOf?, if_neg hlast] at hstep
    split_ifs at hstep
    · cases hstep
    · cases hstep
    · exact Step.into.inj (Option.some.inj hstep).symm
  rw [walk_eq_foldl hwalk, List.foldl_append, hname]
  exact List.getLast?_concat

end FileTree

/-- Whether a file is one with markup is read off the last stretch of its path. -/
lemma hasMarkup_of_splitAtSlashes {p : Path} {front : List (List Char)} {last : List Char}
    (hs : Path.splitAtSlashes p.text.toList = front ++ [last]) :
    hasMarkup p.text = ".tsx".toList.isSuffixOf last := by
  have htext := Path.joinWithSlashes_splitAtSlashes p.text.toList
  rw [hs] at htext
  rw [hasMarkup, ← htext]
  cases front with
  | nil => rfl
  | cons stretch rest =>
      rw [Path.joinWithSlashes_append (List.cons_ne_nil stretch rest) (List.cons_ne_nil _ _)]
      generalize Path.joinWithSlashes (stretch :: rest) = folder
      have hlast : Path.joinWithSlashes [last] = last := rfl
      rw [hlast, Bool.eq_iff_iff, List.isSuffixOf_iff_suffix, List.isSuffixOf_iff_suffix]
      refine ⟨fun h => ?_, fun h => h.trans ⟨folder ++ ['/'], by simp⟩⟩
      -- there is no slash in the ending that could be the one in front of the last stretch
      have hnone : '/' ∉ ".tsx".toList := by decide
      have hslash : '/' :: last <:+ folder ++ '/' :: last := ⟨folder, rfl⟩
      rcases List.suffix_or_suffix_of_suffix h hslash with h | h
      · rcases List.suffix_cons_iff.mp h with he | h
        · exact absurd (he ▸ List.mem_cons_self) hnone
        · exact h
      · exact absurd (h.subset List.mem_cons_self) hnone

section

variable {tree : FileTree} {p q : Path} {place : List String} {content : ByteArray}
  {members others : List Member}

/-- Whether a file is one with markup is told by its place. -/
lemma hasMarkup_eq_of_locate (hp : tree.locate p = .ok place) (hq : tree.locate q = .ok place)
    (hf : tree.root.get? place = some (.file content)) : hasMarkup p.text = hasMarkup q.text := by
  obtain ⟨front, last, hs, hlast⟩ := FileTree.exists_last_stretch hp hf
  obtain ⟨front', last', hs', hlast'⟩ := FileTree.exists_last_stretch hq hf
  have hname : last = last' := String.ofList_injective (Option.some.inj (hlast.symm.trans hlast'))
  rw [hasMarkup_of_splitAtSlashes hs, hasMarkup_of_splitAtSlashes hs', hname]

/-- **A file registers the same names** under all paths that lead to it. -/
lemma toOption_examine_eq_of_locate (hp : tree.locate p = .ok place) (hq : tree.locate q = .ok place)
    (hf : tree.root.get? place = some (.file content)) :
    (examine tree p).toOption = (examine tree q).toOption := by
  have hread : tree.readText p = tree.readText q := FileTree.readText_eq_of_samePlace ⟨place, hp, hq⟩
  have hmembers : ∀ code, membersOf code p.text = membersOf code q.text := by
    intro code
    rw [membersOf, membersOf, hasMarkup_eq_of_locate hp hq hf]
  rw [examine, examine, hread]
  cases tree.readText q with
  | error fault => rfl
  | ok code =>
      dsimp only
      rw [hmembers code]
      cases membersOf code q.text <;> rfl

/-- **Two spellings of one path** register the same names. -/
lemma examine_eq_of_same (hsame : p.Same q) (hp : examine tree p = .ok members)
    (hq : examine tree q = .ok others) : members = others := by
  obtain ⟨text, htext⟩ := readText_of_examine hp
  obtain ⟨text', htext'⟩ := readText_of_examine hq
  have hbytes := FileTree.readText_eq_ok.mp htext
  have hlocate := FileTree.locate_eq_of_same hsame hbytes (FileTree.readText_eq_ok.mp htext')
  obtain ⟨place, hl, hf⟩ := FileTree.readBytes_eq_ok.mp hbytes
  have hexamine := toOption_examine_eq_of_locate hl (hlocate ▸ hl) hf
  rw [hp, hq] at hexamine
  exact Option.some.inj hexamine

end

/-! ## The files that register something -/

/-- What tells the entries of a scan apart. -/
def Scan.meaning (entry : Path × List Member) : List Component := entry.1.components

/-- The entry of a file in a scan, if it can be read and registers something. -/
def entryOf? (entry : Path × Except Failure (List Member)) : Option (Path × List Member) :=
  match entry.2 with
  | .ok (m :: members) => some (entry.1, m :: members)
  | _ => none

namespace Survey

/-- The paths of a survey that register something, as often as they occur. -/
def entries (survey : Survey) : Scan := survey.filterMap entryOf?

/-- That paths of a survey that mean the same register the same names. -/
def Consistent (survey : Survey) : Prop :=
  ∀ entry ∈ survey, ∀ other ∈ survey, entry.1.Same other.1 →
    ∀ members others, entry.2 = .ok members → other.2 = .ok others → members = others

end Survey

namespace Scan

variable {file : Path} {members : List Member}

/-- A path that is in a scan already, with the same names, changes nothing. -/
lemma insert_of_exists {scan : Scan} (hsame : ∀ entry ∈ scan, entry.1.Same file → entry.2 = members)
    (h : ∃ entry ∈ scan, entry.1.Same file) : scan.insert file members = scan := by
  induction scan with
  | nil => simp at h
  | cons known rest ih =>
      rw [insert]
      split_ifs with hknown
      · rw [← hsame known List.mem_cons_self hknown]
      · obtain ⟨entry, he, hfile⟩ := h
        have hrest : entry ∈ rest :=
          List.mem_of_ne_of_mem (fun heq : entry = known => hknown (heq ▸ hfile)) he
        rw [ih (fun other ho => hsame other (List.mem_cons_of_mem known ho)) ⟨entry, hrest, hfile⟩]

/-- A new path comes last. -/
lemma insert_of_forall {scan : Scan} (h : ∀ entry ∈ scan, ¬ entry.1.Same file) :
    scan.insert file members = scan ++ [(file, members)] := by
  induction scan with
  | nil => rfl
  | cons known rest ih =>
      rw [List.forall_mem_cons] at h
      rw [insert, if_neg h.1, ih h.2]
      rfl

lemma insert_eq_firsts {scan : Scan} (hfirsts : firsts meaning scan = scan)
    (hsame : ∀ entry ∈ scan, entry.1.Same file → entry.2 = members) :
    scan.insert file members = firsts meaning (scan ++ [(file, members)]) := by
  by_cases hmem : meaning (file, members) ∈ scan.map meaning
  · obtain ⟨entry, he, hfile⟩ := List.mem_map.mp hmem
    rw [insert_of_exists hsame ⟨entry, he, hfile⟩, firsts_concat_of_mem hmem, hfirsts]
  · have hall : ∀ entry ∈ scan, ¬ entry.1.Same file := fun entry he hfile =>
      hmem (List.mem_map.mpr ⟨entry, he, hfile⟩)
    rw [insert_of_forall hall, firsts_concat_of_notMem hmem, hfirsts]

end Scan

namespace Survey

/-- **A scan** holds the first occurrences of the paths that register something. -/
lemma scanFrom_eq_ok : ∀ {survey : Survey} {scan : Scan}, firsts Scan.meaning scan = scan →
    (∀ entry ∈ survey, ∃ members, entry.2 = .ok members) → survey.Consistent →
    (∀ entry ∈ scan, ∀ other ∈ survey, entry.1.Same other.1 → other.2 = .ok entry.2) →
      scanFrom scan survey = .ok (firsts Scan.meaning (scan ++ survey.entries))
  | [], scan, hfirsts, _, _, _ => by
      rw [scanFrom, entries, List.filterMap_nil, List.append_nil, hfirsts]
  | (file, result) :: rest, scan, hfirsts, hread, hconsistent, hscan => by
      obtain ⟨members, rfl⟩ : ∃ members, result = .ok members := hread _ List.mem_cons_self
      have hread' := fun entry he => hread entry (List.mem_cons_of_mem _ he)
      have hconsistent' : Consistent rest := fun entry he other ho =>
        hconsistent entry (List.mem_cons_of_mem _ he) other (List.mem_cons_of_mem _ ho)
      have hscan' := fun entry he other ho => hscan entry he other (List.mem_cons_of_mem _ ho)
      cases members with
      | nil =>
          rw [scanFrom, scanFrom_eq_ok hfirsts hread' hconsistent' hscan']
          rfl
      | cons m members =>
          have hsame : ∀ entry ∈ scan, entry.1.Same file → entry.2 = m :: members :=
            fun entry he hf => (Except.ok.inj (hscan entry he _ List.mem_cons_self hf)).symm
          -- the entries so far and the new one are those of which the rest of the survey is told
          have hnew : ∀ entry ∈ firsts Scan.meaning (scan ++ [(file, m :: members)]), ∀ other ∈ rest,
              entry.1.Same other.1 → other.2 = .ok entry.2 := by
            intro entry he other ho hother
            rcases List.mem_append.mp (mem_of_mem_firsts he) with he | he
            · exact hscan' entry he other ho hother
            · rw [List.mem_singleton.mp he] at hother ⊢
              obtain ⟨others, hothers⟩ := hread' other ho
              rw [hothers, hconsistent (file, .ok (m :: members)) List.mem_cons_self other
                (List.mem_cons_of_mem _ ho) hother _ _ rfl hothers]
          have hentries : entries ((file, .ok (m :: members)) :: rest) =
              (file, m :: members) :: entries rest := rfl
          rw [scanFrom, Scan.insert_eq_firsts hfirsts hsame,
            scanFrom_eq_ok (firsts_firsts _ _) hread' hconsistent' hnew, firsts_firsts_append, hentries,
            List.append_assoc]
          · rfl
          · simp

lemma scan_eq_ok {survey : Survey} (hread : ∀ entry ∈ survey, ∃ members, entry.2 = .ok members)
    (hconsistent : survey.Consistent) : survey.scan = .ok (firsts Scan.meaning survey.entries) :=
  scanFrom_eq_ok rfl hread hconsistent nofun

end Survey

/-! ## Scans of files -/

/-- What files that can be read register, as often as they are met. -/
def entriesOf (tree : FileTree) (files : List Path) : Scan := (surveyOf tree files).entries

section

variable {tree : FileTree} {files others : List Path} {file : Path} {scan : Scan}

lemma entriesOf_eq_filterMap (tree : FileTree) (files : List Path) :
    entriesOf tree files = files.filterMap fun file => entryOf? (file, examine tree file) := by
  rw [entriesOf, Survey.entries, surveyOf, List.filterMap_map]
  rfl

lemma entriesOf_append (tree : FileTree) (files others : List Path) :
    entriesOf tree (files ++ others) = entriesOf tree files ++ entriesOf tree others := by
  simp only [entriesOf_eq_filterMap, List.filterMap_append]

lemma mem_entriesOf {entry : Path × List Member} :
    entry ∈ entriesOf tree files ↔
      entry.1 ∈ files ∧ entry.2 ≠ [] ∧ examine tree entry.1 = .ok entry.2 := by
  obtain ⟨file, members⟩ := entry
  rw [entriesOf_eq_filterMap, List.mem_filterMap]
  constructor
  · rintro ⟨found, hf, he⟩
    rw [entryOf?] at he
    split at he
    · next m rest hm =>
        cases he
        exact ⟨hf, List.cons_ne_nil m rest, hm⟩
    · cases he
  · rintro ⟨hf, hne, he⟩
    obtain ⟨m, rest, rfl⟩ := List.exists_cons_of_ne_nil hne
    refine ⟨file, hf, ?_⟩
    rw [entryOf?, he]

lemma consistent_surveyOf (tree : FileTree) (files : List Path) : (surveyOf tree files).Consistent := by
  intro entry he other ho hsame members others hm hn
  obtain ⟨p, -, rfl⟩ := List.mem_map.mp he
  obtain ⟨q, -, rfl⟩ := List.mem_map.mp ho
  exact examine_eq_of_same hsame hm hn

/-- **A scan of files** that can all be read holds the first occurrences of those that register
something. -/
lemma scan_surveyOf_eq_ok_iff :
    (surveyOf tree files).scan = .ok scan ↔
      (∀ file ∈ files, ∃ members, examine tree file = .ok members) ∧
        scan = firsts Scan.meaning (entriesOf tree files) := by
  have hall : (∀ entry ∈ surveyOf tree files, ∃ members, entry.2 = .ok members) ↔
      ∀ file ∈ files, ∃ members, examine tree file = .ok members := by
    rw [surveyOf, List.forall_mem_map]
  rw [← hall]
  constructor
  · intro h
    have hread := Survey.exists_ok_of_scanFrom h
    rw [Survey.scan_eq_ok hread (consistent_surveyOf tree files)] at h
    exact ⟨hread, (Except.ok.inj h).symm⟩
  · rintro ⟨hread, rfl⟩
    exact Survey.scan_eq_ok hread (consistent_surveyOf tree files)

end

end AddonRegistry
