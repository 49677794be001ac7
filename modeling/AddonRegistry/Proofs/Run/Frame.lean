import AddonRegistry.Proofs.Run.Courses

/-!
# What a run can change

A run changes one file at most.  Everything that it reads comes before its first effect: a run that
cannot read something, whatever it is, fails with that and leaves the files as they are.  A run that
ends well has written one of two texts at the place of its registry, and nothing else changed but
folders on the way there that were missing.

* `FailsReading` — the ways in which a run can fail before its first effect.
* `Writes` — what a run that ends well writes.
* `unread_or_unnamed` — a run that fails while reading takes one of two courses.
* **`run_changes_only_registry`** — what is left by a comparison, a run that fails, and one that writes.
-/

namespace AddonRegistry

variable {options : Options} {tree : FileTree} {failure : Failure} {outcome : Outcome} {text : String}

/-- That a run fails before its first effect: while it looks for the files, reads one of them or reads
its members off it, reads the registry, or reads the manifest. -/
inductive FailsReading (options : Options) (tree : FileTree) (failure : Failure) : Prop where
  | collecting (hcollect : collect options tree = .error failure)
  /-- The first file that fails is what the run fails with. -/
  | source (before after : List Path) (file : Path)
      (hcollect : collect options tree = .ok (before ++ file :: after))
      (hbefore : ∀ other ∈ before, ∃ members, examine tree other = .ok members)
      (hfile : examine tree file = .error failure)
  | registry (files : List Path) (scan : Scan) (hcollect : collect options tree = .ok files)
      (hscan : (surveyOf tree files).scan = .ok scan)
      (hregistry : readRegistry tree options.registryPath = .error failure)
  | manifest (files : List Path) (scan : Scan) (text : String)
      (hcollect : collect options tree = .ok files)
      (hscan : (surveyOf tree files).scan = .ok scan)
      (hregistry : readRegistry tree options.registryPath = .ok (.present text))
      (hname : readPackageName tree options.root = .error failure)

/-- What a run that ends well writes: an empty registry, or the registry with the lines for what was
found in the files of the project. -/
inductive Writes (options : Options) (tree : FileTree) : Outcome → String → Prop where
  | created : Writes options tree .created stub
  | updated (files : List Path) (scan : Scan) (package : String)
      (hcollect : collect options tree = .ok files)
      (hscan : (surveyOf tree files).scan = .ok scan)
      (hname : readPackageName tree options.root = .ok package) :
      Writes options tree
        (.updated (Body.ofScan scan options.root package).memberCount scan.fileCount)
        (render (Body.ofScan scan options.root package))

/-! ## Failures -/

/-- **A failure while reading** is one of two courses of a run. -/
lemma unread_or_unnamed :
    FailsReading options tree failure ↔ found options tree = .error failure ∨
      ∃ scan text, found options tree = .ok ⟨scan, .present text⟩ ∧
        expectedBody options tree scan = .error failure := by
  simp only [found_eq_error, found_eq_ok, expectedBody_eq_error]
  constructor
  · intro h
    cases h with
    | collecting hcollect => exact .inl (.inl hcollect)
    | source before after file hcollect hbefore hfile =>
        have hscan := scan_surveyOf_eq_error_iff.mpr ⟨before, file, after, rfl, hbefore, hfile⟩
        exact .inl (.inr ⟨_, hcollect, .inl hscan⟩)
    | registry files scan hcollect hscan hregistry =>
        exact .inl (.inr ⟨files, hcollect, .inr ⟨scan, hscan, hregistry⟩⟩)
    | manifest files scan text hcollect hscan hregistry hname =>
        exact .inr ⟨scan, text, ⟨files, hcollect, hscan, hregistry⟩, hname⟩
  · rintro ((hcollect | ⟨files, hcollect, hscan | ⟨scan, hscan, hregistry⟩⟩) |
      ⟨scan, text, ⟨files, hcollect, hscan, hregistry⟩, hname⟩)
    · exact .collecting hcollect
    · obtain ⟨before, file, after, rfl, hbefore, hfile⟩ := scan_surveyOf_eq_error_iff.mp hscan
      exact .source before after file hcollect hbefore hfile
    · exact .registry files scan hcollect hscan hregistry
    · exact .manifest files scan text hcollect hscan hregistry hname

/-- A run that fails while reading has done nothing. -/
lemma writing_of_failsReading (h : FailsReading options tree failure) :
    (run options.writing tree).result = .error failure ∧ (run options.writing tree).tree = tree := by
  rcases unread_or_unnamed.mp h with hfound | ⟨scan, text, hfound, hbody⟩
  · exact (writing_unread hfound).symm
  · exact (writing_unnamed hfound hbody).symm

/-! ## Every run -/

/-- How a run that writes can end, and what it leaves: it fails while reading, it fails while writing an
empty registry, or it has written what it should. -/
inductive Ending (options : Options) (tree : FileTree) : Prop where
  | unread (failure : Failure) (hfails : FailsReading options tree failure)
      (hresult : (run options.writing tree).result = .error failure)
      (htree : (run options.writing tree).tree = tree)
  | unwritten (failure : Failure) (hwriting : failure.FromWriting)
      (habsent : readRegistry tree options.registryPath = .ok .absent)
      (hresult : (run options.writing tree).result = .error failure)
      (hwrite : writeRegistry tree options.registryPath stub =
        ((run options.writing tree).tree, .error failure))
  | written (state : RegistryState) (outcome : Outcome) (text : String)
      (hwrites : Writes options tree outcome text)
      (hstate : readRegistry tree options.registryPath = .ok state)
      (hcreated : state = .absent ↔ outcome = .created)
      (hresult : (run options.writing tree).result = .ok outcome)
      (hwrite : writeRegistry tree options.registryPath text =
        ((run options.writing tree).tree, .ok ()))

/-- **A run that writes ends in one of three ways.** -/
theorem ending (options : Options) (tree : FileTree) : Ending options tree := by
  cases course options tree with
  | unread failure hfound =>
      obtain ⟨htree, hresult⟩ := writing_unread hfound
      exact .unread failure (unread_or_unnamed.mpr (.inl hfound)) hresult htree
  | unnamed scan text failure hfound hbody =>
      obtain ⟨htree, hresult⟩ := writing_unnamed hfound hbody
      exact .unread failure (unread_or_unnamed.mpr (.inr ⟨scan, text, hfound, hbody⟩)) hresult htree
  | absent scan hfound =>
      obtain ⟨htree, hresult⟩ := writing_absent hfound
      obtain ⟨-, -, -, habsent⟩ := found_eq_ok.mp hfound
      cases hw : (writeRegistry tree options.registryPath stub).2 with
      | error failure =>
          rw [hw] at hresult
          exact .unwritten failure (fromWriting_of_writeRegistry hw) habsent hresult
            (Prod.ext htree.symm hw)
      | ok done =>
          rw [hw] at hresult
          exact .written .absent .created stub .created habsent (by simp) hresult
            (Prod.ext htree.symm hw)
  | present scan text body hfound hbody =>
      obtain ⟨files, hcollect, hscan, hpresent⟩ := found_eq_ok.mp hfound
      obtain ⟨package, hname, rfl⟩ := expectedBody_eq_ok.mp hbody
      obtain ⟨place, hl, -, htree, hresult⟩ := writing_present hfound hbody
      obtain ⟨other, hl', -, hwrite⟩ := writeRegistry_of_readText (readRegistry_eq_present.mp hpresent)
      cases hl.symm.trans hl'
      refine .written (.present text) _ _ (.updated files scan package hcollect hscan hname) hpresent
        (by simp) hresult ?_
      rw [hwrite, htree]

/-- **A run changes one file at most.**  A comparison changes nothing, and neither does a run that cannot
read something: it fails with that, and a run fails in no other way but for writing.  A run that ends
well leaves a text at the place of the registry, which is empty or holds the lines for what the run
found; every other file has the bytes that it had, nothing is gone, and new folders are such as the
path of the registry goes through and were missing. -/
theorem run_changes_only_registry (options : Options) (tree : FileTree) :
    (run options.checking tree).tree = tree ∧
    (∀ failure, FailsReading options tree failure →
      (run options.writing tree).result = .error failure ∧ (run options.writing tree).tree = tree) ∧
    (∀ failure, (run options.writing tree).result = .error failure →
      FailsReading options tree failure ∨ failure.FromWriting) ∧
    (∀ outcome, (run options.writing tree).result = .ok outcome →
      ∃ text place, Writes options tree outcome text ∧
        Replaced options.registryPath text place tree (run options.writing tree).tree ∧
        readRegistry (run options.writing tree).tree options.registryPath = .ok (.present text)) := by
  refine ⟨(run_checking options tree).1, fun failure h => writing_of_failsReading h, ?_, ?_⟩
  · intro failure h
    cases ending options tree with
    | unread other hfails hresult htree =>
        cases hresult.symm.trans h
        exact .inl hfails
    | unwritten other hwriting habsent hresult hwrite =>
        cases hresult.symm.trans h
        exact .inr hwriting
    | written state outcome text hwrites hstate hcreated hresult hwrite =>
        cases hresult.symm.trans h
  · intro outcome h
    cases ending options tree with
    | unread other hfails hresult htree => cases hresult.symm.trans h
    | unwritten other hwriting habsent hresult hwrite => cases hresult.symm.trans h
    | written state other text hwrites hstate hcreated hresult hwrite =>
        cases hresult.symm.trans h
        obtain ⟨place, hreplaced⟩ := replaced_writeRegistry hwrite
        have hread := readRegistry_eq_present.mpr (readText_writeRegistry hwrite)
        exact ⟨text, place, hwrites, hreplaced, hread⟩

end AddonRegistry
