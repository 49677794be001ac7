import AddonRegistry.CommandLine.Arguments
import AddonRegistry.Proofs.Run.Courses

/-!
# Comparing and writing

A run that only compares says what a run that writes would do to the same files.  The two go
different ways as soon as everything is read, so the statement is checked along each of the four
courses of a run; that a registry which could be read can also be written is what makes them meet.

* `Run.Updates`, `Run.KeepsRegistry`, `Run.TriesToCreate` — what a run that writes can do.
* **`checking_tells_writing`** — what each answer of a comparison says about the run that writes.
-/

namespace AddonRegistry

variable {options : Options} {tree : FileTree}

namespace Run

/-- The registry was written again. -/
def Updates (r : Run) : Prop := ∃ members files, r.result = .ok (.updated members files)

/-- The bytes of the registry are what they were in a tree. -/
def KeepsRegistry (r : Run) (options : Options) (tree : FileTree) : Prop :=
  r.tree.readBytes options.registryPath = tree.readBytes options.registryPath

/-- The run started to write an empty registry, and either did it or failed with that. -/
def TriesToCreate (r : Run) (options : Options) (tree : FileTree) : Prop :=
  r.result = .ok .created ∨ ∃ failure, r.result = .error failure ∧ failure.FromWriting ∧
    (writeRegistry tree options.registryPath stub).2 = .error failure

/-- The run failed while it was still reading. -/
def FailsBeforeWriting (r : Run) (tree : FileTree) (failure : Failure) : Prop :=
  r.result = .error failure ∧ ¬ failure.FromWriting ∧ r.tree = tree

lemma status_eq_zero {r : Run} :
    r.status = 0 ↔ ∃ outcome, r.result = .ok outcome ∧ outcome.succeeded = true := by
  rw [status]
  cases r.result with
  | error failure => simp
  | ok outcome => cases hs : outcome.succeeded <;> simp [Outcome.exitCode, hs]

end Run

/-! ## What each course says -/

section

variable {scan : Scan} {text : String} {body : Body} {failure : Failure}

/-- A run that fails before it writes does nothing else. -/
lemma failsBeforeWriting_iff (options : Options) {r : Run} (htree : r.tree = tree)
    (hr : r.result = .error failure) (hf : ¬ failure.FromWriting) :
    (∀ other, r.FailsBeforeWriting tree other ↔ other = failure) ∧ ¬ r.Updates ∧
      ¬ r.TriesToCreate options tree := by
  refine ⟨fun other => ⟨?_, ?_⟩, ?_, ?_⟩
  · rintro ⟨h, -, -⟩
    rw [hr] at h
    exact (Except.error.inj h).symm
  · rintro rfl
    exact ⟨hr, hf, htree⟩
  · rintro ⟨members, files, h⟩
    rw [hr] at h
    cases h
  · rintro (h | ⟨other, h, ho, -⟩)
    · rw [hr] at h
      cases h
    · rw [hr] at h
      cases h
      exact hf ho

/-- Without a registry, a run that writes tries to create one, and does nothing else. -/
lemma triesToCreate_of_absent (hfound : found options tree = .ok ⟨scan, .absent⟩) :
    (run options.writing tree).TriesToCreate options tree ∧ ¬ (run options.writing tree).Updates ∧
      ∀ failure, ¬ (run options.writing tree).FailsBeforeWriting tree failure := by
  obtain ⟨-, hr⟩ := writing_absent hfound
  cases hw : (writeRegistry tree options.registryPath stub).2 with
  | error failure =>
      have hf := fromWriting_of_writeRegistry hw
      rw [hw] at hr
      refine ⟨.inr ⟨failure, hr, hf, hw⟩, ?_, ?_⟩
      · rintro ⟨members, files, h⟩
        rw [hr] at h
        cases h
      · rintro other ⟨h, ho, -⟩
        rw [hr] at h
        cases h
        exact ho hf
  | ok done =>
      rw [hw] at hr
      refine ⟨.inl hr, ?_, ?_⟩
      · rintro ⟨members, files, h⟩
        rw [hr] at h
        cases h
      · rintro other ⟨h, -, -⟩
        rw [hr] at h
        cases h

/-- A registry that was created was not there before. -/
lemma not_keepsRegistry_of_created (hfound : found options tree = .ok ⟨scan, .absent⟩)
    (h : (run options.writing tree).result = .ok .created) :
    ¬ (run options.writing tree).KeepsRegistry options tree := by
  obtain ⟨files, -, -, habsent⟩ := found_eq_ok.mp hfound
  have hbefore := readRegistry_eq_absent.mp habsent
  have hafter := readText_of_created h
  intro hkeep
  rw [Run.KeepsRegistry] at hkeep
  rw [FileTree.readText, hkeep, ← FileTree.readText, hbefore] at hafter
  cases hafter

/-- The bytes of a registry are kept exactly if its text is what it should be. -/
lemma keepsRegistry_iff_of_present (hfound : found options tree = .ok ⟨scan, .present text⟩)
    (hbody : expectedBody options tree scan = .ok body) :
    (run options.writing tree).KeepsRegistry options tree ↔ text = render body := by
  obtain ⟨place, hl, hg, ht, -⟩ := writing_present hfound hbody
  have hbefore : tree.readBytes options.registryPath = .ok text.toUTF8 :=
    FileTree.readBytes_eq_ok.mpr ⟨place, hl, hg⟩
  have hafter : (run options.writing tree).tree.readBytes options.registryPath
      = .ok (render body).toUTF8 := by
    obtain ⟨other, hl', hg'⟩ :=
      FileTree.locate_writeBytes (FileTree.writeBytes_of_readBytes hl hg (render body).toUTF8)
    rw [ht]
    exact FileTree.readBytes_eq_ok.mpr ⟨other, hl', hg'⟩
  rw [Run.KeepsRegistry, hbefore, hafter, Except.ok.injEq, String.toUTF8_eq_toByteArray,
    String.toUTF8_eq_toByteArray, String.toByteArray_inj, eq_comm]

/-- Where there is a registry, a run that writes updates it, and does nothing else. -/
lemma updates_of_present (hfound : found options tree = .ok ⟨scan, .present text⟩)
    (hbody : expectedBody options tree scan = .ok body) :
    (run options.writing tree).Updates ∧ ¬ (run options.writing tree).TriesToCreate options tree ∧
      ∀ failure, ¬ (run options.writing tree).FailsBeforeWriting tree failure := by
  obtain ⟨place, -, -, -, hr⟩ := writing_present hfound hbody
  refine ⟨⟨_, _, hr⟩, ?_, ?_⟩
  · rintro (h | ⟨failure, h, -, -⟩)
    · rw [hr] at h
      cases h
    · rw [hr] at h
      cases h
  · rintro failure ⟨h, -, -⟩
    rw [hr] at h
    cases h

end

/-! ## The two modes -/

/-- The status of a comparison. -/
lemma status_checking_eq_zero (options : Options) (tree : FileTree) :
    (run options.checking tree).status = 0 ↔
      (∃ outcome, (run options.writing tree).result = .ok outcome) ∧
        (run options.writing tree).KeepsRegistry options tree := by
  rw [Run.status_eq_zero]
  cases course options tree with
  | unread failure hfound => simp [checking_unread hfound, (writing_unread hfound).2]
  | absent scan hfound =>
      have hno : ¬ ((∃ outcome, (run options.writing tree).result = .ok outcome) ∧
          (run options.writing tree).KeepsRegistry options tree) := by
        rintro ⟨⟨outcome, ho⟩, hkeep⟩
        refine not_keepsRegistry_of_created hfound ?_ hkeep
        rw [(writing_absent hfound).2] at ho ⊢
        cases hw : (writeRegistry tree options.registryPath stub).2 with
        | error failure =>
            rw [hw] at ho
            cases ho
        | ok done => rfl
      simp [checking_absent hfound, Outcome.succeeded, hno]
  | unnamed scan text failure hfound hbody =>
      simp [checking_unnamed hfound hbody, (writing_unnamed hfound hbody).2]
  | present scan text body hfound hbody =>
      obtain ⟨place, -, -, -, hr⟩ := writing_present hfound hbody
      rw [keepsRegistry_iff_of_present hfound hbody, checking_present hfound hbody, hr]
      split_ifs with h <;> simp [Outcome.succeeded, h]

/-- **A comparison says what writing would do.**  It leaves the files alone; it finds the registry in
sync exactly if writing would update it and keep its bytes, out of sync exactly if writing would
update it and change them, and missing exactly if writing would start to create it; and it fails
exactly if writing would fail before anything is written, and in the same way.  So on the command line
the status of a comparison is zero exactly if writing would succeed and leave the registry as it is. -/
theorem checking_tells_writing (options : Options) (tree : FileTree) :
    (run options.checking tree).tree = tree ∧
    ((run options.checking tree).result = .ok .inSync ↔
      (run options.writing tree).Updates ∧ (run options.writing tree).KeepsRegistry options tree) ∧
    ((run options.checking tree).result = .ok (.outOfSync false) ↔
      (run options.writing tree).Updates ∧
        ¬ (run options.writing tree).KeepsRegistry options tree) ∧
    ((run options.checking tree).result = .ok (.outOfSync true) ↔
      (run options.writing tree).TriesToCreate options tree) ∧
    (∀ failure, (run options.checking tree).result = .error failure ↔
      (run options.writing tree).FailsBeforeWriting tree failure) ∧
    ∀ (arguments : CommandLine.Arguments) (here : Path),
      ((run ({ arguments with check := true }.options here) tree).status = 0 ↔
        (∃ outcome,
          (run ({ arguments with check := false }.options here) tree).result = .ok outcome) ∧
        (run ({ arguments with check := false }.options here) tree).KeepsRegistry
          (arguments.options here) tree) := by
  have hstatus := fun (arguments : CommandLine.Arguments) (here : Path) =>
    status_checking_eq_zero (arguments.options here) tree
  refine ⟨(run_checking options tree).1, ?_⟩
  cases course options tree with
  | unread failure hfound =>
      obtain ⟨ht, hr⟩ := writing_unread hfound
      obtain ⟨hfail, hno, hnone⟩ := failsBeforeWriting_iff options ht hr
        (not_fromWriting_of_found hfound)
      rw [checking_unread hfound]
      exact ⟨by simp [hno], by simp [hno], by simp [hnone], by simp [hfail, eq_comm], hstatus⟩
  | absent scan hfound =>
      obtain ⟨htry, hno, hnone⟩ := triesToCreate_of_absent hfound
      rw [checking_absent hfound]
      exact ⟨by simp [hno], by simp [hno], by simp [htry], by simp [hnone], hstatus⟩
  | unnamed scan text failure hfound hbody =>
      obtain ⟨ht, hr⟩ := writing_unnamed hfound hbody
      obtain ⟨hfail, hno, hnone⟩ := failsBeforeWriting_iff options ht hr
        (not_fromWriting_of_expectedBody hbody)
      rw [checking_unnamed hfound hbody]
      exact ⟨by simp [hno], by simp [hno], by simp [hnone], by simp [hfail, eq_comm], hstatus⟩
  | present scan text body hfound hbody =>
      obtain ⟨hup, hno, hnone⟩ := updates_of_present hfound hbody
      have hkeep := keepsRegistry_iff_of_present hfound hbody
      rw [checking_present hfound hbody]
      by_cases h : text = render body
      · exact ⟨by simp [hup, hkeep, h], by simp [hkeep, h], by simp [hno, h], by simp [hnone],
          hstatus⟩
      · exact ⟨by simp [hkeep, h], by simp [hup, hkeep, h], by simp [hno, h], by simp [hnone],
          hstatus⟩

end AddonRegistry
