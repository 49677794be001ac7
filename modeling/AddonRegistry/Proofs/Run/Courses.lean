import AddonRegistry.Proofs.RegistryFile
import AddonRegistry.Proofs.Survey
import AddonRegistry.Run

/-!
# The courses of a run

A run reads everything first (`found`), and how it goes on depends on what it has found and on
whether it only compares.  There are four courses: something cannot be read (`Course.unread`), there
is no registry (`Course.absent`), the package has no name (`Course.unnamed`), or there is a registry and
the lines it should hold are known (`Course.present`).  Every statement about runs goes through these
four cases, and the lemmas on each of them say all that a run does there.

* `found_eq_ok`, `found_eq_error` — what is read before anything is done, and what can fail.
* `run_checking`, `run_writing` — the two ways to go on.
* `course` — one of the four courses is taken.
* `readText_of_created` — the course of a run that created the registry.
-/

namespace AddonRegistry

variable {options : Options} {tree : FileTree} {failure : Failure}

/-- The same project, only compared. -/
def Options.checking (options : Options) : Options := { options with check := true }

/-- The same project, with the registry written. -/
def Options.writing (options : Options) : Options := { options with check := false }

/-- What a run finds before it does anything. -/
def found (options : Options) (tree : FileTree) : Except Failure Findings :=
  findings options tree (survey options tree)

/-! ## What is read -/

lemma found_eq_ok {scan : Scan} {registry : RegistryState} :
    found options tree = .ok ⟨scan, registry⟩ ↔
      ∃ files, collect options tree = .ok files ∧ (surveyOf tree files).scan = .ok scan ∧
        readRegistry tree options.registryPath = .ok registry := by
  rw [found, findings, survey]
  cases collect options tree with
  | error failure => simp [Except.map, bind, Except.bind]
  | ok files =>
      simp only [Except.map, bind, Except.bind, pure, Except.pure]
      cases hs : (surveyOf tree files).scan with
      | error failure => simp [hs]
      | ok known =>
          cases hr : readRegistry tree options.registryPath with
          | error failure => simp
          | ok state => simp [hs]

lemma found_eq_error :
    found options tree = .error failure ↔ collect options tree = .error failure ∨
      ∃ files, collect options tree = .ok files ∧
        ((surveyOf tree files).scan = .error failure ∨
          ∃ scan, (surveyOf tree files).scan = .ok scan ∧
            readRegistry tree options.registryPath = .error failure) := by
  rw [found, findings, survey]
  cases collect options tree with
  | error first => simp [Except.map, bind, Except.bind]
  | ok files =>
      simp only [Except.map, bind, Except.bind, pure, Except.pure]
      cases hs : (surveyOf tree files).scan with
      | error first => simp [hs]
      | ok scan =>
          cases hr : readRegistry tree options.registryPath with
          | error first => simp [hs]
          | ok state => simp [hs]

lemma not_fromWriting_of_examine {file : Path} {failure : Failure}
    (h : examine tree file = .error failure) : ¬ failure.FromWriting := by
  rw [examine] at h
  split at h
  · cases h
    exact id
  · split at h <;> cases h
    exact id

lemma not_fromWriting_searchFailure : ∀ cause, ¬ (searchFailure cause).FromWriting
  | (_, .pattern _) => id
  | (_, .folder _ _) => id

/-- Nothing is written before everything has been read. -/
lemma not_fromWriting_of_found {failure : Failure} (h : found options tree = .error failure) :
    ¬ failure.FromWriting := by
  rcases found_eq_error.mp h with hcollect | ⟨files, -, hscan | ⟨scan, -, hregistry⟩⟩
  · rw [collect] at hcollect
    cases hmatching : Glob.filesMatching tree options.root options.patterns with
    | ok files =>
        rw [hmatching] at hcollect
        cases hcollect
    | error cause =>
        rw [hmatching] at hcollect
        cases hcollect
        exact not_fromWriting_searchFailure cause
  · obtain ⟨before, file, after, -, -, hfile⟩ := scan_surveyOf_eq_error_iff.mp hscan
    exact not_fromWriting_of_examine hfile
  · exact not_fromWriting_of_readRegistry hregistry

lemma expectedBody_eq_ok {scan : Scan} {body : Body} :
    expectedBody options tree scan = .ok body ↔
      ∃ package, readPackageName tree options.root = .ok package ∧
        body = Body.ofScan scan options.root package := by
  rw [expectedBody]
  cases readPackageName tree options.root with
  | error failure => simp [bind, Except.bind]
  | ok package => simp [bind, Except.bind, pure, Except.pure, eq_comm]

lemma expectedBody_eq_error {scan : Scan} :
    expectedBody options tree scan = .error failure ↔
      readPackageName tree options.root = .error failure := by
  rw [expectedBody]
  cases readPackageName tree options.root with
  | error first => simp [bind, Except.bind]
  | ok package => simp [bind, Except.bind, pure, Except.pure]

lemma not_fromWriting_of_expectedBody {scan : Scan} {failure : Failure}
    (h : expectedBody options tree scan = .error failure) : ¬ failure.FromWriting :=
  not_fromWriting_of_readPackageName (expectedBody_eq_error.mp h)

/-! ## The two ways to go on -/

/-- A run that only compares answers from what it found, and leaves the tree as it is. -/
lemma run_checking (options : Options) (tree : FileTree) :
    (run options.checking tree).tree = tree ∧
      (run options.checking tree).result = found options tree >>= compare options tree := by
  change (conclude options.checking tree (found options tree)).1 = tree ∧
    (conclude options.checking tree (found options tree)).2 = _
  cases found options tree <;> exact ⟨rfl, rfl⟩

/-- A run that writes does so with what it found. -/
lemma run_writing (options : Options) (tree : FileTree) :
    ((run options.writing tree).tree, (run options.writing tree).result)
      = match found options tree with
        | .error failure => (tree, .error failure)
        | .ok found => update options tree found := by
  change conclude options.writing tree (found options tree) = _
  cases found options tree <;> rfl

/-! ## The four courses -/

/-- How a run can go. -/
inductive Course (options : Options) (tree : FileTree) : Prop where
  /-- Something cannot be read. -/
  | unread (failure : Failure) (hfound : found options tree = .error failure)
  /-- There is no registry. -/
  | absent (scan : Scan) (hfound : found options tree = .ok ⟨scan, .absent⟩)
  /-- There is a registry, but the package has no name. -/
  | unnamed (scan : Scan) (text : String) (failure : Failure)
      (hfound : found options tree = .ok ⟨scan, .present text⟩)
      (hbody : expectedBody options tree scan = .error failure)
  /-- There is a registry, and what it should hold is known. -/
  | present (scan : Scan) (text : String) (body : Body)
      (hfound : found options tree = .ok ⟨scan, .present text⟩)
      (hbody : expectedBody options tree scan = .ok body)

/-- **One of the four courses is taken.** -/
theorem course (options : Options) (tree : FileTree) : Course options tree := by
  rcases hfound : found options tree with failure | ⟨scan, _ | text⟩
  · exact .unread failure hfound
  · exact .absent scan hfound
  · rcases hbody : expectedBody options tree scan with failure | body
    · exact .unnamed scan text failure hfound hbody
    · exact .present scan text body hfound hbody

section

variable {scan : Scan} {text : String} {body : Body} {failure : Failure}

lemma checking_unread (hfound : found options tree = .error failure) :
    (run options.checking tree).result = .error failure := by
  rw [(run_checking options tree).2, hfound]
  rfl

lemma writing_unread (hfound : found options tree = .error failure) :
    (run options.writing tree).tree = tree ∧
      (run options.writing tree).result = .error failure := by
  have h := run_writing options tree
  rw [hfound] at h
  exact Prod.mk.inj h

lemma checking_absent (hfound : found options tree = .ok ⟨scan, .absent⟩) :
    (run options.checking tree).result = .ok (.outOfSync true) := by
  rw [(run_checking options tree).2, hfound]
  rfl

lemma writing_absent (hfound : found options tree = .ok ⟨scan, .absent⟩) :
    (run options.writing tree).tree = (writeRegistry tree options.registryPath stub).1 ∧
      (run options.writing tree).result
        = (writeRegistry tree options.registryPath stub).2.map fun _ => .created := by
  have h := run_writing options tree
  rw [hfound] at h
  exact Prod.mk.inj h

lemma checking_unnamed (hfound : found options tree = .ok ⟨scan, .present text⟩)
    (hbody : expectedBody options tree scan = .error failure) :
    (run options.checking tree).result = .error failure := by
  rw [(run_checking options tree).2, hfound]
  change compare options tree ⟨scan, .present text⟩ = _
  rw [compare]
  dsimp only
  rw [hbody]
  rfl

lemma writing_unnamed (hfound : found options tree = .ok ⟨scan, .present text⟩)
    (hbody : expectedBody options tree scan = .error failure) :
    (run options.writing tree).tree = tree ∧
      (run options.writing tree).result = .error failure := by
  have h := run_writing options tree
  rw [hfound] at h
  simp only [update, hbody] at h
  exact Prod.mk.inj h

lemma checking_present (hfound : found options tree = .ok ⟨scan, .present text⟩)
    (hbody : expectedBody options tree scan = .ok body) :
    (run options.checking tree).result
      = .ok (if text = render body then .inSync else .outOfSync false) := by
  rw [(run_checking options tree).2, hfound]
  change compare options tree ⟨scan, .present text⟩ = _
  rw [compare]
  dsimp only
  rw [hbody]
  rfl

/-- Where there is a registry, writing it does not fail. -/
lemma writing_present (hfound : found options tree = .ok ⟨scan, .present text⟩)
    (hbody : expectedBody options tree scan = .ok body) :
    ∃ place, tree.locate options.registryPath = .ok place ∧
      tree.root.get? place = some (.file text.toUTF8) ∧
      (run options.writing tree).tree = tree.put place (.file (render body).toUTF8) ∧
      (run options.writing tree).result = .ok (.updated body.memberCount scan.fileCount) := by
  obtain ⟨files, -, -, hr⟩ := found_eq_ok.mp hfound
  obtain ⟨place, hl, hg, hw⟩ := writeRegistry_of_readText (readRegistry_eq_present.mp hr)
  have h := run_writing options tree
  rw [hfound] at h
  simp only [update, hbody, hw] at h
  exact ⟨place, hl, hg, Prod.mk.inj h⟩

end

/-- A registry that was created is empty. -/
lemma readText_of_created (h : (run options.writing tree).result = .ok .created) :
    (run options.writing tree).tree.readText options.registryPath = .ok stub := by
  cases course options tree with
  | unread failure hfound =>
      rw [(writing_unread hfound).2] at h
      cases h
  | absent scan hfound =>
      obtain ⟨ht, hr⟩ := writing_absent hfound
      rw [ht]
      cases hw : (writeRegistry tree options.registryPath stub).2 with
      | error failure =>
          rw [h, hw] at hr
          cases hr
      | ok done => exact readText_writeRegistry (Prod.ext rfl hw)
  | unnamed scan text failure hfound hbody =>
      rw [(writing_unnamed hfound hbody).2] at h
      cases h
  | present scan text body hfound hbody =>
      obtain ⟨-, -, -, -, hr⟩ := writing_present hfound hbody
      rw [hr] at h
      cases h

end AddonRegistry
