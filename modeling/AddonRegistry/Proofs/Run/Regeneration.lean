import AddonRegistry.Proofs.Run.FixedPoint

/-!
# What a registry held before

Two projects that differ in the text of their registry only are the same to a run, as long as the
registry is read as nothing else: all that a run takes from the old text is that there is one.  So it
ends in the same way on both, and what it writes makes them one and the same.

* `DifferInText` — that two trees differ at most in the text of one file.
* `found_error_of_differInText`, `found_of_differInText` — what a run finds in the other tree.
* **`regeneration_ignores_old_text`** — two runs that find different registries.
-/

namespace AddonRegistry

/-- That two trees differ at most in the text of the file that a path leads to: they are the same as
soon as the same is put in its place. -/
def DifferInText (p : Path) (tree other : FileTree) : Prop :=
  ∃ place first second, tree.locate p = .ok place ∧
    tree.root.get? place = some (.file (String.toUTF8 first)) ∧
    other.root.get? place = some (.file (String.toUTF8 second)) ∧
    ∀ node, other.put place node = tree.put place node

variable {options : Options} {tree other : FileTree} {place : List String} {old : ByteArray}
  {text : String} {scan : Scan} {registry : RegistryState} {failure : Failure}

/-- The other tree is the first one with another text put in. -/
lemma eq_put_of_put_eq {node : Node} (hother : other.root.get? place = some node)
    (hput : ∀ node, other.put place node = tree.put place node) :
    other = tree.put place node := by
  rw [← hput node, FileTree.put, Node.put_of_get? hother]

section

variable (hl : tree.locate options.registryPath = .ok place)
  (hg : tree.root.get? place = some (.file old))
  (hsources : ∀ files, collect options tree = .ok files → ∀ file ∈ files,
    ¬ tree.SamePlace options.registryPath file)

include hl hg hsources

/-- The files of the project register what they did. -/
lemma surveyOf_put_of_sources {files : List Path} (hcollect : collect options tree = .ok files) :
    surveyOf (tree.put place (.file text.toUTF8)) files = surveyOf tree files := by
  refine surveyOf_put_of_ne hg _ fun file hm he => ?_
  exact hsources files hcollect file hm ⟨place, hl, he⟩

/-- What cannot be read in one tree cannot be read in the other. -/
lemma found_error_of_differInText (text : String)
    (hpresent : readRegistry tree options.registryPath = .ok registry)
    (hfound : found options tree = .error failure) :
    found options (tree.put place (.file text.toUTF8)) = .error failure := by
  rw [found_eq_error] at hfound ⊢
  rw [collect_put_file hg]
  rcases hfound with hcollect | ⟨files, hcollect, hscan | ⟨scan, -, hregistry⟩⟩
  · exact .inl hcollect
  · refine .inr ⟨files, hcollect, .inl ?_⟩
    rw [surveyOf_put_of_sources hl hg hsources hcollect]
    exact hscan
  · cases hpresent.symm.trans hregistry

/-- What is found in one tree is found in the other, but for the text of the registry. -/
lemma found_of_differInText (text : String)
    (hfound : found options tree = .ok ⟨scan, registry⟩) :
    found options (tree.put place (.file text.toUTF8)) = .ok ⟨scan, .present text⟩ :=
  found_put_registry hfound hl hg text fun _ hcollect =>
    surveyOf_put_of_sources hl hg hsources hcollect

end

/-- The package has the same name in both trees. -/
lemma expectedBody_put_of_manifest (hl : tree.locate options.registryPath = .ok place)
    (hg : tree.root.get? place = some (.file old))
    (hmanifest : ¬ tree.SamePlace options.registryPath (options.root.join ⟨manifestFile⟩)) :
    expectedBody options (tree.put place (.file text.toUTF8)) scan =
      expectedBody options tree scan := by
  have hne : tree.locate (options.root.join ⟨manifestFile⟩) ≠ .ok place :=
    fun he => hmanifest ⟨place, hl, he⟩
  rw [expectedBody, expectedBody, readPackageName_put_of_ne hg _ hne]

/-- **What a registry held before is of no account.**  If the registry is neither the manifest nor one
of the files that the patterns ask for, then runs on two trees that differ in its text end in the same
way, and if they update it, they leave the same tree. -/
theorem regeneration_ignores_old_text (hdiffer : DifferInText options.registryPath tree other)
    (hmanifest : ¬ tree.SamePlace options.registryPath (options.root.join ⟨manifestFile⟩))
    (hsources : ∀ files, collect options tree = .ok files → ∀ file ∈ files,
      ¬ tree.SamePlace options.registryPath file) :
    (run options.writing other).result = (run options.writing tree).result ∧
      ∀ members files, (run options.writing tree).result = .ok (.updated members files) →
        (run options.writing other).tree = (run options.writing tree).tree := by
  obtain ⟨place, first, second, hl, hg, hother, hput⟩ := hdiffer
  obtain rfl := eq_put_of_put_eq hother hput
  have hpresent : readRegistry tree options.registryPath = .ok (.present first) :=
    readRegistry_eq_present.mpr (FileTree.readText_eq_ok.mpr
      (FileTree.readBytes_eq_ok.mpr ⟨place, hl, hg⟩))
  have hl' : (tree.put place (.file second.toUTF8)).locate options.registryPath = .ok place := by
    rw [FileTree.locate_put_file hg, hl]
  cases course options tree with
  | unread failure hfound =>
      have hfound' := found_error_of_differInText hl hg hsources second hpresent hfound
      rw [(writing_unread hfound).2, (writing_unread hfound').2]
      simp
  | absent scan hfound =>
      obtain ⟨-, -, -, habsent⟩ := found_eq_ok.mp hfound
      cases hpresent.symm.trans habsent
  | unnamed scan text failure hfound hbody =>
      have hfound' := found_of_differInText hl hg hsources second hfound
      have hbody' : expectedBody options (tree.put place (.file second.toUTF8)) scan =
          .error failure := by
        rw [expectedBody_put_of_manifest hl hg hmanifest, hbody]
      rw [(writing_unnamed hfound hbody).2, (writing_unnamed hfound' hbody').2]
      simp
  | present scan text body hfound hbody =>
      have hfound' := found_of_differInText hl hg hsources second hfound
      have hbody' : expectedBody options (tree.put place (.file second.toUTF8)) scan = .ok body := by
        rw [expectedBody_put_of_manifest hl hg hmanifest, hbody]
      obtain ⟨_, hplace, -, htree, hresult⟩ := writing_present hfound hbody
      obtain ⟨_, hplace', -, htree', hresult'⟩ := writing_present hfound' hbody'
      cases hl.symm.trans hplace
      cases hl'.symm.trans hplace'
      refine ⟨hresult'.trans hresult.symm, fun members files _ => ?_⟩
      rw [htree, htree', hput]

/-- The sample project with something else in its registry. -/
def editedSample : FileTree :=
  sampleProject.put ["registry.ts"] (.file "edited by hand, [[imports]]".toUTF8)

/-- A registry that was edited by hand comes out like one that was empty. -/
theorem edited_sample_is_regenerated :
    (run sampleOptions.writing editedSample).result = .ok (.updated 1 1) ∧
      (run sampleOptions.writing editedSample).tree =
        (run sampleOptions.writing sampleProject).tree := by
  have hupdated : (run sampleOptions.writing sampleProject).result = .ok (.updated 1 1) :=
    eq_ok_of_toOption (by decide +kernel)
  have hcollected : collect sampleOptions sampleProject = .ok [⟨"addon/x.ts"⟩] :=
    eq_ok_of_toOption (by decide +kernel)
  have hdiffer : DifferInText sampleOptions.registryPath sampleProject editedSample :=
    ⟨["registry.ts"], "", "edited by hand, [[imports]]", eq_ok_of_toOption (by decide +kernel), rfl,
      rfl, fun node => rfl⟩
  obtain ⟨hresult, htree⟩ := regeneration_ignores_old_text hdiffer (by decide +kernel)
    fun files hc => by
      cases hcollected.symm.trans hc
      decide +kernel
  exact ⟨hresult.trans hupdated, htree 1 1 hupdated⟩

end AddonRegistry
