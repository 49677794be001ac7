import AddonRegistry.Proofs.Except
import AddonRegistry.Proofs.FileTree.Shape
import AddonRegistry.Proofs.Run.Courses

/-!
# Updates and what they leave

A run reads four things: which files there are, what they hold, the registry, and the manifest.  An
update changes the second only at the registry, and the first not at all.  So unless the registry is
one of the files that are read as something else, what a run finds after an update is what it found
before, but for the text of the registry — and that is now what it should be.

* `collect_put_file`, `examine_put_of_ne`, `readPackageName_put_of_ne` — what an update leaves alone.
* `found_put_registry` — what is found after an update.
* `Reads`, `written_of_updated` — what an update writes is what it has read.
* **`update_is_fixed_point`** — after an update the registry is in sync, and another run changes
  nothing.
-/

namespace AddonRegistry

variable {options : Options} {tree : FileTree} {place : List String} {old : ByteArray}

/-! ## What an update leaves alone -/

/-- The patterns find the same files. -/
lemma collect_put_file (h : tree.root.get? place = some (.file old)) (new : ByteArray) :
    collect options (tree.put place (.file new)) = collect options tree := by
  rw [collect, collect, ← Glob.filesMatching_shape, FileTree.shape_put_file h,
    Glob.filesMatching_shape]

/-- Every other file registers what it did. -/
lemma examine_put_of_ne (h : tree.root.get? place = some (.file old)) (new : ByteArray) {file : Path}
    (hfile : tree.locate file ≠ .ok place) :
    examine (tree.put place (.file new)) file = examine tree file := by
  rw [examine, examine, FileTree.readText_put_of_ne h new hfile]

lemma surveyOf_put_of_ne (h : tree.root.get? place = some (.file old)) (new : ByteArray)
    {files : List Path} (hfiles : ∀ file ∈ files, tree.locate file ≠ .ok place) :
    surveyOf (tree.put place (.file new)) files = surveyOf tree files := by
  refine List.map_congr_left fun file hm => ?_
  rw [examine_put_of_ne h new (hfiles file hm)]

/-- The package keeps its name. -/
lemma readPackageName_put_of_ne (h : tree.root.get? place = some (.file old)) (new : ByteArray)
    {root : Path} (hmanifest : tree.locate (root.join ⟨manifestFile⟩) ≠ .ok place) :
    readPackageName (tree.put place (.file new)) root = readPackageName tree root := by
  unfold readPackageName
  dsimp only
  rw [FileTree.readText_put_of_ne h new hmanifest]

/-- The registry has its new text. -/
lemma readRegistry_put (hl : tree.locate options.registryPath = .ok place)
    (h : tree.root.get? place = some (.file old)) (text : String) :
    readRegistry (tree.put place (.file text.toUTF8)) options.registryPath = .ok (.present text) := by
  have hw : tree.writeBytes options.registryPath text.toUTF8 =
      .ok (tree.put place (.file text.toUTF8)) :=
    FileTree.writeBytes_of_readBytes hl h text.toUTF8
  exact readRegistry_eq_present.mpr (FileTree.readText_writeText hw)

/-- **What is found after an update** that the survey does not notice. -/
lemma found_put_registry {scan : Scan} {before : RegistryState}
    (hfound : found options tree = .ok ⟨scan, before⟩)
    (hl : tree.locate options.registryPath = .ok place)
    (h : tree.root.get? place = some (.file old)) (text : String)
    (hsurvey : ∀ files, collect options tree = .ok files →
      surveyOf (tree.put place (.file text.toUTF8)) files = surveyOf tree files) :
    found options (tree.put place (.file text.toUTF8)) = .ok ⟨scan, .present text⟩ := by
  obtain ⟨files, hc, hs, -⟩ := found_eq_ok.mp hfound
  refine found_eq_ok.mpr ⟨files, ?_, ?_, readRegistry_put hl h text⟩
  · rw [collect_put_file h, hc]
  · rw [hsurvey files hc, hs]

/-! ## The fixed point -/

/-- A registry that holds what it should is left alone. -/
lemma run_of_found_render {scan : Scan} {body : Body}
    (hfound : found options tree = .ok ⟨scan, .present (render body)⟩)
    (hbody : expectedBody options tree scan = .ok body) :
    (run options.checking tree).result = .ok .inSync ∧
      (run options.writing tree).result = .ok (.updated body.memberCount scan.fileCount) ∧
      (run options.writing tree).tree = tree := by
  obtain ⟨place, -, hg, ht, hr⟩ := writing_present hfound hbody
  refine ⟨?_, hr, ?_⟩
  · rw [checking_present hfound hbody, if_pos rfl]
  · rw [ht, FileTree.put, Node.put_of_get? hg]

/-- A run that updates the registry goes along the last of the four courses. -/
lemma present_of_updated {members files : Nat}
    (hr : (run options.writing tree).result = .ok (.updated members files)) :
    ∃ scan text body place, found options tree = .ok ⟨scan, .present text⟩ ∧
      expectedBody options tree scan = .ok body ∧
      tree.locate options.registryPath = .ok place ∧
      tree.root.get? place = some (.file text.toUTF8) ∧
      (run options.writing tree).tree = tree.put place (.file (render body).toUTF8) ∧
      members = body.memberCount ∧ files = scan.fileCount := by
  cases course options tree with
  | unread failure hfound =>
      rw [(writing_unread hfound).2] at hr
      cases hr
  | absent scan hfound =>
      rw [(writing_absent hfound).2] at hr
      cases hw : (writeRegistry tree options.registryPath stub).2 <;> rw [hw] at hr <;> cases hr
  | unnamed scan text failure hfound hbody =>
      rw [(writing_unnamed hfound hbody).2] at hr
      cases hr
  | present scan text body hfound hbody =>
      obtain ⟨place, hl, hg, ht, hr'⟩ := writing_present hfound hbody
      rw [hr'] at hr
      cases hr
      exact ⟨scan, text, body, place, hfound, hbody, hl, hg, ht, rfl, rfl⟩

/-- What a run has read when it knows the registry that there should be: the files that the patterns find,
those of them that register names, and the name of the package. -/
structure Reads (options : Options) (tree : FileTree) (files : List Path) (scan : Scan)
    (package : String) : Prop where
  collected : collect options tree = .ok files
  scanned : (surveyOf tree files).scan = .ok scan
  named : readPackageName tree options.root = .ok package

/-- A run that updates the registry leaves in it what it has read, and reports how much that is. -/
lemma written_of_updated {members count : Nat}
    (hr : (run options.writing tree).result = .ok (.updated members count)) :
    ∃ files scan package, Reads options tree files scan package ∧
      (run options.writing tree).tree.readText options.registryPath =
        .ok (render (Body.ofScan scan options.root package)) ∧
      members = (Body.ofScan scan options.root package).memberCount ∧ count = scan.fileCount := by
  obtain ⟨scan, text, body, place, hfound, hbody, hl, hg, ht, hmembers, hcount⟩ := present_of_updated hr
  obtain ⟨files, hfiles, hscan, -⟩ := found_eq_ok.mp hfound
  obtain ⟨package, hpackage, rfl⟩ := expectedBody_eq_ok.mp hbody
  refine ⟨files, scan, package, ⟨hfiles, hscan, hpackage⟩, ?_, hmembers, hcount⟩
  rw [ht]
  exact readRegistry_eq_present.mp (readRegistry_put hl hg _)

/-- **An update is a fixed point.**  If the registry is neither the manifest nor one of the files that
the patterns ask for, then after a run that updated it, the registry is in sync, and another run ends
in the same way and leaves everything as it is. -/
theorem update_is_fixed_point {after : FileTree} {members files : Nat}
    (hmanifest : ¬ tree.SamePlace options.registryPath (options.root.join ⟨manifestFile⟩))
    (hsources : ∀ collected, collect options tree = .ok collected →
      ∀ file ∈ collected, ¬ tree.SamePlace options.registryPath file)
    (hresult : (run options.writing tree).result = .ok (.updated members files))
    (hafter : (run options.writing tree).tree = after) :
    (run options.checking after).result = .ok .inSync ∧
      (run options.writing after).result = .ok (.updated members files) ∧
      (run options.writing after).tree = after := by
  obtain ⟨scan, text, body, place, hfound, hbody, hl, hg, ht, rfl, rfl⟩ := present_of_updated hresult
  rw [ht] at hafter
  subst hafter
  have hfound' := found_put_registry hfound hl hg (render body) fun collected hc =>
    surveyOf_put_of_ne hg _ fun file hm he => hsources collected hc file hm ⟨place, hl, he⟩
  have hbody' :
      expectedBody options (tree.put place (.file (render body).toUTF8)) scan = .ok body := by
    rw [expectedBody, readPackageName_put_of_ne hg _ fun he => hmanifest ⟨place, hl, he⟩]
    exact hbody
  exact run_of_found_render hfound' hbody'

/-- A source file that registers one name. -/
def sampleSource : String :=
  "declare module '@glint/environment-ember-loose/registry' \x7b\n" ++
  "  interface Registry \x7b 'a': typeof A \x7d\n\x7d\n"

/-- A project whose registry is not in the folder of its sources. -/
def sampleProject : FileTree where
  root := .folder [
    ("package.json", .file "\x7b\"name\": \"p\"\x7d".toUTF8),
    ("addon", .folder [("x.ts", .file sampleSource.toUTF8)]),
    ("registry.ts", .file ByteArray.empty)]
  here := []

def sampleOptions : Options where
  patterns := ["addon/*.ts"]
  root := ⟨"."⟩
  registryFile := ⟨"registry.ts"⟩

/-- An update that leaves the sample project as a second one finds it. -/
theorem sample_update_is_fixed_point :
    (run sampleOptions.writing sampleProject).result = .ok (.updated 1 1) ∧
      (run sampleOptions.checking (run sampleOptions.writing sampleProject).tree).result =
        .ok .inSync ∧
      (run sampleOptions.writing (run sampleOptions.writing sampleProject).tree).result =
        .ok (.updated 1 1) ∧
      (run sampleOptions.writing (run sampleOptions.writing sampleProject).tree).tree =
        (run sampleOptions.writing sampleProject).tree := by
  have hupdated : (run sampleOptions.writing sampleProject).result = .ok (.updated 1 1) :=
    eq_ok_of_toOption (by decide +kernel)
  have hcollected : collect sampleOptions sampleProject = .ok [⟨"addon/x.ts"⟩] :=
    eq_ok_of_toOption (by decide +kernel)
  refine ⟨hupdated, update_is_fixed_point (by decide +kernel) (fun collected hc => ?_) hupdated rfl⟩
  cases hcollected.symm.trans hc
  decide +kernel

end AddonRegistry
