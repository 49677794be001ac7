import AddonRegistry.Proofs.Extraction.Generated
import AddonRegistry.Proofs.FileTree.Spellings
import AddonRegistry.Proofs.Run.FixedPoint
import AddonRegistry.Proofs.Survey

/-!
# Registries that the patterns find

The patterns of a project may find its registry, and then a run reads what the run before it wrote.
An empty registry registers nothing, so the first update is made as if the registry were no source.
Whether later runs repeat it depends on the one text that they read in addition: they do exactly if
the text that was written registers nothing.

* `Quiet` — what an update writes registers nothing, under each path by which the patterns find it.
* `Plain` — everything that the sources register can stand in the lines of a registry as it is.
* `Settled` — every later run ends in one way and changes nothing.
* `quiet_of_updated` — a registry that registers something comes to one more file.
* **`settled_iff_quiet`** — what an update of an empty registry writes is quiet exactly if it settles.
* `quoted_name_unsettles` — a name that cannot stand in a line as it is.
-/

namespace AddonRegistry

/-- That what an update writes is a module which registers nothing, where the patterns find it. -/
def Quiet (options : Options) (tree : FileTree) : Prop :=
  ∀ files scan registry body, collect options tree = .ok files →
    found options tree = .ok ⟨scan, registry⟩ → expectedBody options tree scan = .ok body →
    ∀ file ∈ files, tree.SamePlace options.registryPath file →
      membersOf (render body) file.text = .ok []

/-- What is left by a number of runs that write. -/
def afterRuns (options : Options) : Nat → FileTree → FileTree
  | 0, tree => tree
  | n + 1, tree => afterRuns options n (run options.writing tree).tree

/-- That every later run ends in one way and changes nothing, and that the registry is in sync. -/
structure Settled (options : Options) (tree : FileTree) (outcome : Outcome) : Prop where
  again : ∀ n, afterRuns options n tree = tree ∧
    (run options.writing (afterRuns options n tree)).result = .ok outcome
  inSync : ∀ n, (run options.checking (afterRuns options n tree)).result = .ok .inSync

/-- That everything which the sources register can stand in the lines of a registry as it is. -/
def Plain (options : Options) (tree : FileTree) : Prop :=
  ∀ scan registry package, found options tree = .ok ⟨scan, registry⟩ →
    readPackageName tree options.root = .ok package → scan.IsPlain options.root package

variable {options : Options} {tree first second : FileTree} {place : List String} {scan : Scan}
  {body : Body} {old : ByteArray}

/-! ## Runs that change nothing -/

lemma afterRuns_of_tree_eq (h : (run options.writing tree).tree = tree) :
    ∀ n, afterRuns options n tree = tree
  | 0 => rfl
  | n + 1 => by
      rw [afterRuns, h]
      exact afterRuns_of_tree_eq h n

/-- What one run leaves as it is, every run does. -/
lemma settled_of_found_render (hfound : found options tree = .ok ⟨scan, .present (render body)⟩)
    (hbody : expectedBody options tree scan = .ok body) :
    Settled options tree (.updated body.memberCount scan.fileCount) := by
  obtain ⟨hsync, hresult, htree⟩ := run_of_found_render hfound hbody
  have hall := afterRuns_of_tree_eq htree
  refine ⟨fun n => ⟨hall n, ?_⟩, fun n => ?_⟩
  · rw [hall n, hresult]
  · rw [hall n, hsync]

/-- The next run ends like all others. -/
lemma Settled.result {outcome : Outcome} (h : Settled options tree outcome) :
    (run options.writing tree).result = .ok outcome := (h.again 0).2

/-! ## An empty registry -/

/-- An empty registry is no manifest. -/
lemma packageName_stub {name : String} : Manifest.packageName stub ≠ .ok name := by
  have hnone : (Manifest.packageName stub).toOption = none := by decide +kernel
  intro h
  rw [h] at hnone
  cases hnone

section

variable (hg : first.root.get? place = some (.file stub.toUTF8))

include hg

lemma readText_stub {p : Path} (hp : first.locate p = .ok place) : first.readText p = .ok stub :=
  FileTree.readText_eq_ok.mpr (FileTree.readBytes_eq_ok.mpr ⟨place, hp, hg⟩)

/-- An empty registry registers nothing. -/
lemma examine_stub {file : Path} (hf : first.locate file = .ok place) :
    examine first file = .ok [] := by
  rw [examine, readText_stub hg hf]
  dsimp only
  rw [membersOf_stub]

/-- Where the package has a name, its manifest is not the empty registry. -/
lemma locate_manifest_ne (hbody : expectedBody options first scan = .ok body) :
    first.locate (options.root.join ⟨manifestFile⟩) ≠ .ok place := by
  intro hm
  obtain ⟨package, hp, -⟩ := expectedBody_eq_ok.mp hbody
  unfold readPackageName at hp
  simp only [readText_stub hg hm] at hp
  split at hp
  · cases hp
  · next name hname => exact packageName_stub hname

/-- Filling the registry changes nothing about what it should hold. -/
lemma expectedBody_put (hbody : expectedBody options first scan = .ok body) (text : String) :
    expectedBody options (first.put place (.file text.toUTF8)) scan = .ok body := by
  rw [expectedBody, readPackageName_put_of_ne hg _ (locate_manifest_ne hg hbody)]
  exact hbody

/-- What registers something is not the empty registry. -/
lemma locate_ne_of_registers {files : List Path} {file : Path}
    (h : (surveyOf first files).Registers file) : first.locate file ≠ .ok place := by
  obtain ⟨-, m, members, he⟩ := registers_surveyOf.mp h
  intro hf
  rw [examine_stub hg hf] at he
  cases he

/-- What registers something besides the empty registry keeps doing so. -/
lemma registers_put {files : List Path} {file : Path} (h : (surveyOf first files).Registers file)
    (text : String) : (surveyOf (first.put place (.file text.toUTF8)) files).Registers file := by
  rw [registers_surveyOf, examine_put_of_ne hg _ (locate_ne_of_registers hg h)]
  exact registers_surveyOf.mp h

/-- Nothing that registers something is another spelling of the empty registry. -/
lemma not_same_of_registers {files : List Path} {file other : Path}
    (ho : (surveyOf first files).Registers other) (hf : first.locate file = .ok place) :
    ¬ other.Same file := by
  intro hsame
  obtain ⟨-, m, members, he⟩ := registers_surveyOf.mp ho
  obtain ⟨text, ht⟩ := readText_of_examine he
  have hother := FileTree.readText_eq_ok.mp ht
  have hfile := FileTree.readText_eq_ok.mp (readText_stub hg hf)
  exact locate_ne_of_registers hg ho ((FileTree.locate_eq_of_same hsame hother hfile).trans hf)

end

/-- What the file registers that is written over a registry. -/
lemma examine_put_self (hl : first.locate options.registryPath = .ok place)
    (hg : first.root.get? place = some (.file old)) {file : Path} (hf : first.locate file = .ok place)
    {text : String} {members : List Member} :
    examine (first.put place (.file text.toUTF8)) file = .ok members ↔
      membersOf text file.text = .ok members := by
  have hsame : (first.put place (.file text.toUTF8)).SamePlace options.registryPath file :=
    ⟨place, (FileTree.locate_put_file hg _ _).trans hl, (FileTree.locate_put_file hg _ _).trans hf⟩
  have hread := readRegistry_eq_present.mp (readRegistry_put hl hg text)
  rw [FileTree.readText_eq_of_samePlace hsame] at hread
  rw [examine, hread]
  dsimp only
  cases membersOf text file.text <;> simp

/-! ## After the first update -/

/-- What is written is quiet if everything can stand in its lines as it is. -/
lemma quiet_of_plain (hplain : Plain options first) : Quiet options first := by
  intro files scan registry body _ hfound hbody file _ _
  obtain ⟨package, hpackage, rfl⟩ := expectedBody_eq_ok.mp hbody
  exact membersOf_render (hplain scan registry package hfound hpackage) file.text

section

variable (hfound : found options first = .ok ⟨scan, .present stub⟩)
  (hbody : expectedBody options first scan = .ok body)
  (hl : first.locate options.registryPath = .ok place)
  (hg : first.root.get? place = some (.file stub.toUTF8))

include hfound hbody hl hg

/-- A quiet registry goes unnoticed by the next survey, so what is found is found again. -/
lemma settled_of_quiet (hquiet : Quiet options first) :
    Settled options (first.put place (.file (render body).toUTF8))
      (.updated body.memberCount scan.fileCount) := by
  refine settled_of_found_render (found_put_registry hfound hl hg _ fun files hc => ?_)
    (expectedBody_put hg hbody _)
  refine List.map_congr_left fun file hm => ?_
  by_cases hf : first.locate file = .ok place
  · have hnone := hquiet files scan _ body hc hfound hbody file hm ⟨place, hl, hf⟩
    rw [(examine_put_self hl hg hf).mpr hnone, examine_stub hg hf]
  · rw [examine_put_of_ne hg _ hf]

/-- **A registry that registers something** is one more file for the next run. -/
lemma quiet_of_updated
    (hagain : (run options.writing (first.put place (.file (render body).toUTF8))).result =
      .ok (.updated body.memberCount scan.fileCount)) : Quiet options first := by
  intro files _ _ _ hcollect hfound₂ hbody₂ file hm ⟨_, hregistry, hf⟩
  cases hfound.symm.trans hfound₂
  cases hbody.symm.trans hbody₂
  cases hl.symm.trans hregistry
  obtain ⟨_, hc, hfirst, -⟩ := found_eq_ok.mp hfound
  cases hcollect.symm.trans hc
  obtain ⟨later, _, _, _, hlater, -, -, -, -, -, hcount⟩ := present_of_updated hagain
  obtain ⟨_, hc, hsecond, -⟩ := found_eq_ok.mp hlater
  rw [collect_put_file hg, hcollect] at hc
  cases hc
  obtain ⟨members, hmembers⟩ := Survey.exists_ok_of_scanFrom hsecond _ (List.mem_map_of_mem hm)
  dsimp only at hmembers
  cases members with
  | nil => exact (examine_put_self hl hg hf).mp hmembers
  | cons m members =>
      -- Every file of the first scan is in the second one, and the registry comes in addition.
      have hlt := Survey.fileCount_lt hfirst hsecond (fun other ho => registers_put hg ho _)
        (registers_surveyOf.mpr ⟨hm, m, members, hmembers⟩)
        fun other ho => not_same_of_registers hg ho hf
      omega

end

/-- **A registry that was created and filled is harmless exactly if what was written is quiet.**  Every
later run then repeats the update and changes nothing, and the registry is in sync, whether the
patterns find it or not; otherwise the very next run ends in another way.  What is written is quiet if
everything that the sources register can stand in its lines as it is. -/
theorem settled_iff_quiet {members files : Nat}
    (hcreated : (run options.writing tree).result = .ok .created)
    (hfirst : (run options.writing tree).tree = first)
    (hupdated : (run options.writing first).result = .ok (.updated members files))
    (hsecond : (run options.writing first).tree = second) :
    (Settled options second (.updated members files) ↔ Quiet options first) ∧
      ((run options.writing second).result = .ok (.updated members files) ↔ Quiet options first) ∧
      (Plain options first → Quiet options first) := by
  have hread := readText_of_created hcreated
  rw [hfirst] at hread
  obtain ⟨scan, text, body, place, hfound, hbody, hl, hg, ht, rfl, rfl⟩ := present_of_updated hupdated
  obtain ⟨_, -, -, hregistry⟩ := found_eq_ok.mp hfound
  cases (readRegistry_eq_present.mp hregistry).symm.trans hread
  rw [ht] at hsecond
  subst hsecond
  have hsettled := settled_of_quiet hfound hbody hl hg
  have hquiet := quiet_of_updated hfound hbody hl hg
  exact ⟨⟨fun h => hquiet h.result, hsettled⟩, ⟨hquiet, fun h => (hsettled h).result⟩, quiet_of_plain⟩

/-- A project with one source, which registers what an element says, and without a registry. -/
def projectRegistering (element : String) : FileTree where
  root := .folder [("p", .folder [
    ("package.json", .file "\x7b\"name\": \"pkg\"\x7d".toUTF8),
    ("addon", .folder [("x.ts", .file (("declare module '" ++ registryModule ++ "' \x7b\n" ++
      "  interface Registry \x7b " ++ element ++ " \x7d\n\x7d\n").toUTF8))])])]
  here := []

/-- Patterns that find the registry at its usual place. -/
def selfMatching : Options where
  patterns := ["addon/*.ts"]
  root := ⟨"p"⟩

/-- What the first run on such a project leaves. -/
def createdFor (element : String) : FileTree :=
  (run selfMatching.writing (projectRegistering element)).tree

/-- What the second run on such a project leaves. -/
def filledFor (element : String) : FileTree := (run selfMatching.writing (createdFor element)).tree

/-- A plain name settles the registry of its project. -/
theorem plain_name_settles :
    (run selfMatching.writing (projectRegistering "'a': typeof A")).result = .ok .created ∧
      (run selfMatching.writing (createdFor "'a': typeof A")).result = .ok (.updated 1 1) ∧
      Plain selfMatching (createdFor "'a': typeof A") ∧
      Settled selfMatching (filledFor "'a': typeof A") (.updated 1 1) := by
  obtain ⟨hcreated, hupdated, hfound, hname⟩ :
      (run selfMatching.writing (projectRegistering "'a': typeof A")).result.toOption =
          some .created ∧
        (run selfMatching.writing (createdFor "'a': typeof A")).result.toOption =
          some (.updated 1 1) ∧
        (found selfMatching (createdFor "'a': typeof A")).toOption =
          some ⟨[(⟨"p/addon/x.ts"⟩, [⟨"a", "A"⟩])], .present stub⟩ ∧
        (readPackageName (createdFor "'a': typeof A") selfMatching.root).toOption = some "pkg" := by
    decide +kernel
  replace hcreated := eq_ok_of_toOption hcreated
  replace hupdated := eq_ok_of_toOption hupdated
  have hplain : Plain selfMatching (createdFor "'a': typeof A") := by
    intro scan registry package hf hp
    cases (eq_ok_of_toOption hfound).symm.trans hf
    cases (eq_ok_of_toOption hname).symm.trans hp
    refine ⟨?_, by decide +kernel⟩
    intro entry he m hm
    rw [List.mem_singleton.mp he, List.mem_singleton] at hm
    rw [hm]
    exact ⟨by decide +kernel, by decide +kernel, by decide +kernel⟩
  obtain ⟨hiff, -, hquiet⟩ := settled_iff_quiet hcreated rfl hupdated rfl
  exact ⟨hcreated, hupdated, hplain, hiff.mpr (hquiet hplain)⟩

/-- **A name with a quote in it** ends the string that it is written as, and the registry is no module
any more: it was created and filled, and every run after that fails. -/
theorem quoted_name_unsettles :
    (run selfMatching.writing (projectRegistering "\"it's\": typeof X")).result = .ok .created ∧
      (run selfMatching.writing (createdFor "\"it's\": typeof X")).result = .ok (.updated 1 1) ∧
      (run selfMatching.writing (filledFor "\"it's\": typeof X")).result.toOption = none ∧
      (run selfMatching.checking (filledFor "\"it's\": typeof X")).result.toOption = none ∧
      ¬ Settled selfMatching (filledFor "\"it's\": typeof X") (.updated 1 1) := by
  obtain ⟨hcreated, hupdated, hwriting, hchecking⟩ :
      (run selfMatching.writing (projectRegistering "\"it's\": typeof X")).result.toOption =
          some .created ∧
        (run selfMatching.writing (createdFor "\"it's\": typeof X")).result.toOption =
          some (.updated 1 1) ∧
        (run selfMatching.writing (filledFor "\"it's\": typeof X")).result.toOption = none ∧
        (run selfMatching.checking (filledFor "\"it's\": typeof X")).result.toOption = none := by
    decide +kernel
  refine ⟨eq_ok_of_toOption hcreated, eq_ok_of_toOption hupdated, hwriting, hchecking, ?_⟩
  intro hsettled
  rw [hsettled.result] at hwriting
  cases hwriting

end AddonRegistry
