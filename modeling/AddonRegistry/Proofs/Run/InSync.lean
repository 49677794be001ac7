import AddonRegistry.Proofs.Insertions
import AddonRegistry.Proofs.Lines
import AddonRegistry.Proofs.Paths.Climbs
import AddonRegistry.Proofs.Run.FixedPoint

/-!
# What a registry tells about its project

If nothing that goes into a registry holds a line feed, its lines can be read off the text, and each line
tells what it was made from: a name may hold quotes, but the type behind it holds no space, so that it is
what stands behind the last one; and in an import line the type is what stands behind the second one.  So
the text tells the members and the imports, and a registry that is still in sync registers what it did when
it was written.

* `declarationLine_inj` — a declaration tells the name and the type.
* `newline_notMem_importPath` — import paths hold no line feeds that the files and the package do not.
* `Scan.FitsLines`, `Scan.FitsLines.isLined` — that everything in a scan goes on one line, as it does if the
  types are identifiers (`Scan.FitsLines.of_identifiers`).
* `render_ofScan_inj` — what the text of a registry tells.
* `inSync_iff` — when a registry is in sync with what a run reads.
* **`registry_tells_members`** — both of it in one statement.
-/

namespace AddonRegistry

/-! ## Declarations -/

/-- What stands in front of the type in a declaration. -/
def Member.declarationFront (m : Member) : List Char :=
  '\x27' :: (m.name.toList ++ '\x27' :: ':' :: ' ' :: "typeof".toList)

lemma reverse_declarationLine (m : Member) : m.declarationLine.toList.reverse =
    ';' :: (m.target.toList.reverse ++ ' ' :: m.declarationFront.reverse) := by
  have htext : m.declarationLine.toList = m.declarationFront ++ ' ' :: (m.target.toList ++ [';']) := by
    rw [toList_declarationLine, Member.declarationFront]
    simp only [List.cons_append, List.append_assoc]
  rw [htext]
  simp only [List.reverse_append, List.reverse_cons, List.reverse_nil, List.nil_append,
    List.append_assoc, List.cons_append]

/-- **A declaration tells the name and the type**, if there is no space in the type: then it stands behind
the last one. -/
lemma declarationLine_inj {m n : Member} (hm : ' ' ∉ m.target.toList) (hn : ' ' ∉ n.target.toList) :
    m.declarationLine = n.declarationLine ↔ m = n := by
  refine ⟨fun h => ?_, congrArg Member.declarationLine⟩
  have hlists := congrArg (fun line => line.toList.reverse) h
  simp only [reverse_declarationLine, List.cons.injEq, true_and] at hlists
  have htarget : m.target = n.target := by
    have htaken := congrArg (List.takeWhile (· ≠ ' ')) hlists
    rw [takeWhile_append_space, takeWhile_append_space, takeWhile_of_spaceless (by simpa using hm),
      takeWhile_of_spaceless (by simpa using hn), List.reverse_inj] at htaken
    exact String.toList_inj.mp htaken
  have hname : m.name = n.name := by
    rw [htarget, List.append_cancel_left_eq, List.cons.injEq, List.reverse_inj,
      Member.declarationFront, Member.declarationFront, List.cons.injEq, List.append_cancel_right_eq]
      at hlists
    exact String.toList_inj.mp hlists.2.2
  cases m
  cases n
  rw [Member.mk.injEq]
  exact ⟨hname, htarget⟩

/-- Lists that come to the same are the same, if what their members come to tells these apart. -/
lemma map_eq_map_iff_of_forall {α β : Type} {f : α → β} : ∀ {xs ys : List α},
    (∀ x ∈ xs, ∀ y ∈ ys, f x = f y ↔ x = y) → (xs.map f = ys.map f ↔ xs = ys)
  | [], [], _ => by simp
  | [], _ :: _, _ => by simp
  | _ :: _, [], _ => by simp
  | x :: xs, y :: ys, hf => by
      have hrest : xs.map f = ys.map f ↔ xs = ys := map_eq_map_iff_of_forall fun x hx y hy =>
        hf x (List.mem_cons_of_mem _ hx) y (List.mem_cons_of_mem _ hy)
      rw [List.map_cons, List.map_cons, List.cons.injEq, List.cons.injEq,
        hf x List.mem_cons_self y List.mem_cons_self, hrest]

/-! ## Line feeds in paths -/

namespace Path

lemma mem_splitAtSlashes_of_frontAndBody {p : Path} {front : Option Component}
    {body : List (List Char)} {stretch : List Char} (h : p.frontAndBody = (front, body))
    (hs : stretch ∈ body) : stretch ∈ splitAtSlashes p.text.toList := by
  rw [frontAndBody] at h
  split at h
  · next hsplit =>
      cases h
      rw [hsplit]
      exact List.mem_cons_of_mem _ hs
  · next hsplit =>
      cases h
      rw [hsplit]
      exact List.mem_cons_of_mem _ hs
  · cases h
    exact hs

lemma newline_notMem_of_mem_components {p : Path} {c : Component} (h : '\n' ∉ p.text.toList)
    (hc : c ∈ p.components) : '\n' ∉ c.text.toList := by
  rcases hp : p.frontAndBody with ⟨front, body⟩
  rw [components_of_frontAndBody hp, List.mem_append] at hc
  rcases hc with hc | hc
  · rcases (front_cases hp).2 with rfl | rfl | ⟨rfl, -⟩
    · rw [List.mem_singleton.mp hc]
      decide
    · rw [List.mem_singleton.mp hc]
      decide
    · cases hc
  · obtain ⟨stretch, hs, hc⟩ := List.mem_filterMap.mp hc
    rw [toList_of_componentOf? hc]
    exact fun hn => h (mem_of_mem_splitAtSlashes (mem_splitAtSlashes_of_frontAndBody hp hs) hn)

lemma newline_notMem_slashed {way : List Component} (h : ∀ c ∈ way, '\n' ∉ c.text.toList) :
    '\n' ∉ (slashed way).toList := by
  rw [slashed, String.toList_intercalate, List.map_map]
  intro hn
  rw [show "/".toList = ['/'] from rfl, ← joinWithSlashes_eq_intercalate] at hn
  rcases mem_joinWithSlashes hn with hslash | ⟨stretch, hs, hn⟩
  · cases hslash
  · obtain ⟨c, hc, rfl⟩ := List.mem_map.mp hs
    exact h c hc hn

/-- What a relative path holds besides names of the path are pairs of dots and slashes. -/
lemma newline_notMem_relativeTo {p : Path} (h : '\n' ∉ p.text.toList) (base : Path) :
    '\n' ∉ (p.relativeTo base).toList := by
  rw [relativeTo_eq]
  refine newline_notMem_slashed fun c hc => ?_
  rcases List.mem_append.mp hc with hc | hc
  · rw [List.eq_of_mem_replicate hc]
    decide
  · exact newline_notMem_of_mem_components h (List.mem_of_mem_drop hc)

end Path

/-- **Import paths hold no line feeds** that the files and the package do not. -/
lemma newline_notMem_importPath {file : Path} {package : String} (hfile : '\n' ∉ file.text.toList)
    (hpackage : '\n' ∉ package.toList) (root : Path) :
    '\n' ∉ (importPath file root package).toList := by
  have hrelative := Path.newline_notMem_relativeTo hfile root
  unfold importPath
  dsimp only
  split
  · next below hbelow =>
      rw [belowSourceFolder?_eq_some] at hbelow
      rw [hbelow, List.mem_append, not_or, List.mem_cons, not_or] at hrelative
      simp only [String.toList_append, String.toList_ofList, List.mem_append, not_or]
      exact ⟨⟨hpackage, by decide⟩, hrelative.2.2⟩
  · exact hrelative

/-! ## Scans -/

/-- That everything that a registry needs goes on one line, and that there is no space in the names of
types. -/
structure Scan.FitsLines (scan : Scan) (package : String) : Prop where
  package : '\n' ∉ package.toList
  paths : ∀ entry ∈ scan, '\n' ∉ entry.1.text.toList
  names : ∀ entry ∈ scan, ∀ m ∈ entry.2, '\n' ∉ m.name.toList
  targets : ∀ entry ∈ scan, ∀ m ∈ entry.2, '\n' ∉ m.target.toList ∧ ' ' ∉ m.target.toList

/-- An identifier has neither line feeds nor spaces. -/
lemma blanks_notMem_of_isIdentifier {name : List Char} (h : TypeScript.isIdentifier name) :
    '\n' ∉ name ∧ ' ' ∉ name := by
  have hpart : ∀ c ∈ name, Unicode.isIdentifierPart c := by
    cases name with
    | nil => nofun
    | cons first rest =>
        rw [TypeScript.isIdentifier, Bool.and_eq_true, List.all_eq_true] at h
        exact List.forall_mem_cons.mpr ⟨Unicode.isIdentifierPart_of_isIdentifierStart h.1, h.2⟩
  exact ⟨fun hm => absurd (hpart _ hm) (by decide), fun hm => absurd (hpart _ hm) (by decide)⟩

section

variable {scan other : Scan} {root base : Path} {package name : String}

/-- The names of types fit if they are identifiers. -/
lemma Scan.FitsLines.of_identifiers (hpackage : '\n' ∉ package.toList)
    (hpaths : ∀ entry ∈ scan, '\n' ∉ entry.1.text.toList)
    (hnames : ∀ entry ∈ scan, ∀ m ∈ entry.2, '\n' ∉ m.name.toList)
    (htargets : ∀ entry ∈ scan, ∀ m ∈ entry.2, TypeScript.isIdentifier m.target.toList) :
    scan.FitsLines package :=
  ⟨hpackage, hpaths, hnames, fun entry he m hm => blanks_notMem_of_isIdentifier (htargets entry he m hm)⟩

lemma isLine_declarationLine {m : Member} (hname : '\n' ∉ m.name.toList)
    (htarget : '\n' ∉ m.target.toList) : IsLine m.declarationLine := by
  rw [IsLine, ne_eq, ← String.toList_eq_nil_iff, toList_declarationLine]
  simp [hname, htarget]

lemma isLine_importLineOf {line : String × String} (htarget : '\n' ∉ line.1.toList)
    (hpath : '\n' ∉ line.2.toList) : IsLine (importLineOf line) := by
  rw [IsLine, ne_eq, ← String.toList_eq_nil_iff, toList_importLineOf]
  simp [htarget, hpath]

namespace Scan.FitsLines

variable (h : scan.FitsLines package)

include h

lemma members : ∀ m ∈ scan.flatMap Prod.snd,
    '\n' ∉ m.name.toList ∧ '\n' ∉ m.target.toList ∧ ' ' ∉ m.target.toList := by
  intro m hm
  obtain ⟨entry, he, hm⟩ := List.mem_flatMap.mp hm
  exact ⟨h.names entry he m hm, h.targets entry he m hm⟩

lemma uses (root : Path) : ∀ use ∈ scan.uses root package,
    '\n' ∉ use.1.toList ∧ ' ' ∉ use.1.toList ∧ '\n' ∉ use.2.toList := by
  intro use huse
  obtain ⟨entry, he, huse⟩ := List.mem_flatMap.mp huse
  obtain ⟨m, hm, rfl⟩ := List.mem_map.mp huse
  obtain ⟨hline, hspace⟩ := h.targets entry he m hm
  exact ⟨hline, hspace, newline_notMem_importPath (h.paths entry he) h.package root⟩

/-- The lines of such a scan, each from what it is made of. -/
lemma ofScan_eq (root : Path) : Body.ofScan scan root package =
    ⟨(firsts id (scan.uses root package)).map importLineOf,
      (scan.flatMap Prod.snd).map Member.declarationLine⟩ := by
  rw [← imports_of_uses fun use huse => (h.uses root use huse).2.1,
    ← declarations_eq_map scan root package]

/-- Every line of such a scan is one. -/
lemma isLined (root : Path) : (Body.ofScan scan root package).IsLined := by
  rw [h.ofScan_eq root]
  refine ⟨List.forall_mem_map.mpr fun use huse => ?_, List.forall_mem_map.mpr fun m hm => ?_⟩
  · obtain ⟨hline, -, hpath⟩ := h.uses root use (mem_of_mem_firsts huse)
    exact isLine_importLineOf hline hpath
  · obtain ⟨hname, htarget, -⟩ := h.members m hm
    exact isLine_declarationLine hname htarget

end Scan.FitsLines

/-- **The text of a registry tells** the members in order, and the types that are imported with the paths
they are imported from. -/
lemma render_ofScan_inj (hscan : scan.FitsLines package) (hother : other.FitsLines name) :
    render (Body.ofScan scan root package) = render (Body.ofScan other base name) ↔
      scan.flatMap Prod.snd = other.flatMap Prod.snd ∧
        firsts id (scan.uses root package) = firsts id (other.uses base name) := by
  rw [render_inj (hscan.isLined root) (hother.isLined base), hscan.ofScan_eq, hother.ofScan_eq,
    Body.mk.injEq, and_comm]
  refine and_congr (map_eq_map_iff_of_forall fun m hm n hn => ?_)
    (map_eq_map_iff_of_forall fun use huse used hused => ?_)
  · exact declarationLine_inj (hscan.members m hm).2.2 (hother.members n hn).2.2
  · exact importLineOf_inj (hscan.uses root use (mem_of_mem_firsts huse)).2.1
      (hother.uses base used (mem_of_mem_firsts hused)).2.1

end

/-! ## Checks -/

variable {options : Options} {tree : FileTree} {files : List Path} {scan : Scan} {package text : String}

lemma Reads.found (h : Reads options tree files scan package)
    (htext : tree.readText options.registryPath = .ok text) :
    found options tree = .ok ⟨scan, .present text⟩ :=
  found_eq_ok.mpr ⟨files, h.collected, h.scanned, readRegistry_eq_present.mpr htext⟩

lemma Reads.expectedBody (h : Reads options tree files scan package) :
    expectedBody options tree scan = .ok (Body.ofScan scan options.root package) :=
  expectedBody_eq_ok.mpr ⟨package, h.named, rfl⟩

/-- A registry is in sync if its text is the one that there should be. -/
lemma inSync_iff (h : Reads options tree files scan package)
    (htext : tree.readText options.registryPath = .ok text) :
    (run options.checking tree).result = .ok .inSync ↔
      text = render (Body.ofScan scan options.root package) := by
  rw [checking_present (h.found htext) h.expectedBody]
  split_ifs with heq <;> simp [heq]

/-- A run that finds the registry in sync knows what there should be. -/
lemma exists_reads_of_inSync (h : (run options.checking tree).result = .ok .inSync) :
    ∃ files scan package, Reads options tree files scan package := by
  cases course options tree with
  | unread failure hfound =>
      rw [checking_unread hfound] at h
      cases h
  | absent scan hfound =>
      rw [checking_absent hfound] at h
      cases h
  | unnamed scan text failure hfound hbody =>
      rw [checking_unnamed hfound hbody] at h
      cases h
  | present scan text body hfound hbody =>
      obtain ⟨files, hfiles, hscan, -⟩ := found_eq_ok.mp hfound
      obtain ⟨package, hpackage, -⟩ := expectedBody_eq_ok.mp hbody
      exact ⟨files, scan, package, hfiles, hscan, hpackage⟩

/-! ## The statement -/

/-- **A registry tells what it registers.**  If no name, path or package has a line feed and no type has a
line feed or a space, as none has that is an identifier, then two registries have the same text exactly if
they register the same members in the same order and import the same types from the same paths in the same
order.  So if a registry still has the text that a run has written, a check finds it in sync exactly if it
reads the same members and imports as that run did: nothing was added, dropped, renamed or put in another
place. -/
theorem registry_tells_members :
    (∀ (scan other : Scan) (root base : Path) (package name : String),
      scan.FitsLines package → other.FitsLines name →
        (render (Body.ofScan scan root package) = render (Body.ofScan other base name) ↔
          scan.flatMap Prod.snd = other.flatMap Prod.snd ∧
            firsts id (scan.uses root package) = firsts id (other.uses base name))) ∧
    ∀ (earlier later : Options) (before now : FileTree) (members count : Nat),
      (run earlier.writing before).result = .ok (.updated members count) →
      now.readText later.registryPath =
        (run earlier.writing before).tree.readText earlier.registryPath →
      ∃ files scan package, Reads earlier before files scan package ∧
        ((run later.checking now).result = .ok .inSync →
          ∃ files other name, Reads later now files other name) ∧
        ∀ files other name, Reads later now files other name →
          scan.FitsLines package → other.FitsLines name →
            ((run later.checking now).result = .ok .inSync ↔
              scan.flatMap Prod.snd = other.flatMap Prod.snd ∧
                firsts id (scan.uses earlier.root package) = firsts id (other.uses later.root name)) := by
  refine ⟨fun scan other root base package name hscan hother => render_ofScan_inj hscan hother, ?_⟩
  intro earlier later before now members count hresult htext
  obtain ⟨files, scan, package, hreads, hwritten, -, -⟩ := written_of_updated hresult
  rw [hwritten] at htext
  refine ⟨files, scan, package, hreads, exists_reads_of_inSync, ?_⟩
  intro files' other name hreads' hscan hother
  rw [inSync_iff hreads' htext, render_ofScan_inj hscan hother]

/-- What an update writes in the sample project. -/
def sampleText : String := render (Body.ofScan [(⟨"addon/x.ts"⟩, [⟨"a", "A"⟩])] ⟨"."⟩ "p")

/-- The sample project with this text, and then with another type in its source file. -/
def retypedSample : FileTree :=
  (sampleProject.put ["registry.ts"] (.file sampleText.toUTF8)).put ["addon", "x.ts"] <|
    .file <| String.toUTF8 <| "declare module '@glint/environment-ember-loose/registry' \x7b\n" ++
      "  interface Registry \x7b 'a': typeof B \x7d\n\x7d\n"

/-- A name that holds the rest of a declaration and the beginning of another one. -/
def deceptiveName : Scan := [(⟨"/p/addon/a.ts"⟩, [⟨"a': typeof B;'b", "B"⟩])]

/-- The names that it looks like. -/
def plainNames : Scan := [(⟨"/p/addon/a.ts"⟩, [⟨"a", "B"⟩, ⟨"b", "B"⟩])]

/-- Another type is noticed, and a name is not taken for the two that it looks like. -/
theorem retyped_sample_is_out_of_sync :
    (run sampleOptions.writing sampleProject).result = .ok (.updated 1 1) ∧
      retypedSample.readText sampleOptions.registryPath =
        (run sampleOptions.writing sampleProject).tree.readText sampleOptions.registryPath ∧
      (run sampleOptions.checking retypedSample).result ≠ .ok .inSync ∧
      render (Body.ofScan deceptiveName ⟨"/p"⟩ "pkg") ≠ render (Body.ofScan plainNames ⟨"/p"⟩ "pkg") := by
  have hupdated : (run sampleOptions.writing sampleProject).result = .ok (.updated 1 1) :=
    eq_ok_of_toOption (by decide +kernel)
  have hwritten : (run sampleOptions.writing sampleProject).tree.readText sampleOptions.registryPath =
      .ok sampleText :=
    eq_ok_of_toOption (by decide +kernel)
  have hkept : retypedSample.readText sampleOptions.registryPath = .ok sampleText :=
    eq_ok_of_toOption (by decide +kernel)
  have hreads : Reads sampleOptions sampleProject [⟨"addon/x.ts"⟩]
      [(⟨"addon/x.ts"⟩, [⟨"a", "A"⟩])] "p" :=
    ⟨eq_ok_of_toOption (by decide +kernel), eq_ok_of_toOption (by decide +kernel),
      eq_ok_of_toOption (by decide +kernel)⟩
  have hretyped : Reads sampleOptions retypedSample [⟨"addon/x.ts"⟩]
      [(⟨"addon/x.ts"⟩, [⟨"a", "B"⟩])] "p" :=
    ⟨eq_ok_of_toOption (by decide +kernel), eq_ok_of_toOption (by decide +kernel),
      eq_ok_of_toOption (by decide +kernel)⟩
  obtain ⟨htells, hnotices⟩ := registry_tells_members
  refine ⟨hupdated, hkept.trans hwritten.symm, fun hsync => ?_, fun hrender => ?_⟩
  · obtain ⟨files, scan, package, hfound, -, hiff⟩ :=
      hnotices sampleOptions sampleOptions sampleProject retypedSample 1 1 hupdated
        (hkept.trans hwritten.symm)
    cases hreads.collected.symm.trans hfound.collected
    cases hreads.scanned.symm.trans hfound.scanned
    cases hreads.named.symm.trans hfound.named
    have hsame := (hiff _ _ _ hretyped
      (.of_identifiers (by decide +kernel) (by decide +kernel) (by decide +kernel) (by decide +kernel))
      (.of_identifiers (by decide +kernel) (by decide +kernel) (by decide +kernel)
        (by decide +kernel))).mp hsync
    exact absurd hsame.1 (by decide +kernel)
  · have hsame := (htells deceptiveName plainNames ⟨"/p"⟩ ⟨"/p"⟩ "pkg" "pkg"
      (.of_identifiers (by decide +kernel) (by decide +kernel) (by decide +kernel) (by decide +kernel))
      (.of_identifiers (by decide +kernel) (by decide +kernel) (by decide +kernel)
        (by decide +kernel))).mp hrender
    exact absurd hsame.1 (by decide +kernel)

/-- A name that holds a line feed can be taken for two. -/
example : render (Body.ofScan [(⟨"/p/addon/a.ts"⟩, [⟨"a': typeof B;\n'b", "B"⟩])] ⟨"/p"⟩ "pkg") =
    render (Body.ofScan [(⟨"/p/addon/a.ts"⟩, [⟨"a", "B"⟩, ⟨"b", "B"⟩])] ⟨"/p"⟩ "pkg") := by
  decide +kernel

end AddonRegistry
