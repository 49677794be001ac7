import AddonRegistry.Proofs.FileTree.Reaches
import AddonRegistry.Proofs.Paths.Parents
import AddonRegistry.Proofs.RegistryFile

/-!
# The files of a project below two spellings of its root

What a project has at a fixed place is read from below its root, and the registry is written there with
the missing folders above it.  Under two spellings of the root the same is read, and the same is made and
written: the folders above the registry are tried one after the other up to the root, and there is nothing
to make from there on, whatever stands above the root in either spelling.

* `isFolder_trimmed` — the root without what says nothing at its end.
* **`exists_makeFolders_join_eq`** — folders below two spellings of a folder.
* **`writeRegistry_join_eq`** — the registry, written below two spellings of the root.
* `readRegistry_join_eq`, `readPackageName_join_eq` — what is read there.
-/

namespace AddonRegistry

open FileTree AddonRegistry.Path

variable {tree : FileTree} {base other rest : Path} {place : List String} {text : String}

/-! ## Folders -/

namespace FileTree

/-- A path to a folder leads to a folder without what says nothing at its end. -/
lemma Reaches.isFolder_trimmed (h : Reaches tree base place) (hrest : rest.isAbsolute = false)
    (htext : rest.text ≠ "") (hfits : (base.join rest).text.utf8ByteSize ≤ longestPath) :
    tree.isFolder base.trimmed = true := by
  -- it is the parent of anything that is right in the folder
  have hsize : (base.join ⟨"x"⟩).text.utf8ByteSize ≤ longestPath := by
    have hone : rest.text.utf8ByteSize ≠ 0 := fun hz => htext (String.utf8ByteSize_eq_zero_iff.mp hz)
    have hx : "x".utf8ByteSize = 1 := rfl
    rw [text_join h.nonempty hrest, String.utf8ByteSize_append] at hfits
    rw [text_join h.nonempty (by decide), String.utf8ByteSize_append, hx]
    omega
  have hspelled : spellingFault? (base.join ⟨"x"⟩) = none :=
    (spellingFault?_join h.spelled (by decide) hsize).trans (if_neg (by decide))
  have hparent : (base.join ⟨"x"⟩).parent? = some base.trimmed :=
    parent?_join h.nonempty (by decide)
      (rfl : (splitAtSlashes "x".toList).reverse.dropWhile isIdle = ['x'] :: [])
  have hwalk : tree.walk place (steps ⟨"x"⟩) = .ok (place ++ ["x"]) :=
    walk_cons_eq_ok.mpr ⟨h.folder, (by decide : "x".utf8ByteSize ≤ longestName), rfl⟩
  exact isFolder_of_above (.of_parent? hparent) (trimmed_ne_empty h.nonempty)
    ((h.follow_join (by decide) hspelled).trans hwalk)

/-- Folders are made alike if the lowest two are alike in every tree in which nothing was lost, and those
above them are made alike. -/
lemma makeFirst_cons_congr {p q : Path} {above others : List Path} (hp : p.text ≠ "") (hq : q.text ≠ "")
    (hmake : ∀ after, Keeps tree after →
      after.makeFolder p = after.makeFolder q ∧ after.isFolder p = after.isFolder q)
    (habove : tree.makeFirst above = tree.makeFirst others) :
    tree.makeFirst (p :: above) = tree.makeFirst (q :: others) := by
  obtain ⟨hmade, hfolder⟩ := hmake tree (.refl tree)
  rw [makeFirst, makeFirst, if_neg (by simpa using hp), if_neg (by simpa using hq), hmade, hfolder, habove]
  rcases tree.makeFolder q with fault | made
  · cases fault with
    | notFound =>
        have hkeeps := (grownBy_makeFirst others tree).toKeeps
        rcases hfirst : tree.makeFirst others with ⟨made, fault | done⟩
        · rfl
        · rw [hfirst] at hkeeps
          obtain ⟨hmade, hfolder⟩ := hmake made hkeeps
          dsimp only
          rw [hmade, hfolder]
    | _ => rfl
  · rfl

section

variable (h : Reaches tree base place) (hother : Reaches tree other place)

include h hother

lemma Reaches.makeFolder_join_eq (hrest : rest.isAbsolute = false)
    (hfits : (base.join rest).text.utf8ByteSize ≤ longestPath)
    (hfits' : (other.join rest).text.utf8ByteSize ≤ longestPath) :
    tree.makeFolder (base.join rest) = tree.makeFolder (other.join rest) ∧
      tree.isFolder (base.join rest) = tree.isFolder (other.join rest) := by
  constructor
  · rw [makeFolder, makeFolder, h.follow_join_eq hother hrest hfits hfits']
  · rw [FileTree.isFolder, FileTree.isFolder, h.find_join_eq hother hrest hfits hfits']

end

/-- **Folders below two spellings of a folder** are made alike: the folder of what is named there, and those
above it, up to the folder itself. -/
lemma exists_makeFolders_join_eq (h : Reaches tree base place) (hother : Reaches tree other place)
    (hrest : rest.isAbsolute = false) (htelling : rest.telling ≠ [])
    (hfits : (base.join rest).text.utf8ByteSize ≤ longestPath)
    (hfits' : (other.join rest).text.utf8ByteSize ≤ longestPath) :
    ∃ folder folder', (base.join rest).parent? = some folder ∧ (other.join rest).parent? = some folder' ∧
      folder.text ≠ "" ∧ folder'.text ≠ "" ∧ tree.makeFolders folder = tree.makeFolders folder' := by
  induction hcount : rest.telling.length using Nat.strong_induction_on generalizing rest with
  | _ count ih =>
      obtain ⟨last, above, hdrop⟩ := exists_cons_of_telling htelling
      have hparent := parent?_join h.nonempty hrest hdrop
      have hparent' := parent?_join hother.nonempty hrest hdrop
      by_cases hkept : trimEnd above.reverse = []
      · -- the folder itself is next, and it is there in either spelling
        have htext := ne_empty_of_telling htelling
        rw [if_pos hkept] at hparent hparent'
        refine ⟨_, _, hparent, hparent', trimmed_ne_empty h.nonempty, trimmed_ne_empty hother.nonempty, ?_⟩
        rw [makeFolders_of_isFolder (h.isFolder_trimmed hrest htext hfits),
          makeFolders_of_isFolder (hother.isFolder_trimmed hrest htext hfits')]
      · rw [if_neg hkept] at hparent hparent'
        obtain ⟨dropped, hsplit, -⟩ := body_eq_of_dropWhile hdrop
        obtain ⟨hsame, hrelative⟩ := splitAtSlashes_of_kept hrest hsplit hkept
        have hshorter {p q : Path} (habove : q.parent? = some p)
            (hq : q.text.utf8ByteSize ≤ longestPath) : p.text.utf8ByteSize ≤ longestPath :=
          (utf8ByteSize_le_of_sublist (Above.of_parent? habove).beginning.sublist).trans hq
        have hlength := length_telling hdrop
        rw [← hsame] at hlength
        have hne : telling ⟨String.ofList (joinWithSlashes (trimEnd above.reverse))⟩ ≠ [] := by
          rw [telling, hsame, filterMap_trimEnd]
          exact fun hnil => hkept (trimEnd_eq_nil_iff.mpr hnil)
        have hfits := hshorter hparent hfits
        have hfits' := hshorter hparent' hfits'
        obtain ⟨upper, upper', hupper, hupper', -, -, hmake⟩ :=
          ih _ (by rw [← hcount, hlength]; exact Nat.lt_add_one _) hrelative hne hfits hfits' rfl
        refine ⟨_, _, hparent, hparent', join_ne_empty h.nonempty hrelative,
          join_ne_empty hother.nonempty hrelative, ?_⟩
        rw [makeFolders, makeFolders, ancestors_of_parent? hupper, ancestors_of_parent? hupper']
        exact makeFirst_cons_congr (join_ne_empty h.nonempty hrelative)
          (join_ne_empty hother.nonempty hrelative) (fun after hk =>
            (h.keeps hk).makeFolder_join_eq (hother.keeps hk) hrelative hfits hfits') hmake

/-- Stretches that say nothing lead nowhere else. -/
lemma walk_of_idle (hf : tree.FolderAt place) {stretches : List (List Char)}
    (h : stretches.filterMap componentOf? = []) :
    tree.walk place (stretches.filterMap stepOf?) = .ok place := by
  induction stretches with
  | nil => rfl
  | cons stretch stretches ih =>
      have hidle : isIdle stretch := by
        by_contra htelling
        obtain ⟨c, hc⟩ := Option.isSome_iff_exists.mp (isSome_componentOf? (Bool.eq_false_iff.mpr htelling))
        rw [List.filterMap_cons_some hc] at h
        cases h
      rw [List.filterMap_cons_none (componentOf?_of_isIdle hidle)] at h
      rw [isIdle, Bool.or_eq_true, decide_eq_true_eq, decide_eq_true_eq] at hidle
      rcases hidle with rfl | rfl
      · exact ih h
      · exact walk_cons_eq_ok.mpr ⟨hf, trivial, ih h⟩

/-- What is missing below a folder has a name. -/
lemma Reaches.telling_ne_nil (h : Reaches tree base place) (hrest : rest.isAbsolute = false)
    (hread : tree.readText (base.join rest) = .error .notFound) : rest.telling ≠ [] := by
  intro hnil
  have hstay : tree.walk place [.stay] = .ok place := walk_cons_eq_ok.mpr ⟨h.folder, trivial, rfl⟩
  have hsteps : tree.walk place rest.steps = .ok place := walk_of_idle h.folder hnil
  have hlocate : tree.walk place (if rest.text = "" then [.stay] else rest.allSteps) = .ok place := by
    rw [Path.allSteps]
    split_ifs
    · exact hstay
    · rw [walk_append_of_ok hsteps, hstay]
    · exact hsteps
  obtain ⟨entries, he⟩ := h.folder
  rw [readText, readBytes] at hread
  cases hspelled : spellingFault? (base.join rest) with
  | none =>
      rw [find, h.locate_join hrest hspelled, hlocate] at hread
      simp [he] at hread
  | some fault =>
      -- a path that is not empty is never missing for its spelling
      have hlocated : tree.locate (base.join rest) = .error fault := by
        rw [locate, follow, hspelled]
      rw [find, hlocated] at hread
      cases hread
      rw [spellingFault?] at hspelled
      split_ifs at hspelled with hnul hempty hlong
      · cases hspelled
      · exact join_ne_empty h.nonempty hrest (by simpa using hempty)
      · cases hspelled

end FileTree

/-! ## The manifest -/

/-- The package has the same name below two spellings of the root. -/
lemma readPackageName_join_eq {root root' : Path} (h : Reaches tree root place)
    (hother : Reaches tree root' place)
    (hfits : (root.join ⟨manifestFile⟩).text.utf8ByteSize ≤ longestPath)
    (hfits' : (root'.join ⟨manifestFile⟩).text.utf8ByteSize ≤ longestPath) :
    (readPackageName tree root).toOption = (readPackageName tree root').toOption := by
  have hread := h.readText_join_eq hother (by decide) hfits hfits'
  unfold readPackageName
  dsimp only
  rw [hread]
  cases tree.readText (root'.join ⟨manifestFile⟩) with
  | error fault => rfl
  | ok text =>
      dsimp only
      cases Manifest.packageName text <;> rfl

/-! ## The registry -/

section

variable (h : Reaches tree base place) (hother : Reaches tree other place)
  (hrest : rest.isAbsolute = false) (hfits : (base.join rest).text.utf8ByteSize ≤ longestPath)
  (hfits' : (other.join rest).text.utf8ByteSize ≤ longestPath)

include h hother hrest hfits hfits'

lemma writeInFolder_join_eq (text : String) :
    (writeInFolder tree (base.join rest) text).1 = (writeInFolder tree (other.join rest) text).1 ∧
      (writeInFolder tree (base.join rest) text).2.toOption =
        (writeInFolder tree (other.join rest) text).2.toOption := by
  have hwrite : tree.writeText (base.join rest) text = tree.writeText (other.join rest) text := by
    rw [writeText, writeText, writeBytes, writeBytes, h.follow_join_eq hother hrest hfits hfits',
      endsInSlash_join h.nonempty hrest, endsInSlash_join hother.nonempty hrest]
  rw [writeInFolder, writeInFolder, hwrite]
  cases tree.writeText (other.join rest) text <;> exact ⟨rfl, rfl⟩

lemma readRegistry_join_eq : (readRegistry tree (base.join rest)).toOption =
    (readRegistry tree (other.join rest)).toOption := by
  rw [readRegistry, readRegistry, h.readText_join_eq hother hrest hfits hfits']
  rcases tree.readText (other.join rest) with (_ | _ | _ | _ | _ | _ | _) | text <;> rfl

/-- **The registry** is written alike below two spellings of the root, if something has to be named to get
there. -/
theorem writeRegistry_join_eq (htelling : rest.telling ≠ []) (text : String) :
    (writeRegistry tree (base.join rest) text).1 = (writeRegistry tree (other.join rest) text).1 ∧
      (writeRegistry tree (base.join rest) text).2.toOption =
        (writeRegistry tree (other.join rest) text).2.toOption := by
  obtain ⟨folder, folder', hparent, hparent', hne, hne', hmake⟩ :=
    exists_makeFolders_join_eq h hother hrest htelling hfits hfits'
  rw [writeRegistry, writeRegistry, hparent, hparent']
  dsimp only
  rw [if_neg (by simpa using hne), if_neg (by simpa using hne'), hmake]
  have hkeeps := (grownBy_makeFirst folder'.ancestors tree).toKeeps
  rcases hmade : tree.makeFolders folder' with ⟨made, fault | done⟩
  · exact ⟨rfl, rfl⟩
  · rw [← makeFolders, hmade] at hkeeps
    exact writeInFolder_join_eq (h.keeps hkeeps) (hother.keeps hkeeps) hrest hfits hfits' text

end

end AddonRegistry
