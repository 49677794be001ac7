import AddonRegistry.Proofs.FileTree.Entries
import AddonRegistry.Proofs.Paths.Joins

/-!
# Paths below a folder

What a path leads to below a folder is told by the place of the folder and by the rest of the path.  So two
spellings of one folder lead to the same places, if the same is written behind them and neither path gets
too long.  The same holds in every tree in which nothing was lost.

* `spellingFault?_eq_none_iff` — which paths can be used at all.
* `Reaches`, `Reaches.mono` — that a path leads to a folder, and that it goes on leading there.
* `Reaches.follow_join`, `Reaches.locate_join` — where a path below a folder leads.
* **`Reaches.follow_join_eq`**, **`Reaches.locate_join_eq`** — below two spellings of a folder.
-/

namespace AddonRegistry.FileTree

variable {tree after : FileTree} {base other rest p : Path} {place : List String}

/-! ## Spellings -/

/-- A path can be used if it is not empty, not too long, and holds no character that no path may hold. -/
lemma spellingFault?_eq_none_iff : spellingFault? p = none ↔
    '\x00' ∉ p.text.toList ∧ p.text ≠ "" ∧ p.text.utf8ByteSize ≤ longestPath := by
  rw [spellingFault?]
  split_ifs with hnul hempty hlong
  · simp_all
  · simp_all
  · simp_all
  · simp_all

/-- A path is not longer than one with more characters. -/
lemma utf8ByteSize_le_of_sublist (h : p.text.toList.Sublist base.text.toList) :
    p.text.utf8ByteSize ≤ base.text.utf8ByteSize := by
  have hcons (c : Char) (l : List Char) : (String.ofList (c :: l)).utf8ByteSize =
      (String.ofList [c]).utf8ByteSize + (String.ofList l).utf8ByteSize := by
    rw [← String.utf8ByteSize_append, ← String.ofList_append]
    rfl
  have hlists : ∀ {xs ys : List Char}, xs.Sublist ys →
      (String.ofList xs).utf8ByteSize ≤ (String.ofList ys).utf8ByteSize := by
    intro xs ys h
    induction h with
    | slnil => exact Nat.le_refl _
    | @cons xs ys c _ ih =>
        rw [hcons c ys]
        omega
    | @cons_cons xs ys c _ ih =>
        rw [hcons c xs, hcons c ys]
        omega
  simpa only [String.ofList_toList] using hlists h

/-- What is wrong with a path below a usable one, if it is not too long. -/
lemma spellingFault?_join (hbase : spellingFault? base = none) (hrest : rest.isAbsolute = false)
    (hfits : (base.join rest).text.utf8ByteSize ≤ longestPath) :
    spellingFault? (base.join rest) =
      if '\x00' ∈ rest.text.toList then some .nulCharacter else none := by
  obtain ⟨hnul, hne, -⟩ := spellingFault?_eq_none_iff.mp hbase
  have hslash : '\x00' ∉ if base.endsInSlash then [] else ['/'] := by split_ifs <;> decide
  have hmem : '\x00' ∈ (base.join rest).text.toList ↔ '\x00' ∈ rest.text.toList := by
    rw [Path.toList_join hne hrest, List.mem_append, List.mem_append]
    simp only [hnul, hslash, or_self, false_or]
  split_ifs with h
  · rw [spellingFault?, if_pos (List.contains_iff_mem.mpr (hmem.mpr h))]
  · exact spellingFault?_eq_none_iff.mpr ⟨fun hc => h (hmem.mp hc), Path.join_ne_empty hne hrest, hfits⟩

/-! ## Folders -/

/-- That a path leads to a folder. -/
structure Reaches (tree : FileTree) (base : Path) (place : List String) : Prop where
  spelled : spellingFault? base = none
  walk : tree.walk (tree.start base) base.steps = .ok place
  folder : tree.FolderAt place

lemma Reaches.nonempty (h : Reaches tree base place) : base.text ≠ "" :=
  (spellingFault?_eq_none_iff.mp h.spelled).2.1

/-- A slash at the end of a path to a folder changes nothing. -/
lemma reaches_of_locate (hl : tree.locate base = .ok place) (hf : tree.FolderAt place) :
    Reaches tree base place := by
  obtain ⟨hspelled, hwalk⟩ := follow_eq_ok.mp hl
  refine ⟨hspelled, ?_, hf⟩
  rw [Path.allSteps] at hwalk
  split_ifs at hwalk
  · obtain ⟨between, hb, hstay⟩ := (walk_append _ _ _).mp hwalk
    obtain ⟨-, -, hn⟩ := walk_cons_eq_ok.mp hstay
    cases hn
    exact hb
  · exact hwalk

/-- Where no folder is lost, a path goes on leading to a folder. -/
lemma Reaches.mono (h : Reaches tree base place) (hhere : after.here = tree.here)
    (hfolders : ∀ place, tree.FolderAt place → after.FolderAt place) : Reaches after base place where
  spelled := h.spelled
  walk := by
    rw [start, hhere]
    exact walk_mono hfolders h.walk
  folder := hfolders place h.folder

lemma Reaches.keeps (h : Reaches tree base place) (hkeeps : Keeps tree after) :
    Reaches after base place :=
  h.mono hkeeps.here fun _ hf => hkeeps.folderAt hf

/-- A slash behind a path to a folder leads there as well. -/
lemma Reaches.isFolder (h : Reaches tree base place) : tree.isFolder base = true := by
  refine isFolder_iff.mpr ⟨place, follow_eq_ok.mpr ⟨h.spelled, ?_⟩, h.folder⟩
  rw [Path.allSteps]
  split_ifs
  · exact (walk_append _ _ _).mpr ⟨place, h.walk, walk_cons_eq_ok.mpr ⟨h.folder, trivial, rfl⟩⟩
  · exact h.walk

/-- A beginning of a path to a folder leads to a folder, if it is not empty. -/
lemma Reaches.isFolder_of_beginning (h : Reaches tree base place) (hne : p.text ≠ "")
    (hbegin : p.text.toList <+: base.text.toList) (hsteps : p.steps <+: base.steps) :
    tree.isFolder p = true := by
  obtain ⟨more, hmore⟩ := hsteps
  have hfollow : tree.follow base base.steps = .ok place := follow_eq_ok.mpr ⟨h.spelled, h.walk⟩
  by_cases hnil : more = []
  · -- all steps are taken, and they lead to the folder
    rw [hnil, List.append_nil] at hmore
    have hwalk : tree.walk (tree.start p) p.steps = .ok place := by
      rw [start_of_beginning tree hne hbegin, hmore]
      exact h.walk
    exact Reaches.isFolder ⟨spellingFault?_of_beginning hne hbegin h.spelled, hwalk, h.folder⟩
  · exact isFolder_of_above ⟨hbegin, more, hnil, hmore.symm⟩ hne hfollow

/-! ## Below a folder -/

section

variable (h : Reaches tree base place) (hrest : rest.isAbsolute = false)

include h hrest

lemma Reaches.walk_join (back : List Step) :
    tree.walk (tree.start (base.join rest)) (base.steps ++ back) = tree.walk place back := by
  have hstart : tree.start (base.join rest) = tree.start base := by
    rw [start, start, Path.isAbsolute_join h.nonempty hrest]
  rw [hstart, walk_append_of_ok h.walk]

/-- Where a path below a folder leads, whatever a slash at its end asks for. -/
lemma Reaches.follow_join (hspelled : spellingFault? (base.join rest) = none) :
    tree.follow (base.join rest) (base.join rest).steps = tree.walk place rest.steps := by
  rw [follow, hspelled, Path.steps_join h.nonempty hrest]
  exact h.walk_join hrest rest.steps

/-- Where a path below a folder leads.  Where nothing is written below the folder, a slash is. -/
lemma Reaches.locate_join (hspelled : spellingFault? (base.join rest) = none) :
    tree.locate (base.join rest) =
      tree.walk place (if rest.text = "" then [.stay] else rest.allSteps) := by
  rw [locate, follow, hspelled, Path.allSteps, Path.steps_join h.nonempty hrest,
    Path.endsInSlash_join h.nonempty hrest]
  dsimp only
  by_cases htext : rest.text = ""
  · have hnone : rest.steps = [] := by
      rw [Path.steps, htext]
      rfl
    rw [if_pos htext, if_pos htext, if_pos rfl, hnone, List.append_nil]
    exact h.walk_join hrest [.stay]
  · rw [if_neg htext, if_neg htext, Path.allSteps]
    split_ifs
    · rw [List.append_assoc]
      exact h.walk_join hrest _
    · exact h.walk_join hrest _

end

section

variable (h : Reaches tree base place) (hother : Reaches tree other place)
  (hrest : rest.isAbsolute = false) (hfits : (base.join rest).text.utf8ByteSize ≤ longestPath)
  (hfits' : (other.join rest).text.utf8ByteSize ≤ longestPath)

include h hother hrest hfits hfits'

/-- **Below two spellings of a folder** the same steps lead to the same place. -/
lemma Reaches.follow_join_eq : tree.follow (base.join rest) (base.join rest).steps =
    tree.follow (other.join rest) (other.join rest).steps := by
  have hspelled := spellingFault?_join h.spelled hrest hfits
  have hspelled' := spellingFault?_join hother.spelled hrest hfits'
  by_cases hnul : '\x00' ∈ rest.text.toList
  · rw [if_pos hnul] at hspelled hspelled'
    rw [follow, follow, hspelled, hspelled']
  · rw [if_neg hnul] at hspelled hspelled'
    rw [h.follow_join hrest hspelled, hother.follow_join hrest hspelled']

/-- **Below two spellings of a folder** the same path leads to the same place. -/
lemma Reaches.locate_join_eq : tree.locate (base.join rest) = tree.locate (other.join rest) := by
  have hspelled := spellingFault?_join h.spelled hrest hfits
  have hspelled' := spellingFault?_join hother.spelled hrest hfits'
  by_cases hnul : '\x00' ∈ rest.text.toList
  · rw [if_pos hnul] at hspelled hspelled'
    rw [locate, locate, follow, follow, hspelled, hspelled']
  · rw [if_neg hnul] at hspelled hspelled'
    rw [h.locate_join hrest hspelled, hother.locate_join hrest hspelled']

lemma Reaches.find_join_eq : tree.find (base.join rest) = tree.find (other.join rest) := by
  rw [find, find, h.locate_join_eq hother hrest hfits hfits']

lemma Reaches.readText_join_eq : tree.readText (base.join rest) = tree.readText (other.join rest) := by
  rw [readText, readText, readBytes, readBytes, h.find_join_eq hother hrest hfits hfits']

end

end AddonRegistry.FileTree
