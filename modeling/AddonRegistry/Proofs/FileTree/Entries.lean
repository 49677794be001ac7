import AddonRegistry.Proofs.FileTree.Walks

/-!
# What is at each place

A tree is seen as a map from places to entries: a file with its bytes, or a folder.  In this view
each effect on the files touches one place.  Making folders only adds to a tree, and what it adds are
folders that were missing; so paths go on leading where they led, and whatever is found missing
afterwards was missing before.

* `Entry`, `FileTree.stored?` — what is at a place.
* `stored?_put_self`, **`stored?_put_of_ne`** — a new file or folder, and everything else.
* `Keeps` — that nothing of a tree is lost in another one.
* `GrownBy` — that in addition everything new is a missing folder which one of some paths names.
* **`grownBy_makeFirst`** — making folders lets a tree grow by these; `eq_or_gained_makeFirst` — or leaves it
  as it is.
* `FileTree.seen?`, `Untouched` — what a path shows, and that nothing about it was touched.
* `GrownBy.untouched` — new folders make no file visible under a path that never goes up.
-/

namespace AddonRegistry

/-- What is at a place: a file with its bytes, or a folder. -/
inductive Entry where
  | file (content : ByteArray)
  | folder

namespace Node

/-- What a node is, whatever a folder holds. -/
def entry : Node → Entry
  | .file content => .file content
  | .folder _ => .folder

@[simp] lemma entry_file (content : ByteArray) : (Node.file content).entry = .file content := rfl

@[simp] lemma entry_folder (entries : List (String × Node)) : (Node.folder entries).entry = .folder :=
  rfl

@[simp] lemma entry_empty : Node.empty.entry = .folder := rfl

lemma entry_eq_file {node : Node} {content : ByteArray} :
    node.entry = .file content ↔ node = .file content := by
  cases node <;> simp

lemma entry_eq_folder {node : Node} : node.entry = .folder ↔ ∃ entries, node = .folder entries := by
  cases node <;> simp

/-- Whether there is nothing below a node: it is a file, or an empty folder. -/
def IsLeaf (node : Node) : Prop := ∀ name rest, node.get? (name :: rest) = none

lemma isLeaf_file (content : ByteArray) : (Node.file content).IsLeaf := by
  intro name rest
  simp

lemma isLeaf_empty : Node.empty.IsLeaf := by
  intro name rest
  simp [empty, get?_folder_cons]

/-- **A new leaf** where no folder is changes nothing at any other place. -/
lemma entry_get?_put_of_ne {node new : Node} (hleaf : new.IsLeaf) :
    ∀ {place other : List String}, (∀ entries, node.get? place ≠ some (.folder entries)) →
      (∀ above name, place = above ++ [name] → ∃ entries, node.get? above = some (.folder entries)) →
      other ≠ place → ((node.put place new).get? other).map entry = (node.get? other).map entry := by
  intro place
  induction place generalizing node with
  | nil =>
      -- the whole node is replaced, and neither it nor the new one has anything below it
      intro other hno _ hne
      obtain ⟨first, others, rfl⟩ := List.exists_cons_of_ne_nil hne
      cases node with
      | file content => simp [hleaf first others]
      | folder entries => exact absurd (get?_nil _) (hno entries)
  | cons name rest ih =>
      intro other hno habove hne
      cases node with
      | file content => rfl
      | folder entries =>
          rw [put_folder_cons]
          cases other with
          | nil => simp
          | cons first others =>
              rw [get?_folder_cons, get?_folder_cons]
              by_cases hf : first = name
              · subst hf
                have hothers : others ≠ rest := fun he => hne (by rw [he])
                rw [lookup_putEntry_self, Option.bind_some]
                cases hc : entries.lookup first with
                | some child =>
                    refine ih (fun found hg => hno found ?_) (fun above last hr => ?_) hothers
                    · rw [get?_folder_cons, hc]
                      exact hg
                    · obtain ⟨found, hg⟩ := habove (first :: above) last (by rw [hr]; rfl)
                      rw [get?_folder_cons, hc] at hg
                      exact ⟨found, hg⟩
                | none =>
                    -- the folder of the new leaf is there, so the leaf is right in it
                    have hrest : rest = [] := by
                      rcases List.eq_nil_or_concat rest with hnil | ⟨front, last, hr⟩
                      · exact hnil
                      · rw [List.concat_eq_append] at hr
                        obtain ⟨found, hg⟩ := habove (first :: front) last (by rw [hr]; rfl)
                        simp [get?_folder_cons, hc] at hg
                    subst hrest
                    obtain ⟨second, more, rfl⟩ := List.exists_cons_of_ne_nil hothers
                    simp [hleaf second more]
              · rw [lookup_putEntry_of_ne hf]

end Node

namespace FileTree

variable {tree made after : FileTree} {p : Path} {place other : List String} {entry : Entry}
  {steps : List Step} {named : Path → Prop}

/-- What is at a place. -/
def stored? (tree : FileTree) (place : List String) : Option Entry :=
  (tree.root.get? place).map Node.entry

lemma stored?_eq_file {content : ByteArray} :
    tree.stored? place = some (.file content) ↔ tree.root.get? place = some (.file content) := by
  rw [stored?, Option.map_eq_some_iff]
  simp [Node.entry_eq_file]

lemma folderAt_iff : tree.FolderAt place ↔ tree.stored? place = some .folder := by
  rw [stored?, Option.map_eq_some_iff, FolderAt]
  simp only [Node.entry_eq_folder]
  constructor
  · rintro ⟨entries, he⟩
    exact ⟨_, he, entries, rfl⟩
  · rintro ⟨node, hn, entries, rfl⟩
    exact ⟨entries, hn⟩

lemma stored?_eq_none : tree.stored? place = none ↔ tree.root.get? place = none := by
  rw [stored?, Option.map_eq_none_iff]

/-! ## One place -/

/-- A new leaf is at its place, if the folder above is there. -/
lemma stored?_put_self {new : Node}
    (habove : ∀ above name, place = above ++ [name] → tree.FolderAt above) :
    (tree.put place new).stored? place = some new.entry := by
  have hself : (tree.root.put place new).get? place = some new :=
    Node.get?_put_self fun name above hp => habove above name hp
  rw [stored?, put]
  simp [hself]

/-- **A new leaf** changes nothing at any other place. -/
lemma stored?_put_of_ne {new : Node} (hleaf : new.IsLeaf) (hno : ¬ tree.FolderAt place)
    (habove : ∀ above name, place = above ++ [name] → tree.FolderAt above) (hne : other ≠ place) :
    (tree.put place new).stored? other = tree.stored? other :=
  Node.entry_get?_put_of_ne hleaf (fun entries he => hno ⟨entries, he⟩) habove hne

/-! ## Nothing is lost -/

/-- Behind a walk that ends, the next one starts where it ended. -/
lemma walk_append_of_ok {front back : List Step} :
    ∀ {place : List String}, tree.walk place front = .ok other →
      tree.walk place (front ++ back) = tree.walk other back := by
  induction front with
  | nil =>
      intro place h
      rw [walk_nil] at h
      cases h
      rfl
  | cons step front ih =>
      intro place h
      obtain ⟨⟨entries, hf⟩, hshort, hw⟩ := walk_cons_eq_ok.mp h
      rw [← ih hw, List.cons_append, walk.eq_def]
      simp only [hf]
      cases step with
      | stay => rfl
      | up => rfl
      | into name => exact if_neg (Nat.not_lt_of_le hshort)

/-- That everything in a tree is also in another one, which is seen from the same folder. -/
structure Keeps (tree after : FileTree) : Prop where
  here : after.here = tree.here
  entry : ∀ {place entry}, tree.stored? place = some entry → after.stored? place = some entry

lemma Keeps.refl (tree : FileTree) : Keeps tree tree := ⟨rfl, id⟩

lemma Keeps.trans (hfirst : Keeps tree made) (hsecond : Keeps made after) : Keeps tree after :=
  ⟨hsecond.here.trans hfirst.here, fun h => hsecond.entry (hfirst.entry h)⟩

lemma Keeps.folderAt (h : Keeps tree after) (hf : tree.FolderAt place) : after.FolderAt place :=
  folderAt_iff.mpr (h.entry (folderAt_iff.mp hf))

lemma Keeps.start (h : Keeps tree after) (p : Path) : after.start p = tree.start p := by
  rw [FileTree.start, FileTree.start, h.here]

/-- A step that cannot be taken misses something, meets a file, or enters what has too long a name. -/
lemma walk_cons_eq_error {step : Step} {fault : FileFault} :
    tree.walk place (step :: steps) = .error fault ↔
      tree.stored? place = none ∧ fault = .notFound ∨
      (∃ content, tree.stored? place = some (.file content)) ∧ fault = .notAFolder ∨
      tree.FolderAt place ∧ ¬ step.Short ∧ fault = .nameTooLong ∨
      tree.FolderAt place ∧ step.Short ∧ tree.walk (step.apply place) steps = .error fault := by
  rw [walk.eq_def, folderAt_iff, stored?]
  dsimp only
  rcases tree.root.get? place with _ | ⟨content⟩ | ⟨entries⟩
  · simp [eq_comm]
  · simp [eq_comm]
  · cases step with
    | stay => simp [Step.Short, Step.apply]
    | up => simp [Step.Short, Step.apply]
    | into name =>
        by_cases h : longestName < name.utf8ByteSize
        · simp [h, Step.Short, Nat.not_le_of_lt h, eq_comm]
        · simp [h, Step.Short, Step.apply, Nat.le_of_not_lt h]

lemma follow_eq_error {fault : FileFault} :
    tree.follow p steps = .error fault ↔ spellingFault? p = some fault ∨
      spellingFault? p = none ∧ tree.walk (tree.start p) steps = .error fault := by
  rw [follow]
  cases spellingFault? p <;> simp

lemma find_eq_error {fault : FileFault} :
    tree.find p = .error fault ↔ tree.locate p = .error fault ∨
      fault = .notFound ∧ ∃ place, tree.locate p = .ok place ∧ tree.stored? place = none := by
  rw [find]
  cases hl : tree.locate p with
  | error other => simp
  | ok place => cases hg : tree.root.get? place <;> simp [stored?, hg, eq_comm]

/-- A walk that fails because of what is there fails in the same way where nothing is lost. -/
lemma Keeps.walk_error (h : Keeps tree after) {fault : FileFault} (hfault : fault ≠ .notFound) :
    ∀ {steps : List Step} {place : List String}, tree.walk place steps = .error fault →
      after.walk place steps = .error fault
  | [], place, hw => by simp at hw
  | step :: steps, place, hw => by
      rw [walk_cons_eq_error] at hw ⊢
      rcases hw with ⟨-, hf⟩ | ⟨⟨content, hc⟩, hf⟩ | ⟨hfolder, hshort, hf⟩ | ⟨hfolder, hshort, hw⟩
      · exact absurd hf hfault
      · exact .inr (.inl ⟨⟨content, h.entry hc⟩, hf⟩)
      · exact .inr (.inr (.inl ⟨h.folderAt hfolder, hshort, hf⟩))
      · exact .inr (.inr (.inr ⟨h.folderAt hfolder, hshort, h.walk_error hfault hw⟩))

/-- Paths go on leading where they led. -/
lemma Keeps.follow (h : Keeps tree after) (hw : tree.follow p steps = .ok place) :
    after.follow p steps = .ok place := by
  obtain ⟨hs, hw⟩ := follow_eq_ok.mp hw
  refine follow_eq_ok.mpr ⟨hs, ?_⟩
  rw [h.start]
  exact walk_mono (fun _ hf => h.folderAt hf) hw

/-- What a path leads to is still there. -/
lemma Keeps.find (h : Keeps tree after) {node : Node} (hfind : tree.find p = .ok node) :
    ∃ found, after.find p = .ok found ∧ found.entry = node.entry := by
  obtain ⟨place, hl, hg⟩ := find_eq_ok.mp hfind
  have hentry : after.stored? place = some node.entry := h.entry (by rw [stored?, hg]; rfl)
  obtain ⟨found, hf, he⟩ := Option.map_eq_some_iff.mp hentry
  exact ⟨found, find_eq_ok.mpr ⟨place, h.follow hl, hf⟩, he⟩

/-- **What is missing afterwards was missing before.** -/
lemma Keeps.notFound (h : Keeps tree after) (hfind : after.find p = .error .notFound) :
    tree.find p = .error .notFound := by
  cases hbefore : tree.find p with
  | ok node =>
      obtain ⟨found, hf, -⟩ := h.find hbefore
      rw [hf] at hfind
      cases hfind
  | error fault =>
      by_contra hne
      have hfault : fault ≠ .notFound := fun he => hne (by rw [he])
      rcases find_eq_error.mp hbefore with hlocate | ⟨hf, -⟩
      · -- the path has a fault of its own, or the walk hits something that is still there
        have hafter : after.locate p = .error fault := by
          rw [locate, follow_eq_error] at hlocate ⊢
          rw [h.start]
          exact hlocate.imp_right (And.imp_right (h.walk_error hfault))
        rw [find_eq_error.mpr (.inl hafter)] at hfind
        cases hfind
        exact hfault rfl
      · exact hfault hf

/-! ## New folders -/

/-- That everything in a tree is also in another one, and that whatever is new there is a folder which
was missing, and which one of the paths in question leads to. -/
structure GrownBy (named : Path → Prop) (tree after : FileTree) : Prop extends Keeps tree after where
  made : ∀ {place entry}, after.stored? place = some entry → tree.stored? place = none →
    entry = .folder ∧ ∃ p, named p ∧ tree.find p = .error .notFound ∧ after.locate p = .ok place

lemma GrownBy.refl (named : Path → Prop) (tree : FileTree) : GrownBy named tree tree where
  toKeeps := .refl tree
  made := fun h hnone => by simp [hnone] at h

lemma GrownBy.mono {others : Path → Prop} (h : GrownBy named tree after)
    (hnamed : ∀ p, named p → others p) : GrownBy others tree after where
  toKeeps := h.toKeeps
  made := by
    intro place entry he hnone
    obtain ⟨hfolder, p, hp, hfind, hl⟩ := h.made he hnone
    exact ⟨hfolder, p, hnamed p hp, hfind, hl⟩

lemma GrownBy.trans (hfirst : GrownBy named tree made) (hsecond : GrownBy named made after) :
    GrownBy named tree after where
  toKeeps := hfirst.toKeeps.trans hsecond.toKeeps
  made := by
    intro place entry he hnone
    cases hm : made.stored? place with
    | none =>
        obtain ⟨hfolder, p, hp, hfind, hl⟩ := hsecond.made he hm
        exact ⟨hfolder, p, hp, hfirst.notFound hfind, hl⟩
    | some between =>
        obtain ⟨rfl, p, hp, hfind, hl⟩ := hfirst.made hm hnone
        cases he.symm.trans (hsecond.entry hm)
        exact ⟨rfl, p, hp, hfind, hsecond.follow hl⟩

/-- A file that is there afterwards was there before. -/
lemma GrownBy.file_iff (h : GrownBy named tree after) {content : ByteArray} :
    after.stored? place = some (.file content) ↔ tree.stored? place = some (.file content) := by
  constructor
  · intro he
    cases hb : tree.stored? place with
    | none => cases (h.made he hb).1
    | some before => exact (h.entry hb).symm.trans he
  · exact h.entry

/-- A folder that is new was missing, and one of the paths in question leads to it. -/
lemma GrownBy.of_folderAt (h : GrownBy named tree after) (hf : after.FolderAt place)
    (hno : ¬ tree.FolderAt place) : tree.stored? place = none ∧
      ∃ p, named p ∧ tree.find p = .error .notFound ∧ after.locate p = .ok place := by
  have hmissing : tree.stored? place = none := by
    rcases hentry : tree.stored? place with _ | ⟨content⟩ | _
    · rfl
    · cases (h.entry hentry).symm.trans (folderAt_iff.mp hf)
    · exact absurd (folderAt_iff.mpr hentry) hno
  exact ⟨hmissing, (h.made (folderAt_iff.mp hf) hmissing).2⟩

lemma makeFolder_eq_ok :
    tree.makeFolder p = .ok made ↔
      ∃ place, tree.follow p p.steps = .ok place ∧ tree.stored? place = none ∧
        made = tree.put place .empty := by
  rw [makeFolder]
  cases tree.follow p p.steps with
  | error fault => simp
  | ok place =>
      simp only [stored?_eq_none, Except.ok.injEq]
      cases hg : tree.root.get? place with
      | some node => simp [hg]
      | none => simp [hg, eq_comm]

/-- The folder of a new folder is there. -/
lemma folderAt_above_of_makeFolder (h : tree.makeFolder p = .ok made) :
    ∃ place, tree.follow p p.steps = .ok place ∧ tree.stored? place = none ∧
      made = tree.put place .empty ∧ ∀ above name, place = above ++ [name] → tree.FolderAt above := by
  obtain ⟨place, hw, hnone, hmade⟩ := makeFolder_eq_ok.mp h
  obtain ⟨hs, hwalk⟩ := follow_eq_ok.mp hw
  have hne : p.steps ≠ [] := by
    intro hsteps
    -- without a step the path is a row of slashes, and the root is there
    have htext : p.text ≠ "" := by
      intro he
      simp [spellingFault?, he] at hs
    rw [start, if_pos (Path.isAbsolute_of_steps_eq_nil htext hsteps), hsteps, walk_nil] at hwalk
    cases hwalk
    simp [stored?] at hnone
  exact ⟨place, hw, hnone, hmade, folderAt_above_of_steps hne hw⟩

/-- **A new folder** was missing, and its path leads to it. -/
lemma grownBy_makeFolder (h : tree.makeFolder p = .ok made) : GrownBy (· = p) tree made := by
  obtain ⟨place, hw, hnone, rfl, habove⟩ := folderAt_above_of_makeFolder h
  obtain ⟨hs, hwalk⟩ := follow_eq_ok.mp hw
  have hno : ¬ tree.FolderAt place := by
    intro hf
    rw [folderAt_iff, hnone] at hf
    cases hf
  have hself : (tree.put place .empty).stored? place = some .folder := stored?_put_self habove
  have hkeeps : Keeps tree (tree.put place .empty) := by
    refine ⟨rfl, fun {other entry} he => ?_⟩
    rw [stored?_put_of_ne Node.isLeaf_empty hno habove]
    · exact he
    · rintro rfl
      rw [hnone] at he
      cases he
  refine ⟨hkeeps, fun {other entry} he hother => ?_⟩
  by_cases ho : other = place
  · subst ho
    cases hself.symm.trans he
    refine ⟨rfl, p, rfl, ?_, ?_⟩
    · -- a slash at the end asks for a folder where nothing is
      rw [find, locate, Path.allSteps]
      split_ifs with hslash
      · have hfail : tree.follow p (p.steps ++ [.stay]) = .error .notFound := by
          rw [follow, hs]
          dsimp only
          rw [walk_append_of_ok hwalk, walk_cons_eq_error]
          exact .inl ⟨hnone, rfl⟩
        rw [hfail]
      · rw [hw]
        simp [stored?_eq_none.mp hnone]
    · have hfollow := hkeeps.follow hw
      rw [locate, Path.allSteps]
      split_ifs with hslash
      · obtain ⟨-, hwalk⟩ := follow_eq_ok.mp hfollow
        exact follow_eq_ok.mpr ⟨hs, (walk_append _ _ _).mpr
          ⟨other, hwalk, walk_cons_eq_ok.mpr ⟨folderAt_iff.mpr hself, trivial, rfl⟩⟩⟩
      · exact hfollow
  · rw [stored?_put_of_ne Node.isLeaf_empty hno habove ho, hother] at he
    cases he

/-- **Making folders** only adds such that were missing, whether it succeeds or not. -/
theorem grownBy_makeFirst : ∀ (paths : List Path) (tree : FileTree),
    GrownBy (· ∈ paths) tree (tree.makeFirst paths).1
  | [], tree => .refl _ tree
  | p :: above, tree => by
      have hself {tree made : FileTree} (h : tree.makeFolder p = .ok made) :
          GrownBy (· ∈ p :: above) tree made :=
        (grownBy_makeFolder h).mono fun q hq => by simp [hq]
      have hothers : GrownBy (· ∈ p :: above) tree (tree.makeFirst above).1 :=
        (grownBy_makeFirst above tree).mono fun q hq => List.mem_cons_of_mem p hq
      rw [makeFirst]
      by_cases hempty : p.text.isEmpty
      · rw [if_pos hempty]
        exact .refl _ tree
      · rw [if_neg hempty]
        split
        · next made hmake => exact hself hmake
        · next hmake =>
            split
            · next made fault hfirst =>
                rw [hfirst] at hothers
                exact hothers
            · next made hfirst =>
                rw [hfirst] at hothers
                split
                · next complete hcomplete => exact hothers.trans (hself hcomplete)
                · exact hothers
        · exact .refl _ tree

/-- That something is in a tree that was not in another one. -/
def Gained (tree after : FileTree) : Prop :=
  ∃ place entry, tree.stored? place = none ∧ after.stored? place = some entry

lemma gained_makeFolder (h : tree.makeFolder p = .ok made) : Gained tree made := by
  obtain ⟨place, -, hnone, rfl, habove⟩ := folderAt_above_of_makeFolder h
  exact ⟨place, .folder, hnone, stored?_put_self habove⟩

/-- What is new in a tree that has grown is new in all that it has grown from. -/
lemma Keeps.gained (h : Keeps tree made) (hgained : Gained made after) : Gained tree after := by
  obtain ⟨place, entry, hnone, hentry⟩ := hgained
  refine ⟨place, entry, ?_, hentry⟩
  cases hbefore : tree.stored? place with
  | none => rfl
  | some before =>
      rw [h.entry hbefore] at hnone
      cases hnone

/-- **Making folders** leaves a tree as it is, or makes one. -/
lemma eq_or_gained_makeFirst : ∀ (paths : List Path) (tree : FileTree),
    (tree.makeFirst paths).1 = tree ∨ Gained tree (tree.makeFirst paths).1
  | [], tree => .inl rfl
  | p :: above, tree => by
      have hothers := eq_or_gained_makeFirst above tree
      have hkeeps := (grownBy_makeFirst above tree).toKeeps
      rw [makeFirst]
      by_cases hempty : p.text.isEmpty
      · rw [if_pos hempty]
        exact .inl rfl
      · rw [if_neg hempty]
        split
        · next made hmake => exact .inr (gained_makeFolder hmake)
        · split
          · next made fault hfirst =>
              rw [hfirst] at hothers
              exact hothers
          · next made hfirst =>
              rw [hfirst] at hothers hkeeps
              split
              · next complete hcomplete => exact .inr (hkeeps.gained (gained_makeFolder hcomplete))
              · exact hothers
        · exact .inl rfl

/-! ## What a path shows -/

/-- What is to be seen at the end of a path. -/
def seen? (tree : FileTree) (p : Path) : Option Entry := (tree.find p).toOption.map Node.entry

lemma seen?_eq_some : tree.seen? p = some entry ↔
    ∃ place, tree.locate p = .ok place ∧ tree.stored? place = some entry := by
  have h : tree.seen? p = some entry ↔ ∃ node, tree.find p = .ok node ∧ node.entry = entry := by
    rw [seen?]
    cases tree.find p <;> simp [Except.toOption]
  simp only [h, find_eq_ok, stored?, Option.map_eq_some_iff]
  constructor
  · rintro ⟨node, ⟨place, hl, hg⟩, he⟩
    exact ⟨place, hl, node, hg, he⟩
  · rintro ⟨place, hl, node, hg, he⟩
    exact ⟨node, ⟨place, hl, hg⟩, he⟩

lemma seen?_eq_file {content : ByteArray} :
    tree.seen? p = some (.file content) ↔ tree.readBytes p = .ok content := by
  rw [seen?_eq_some, readBytes_eq_ok]
  simp only [stored?_eq_file]

lemma seen?_eq_none : tree.seen? p = none ↔ ∃ fault, tree.find p = .error fault := by
  rw [seen?]
  cases tree.find p <;> simp [Except.toOption]

lemma readText_of_find {fault : FileFault} (h : tree.find p = .error fault) :
    tree.readText p = .error fault := by
  rw [readText, readBytes, h]

/-- Only what is not there cannot be read for not being found. -/
lemma find_of_readText_notFound (h : tree.readText p = .error .notFound) :
    tree.find p = .error .notFound := by
  rcases hfind : tree.find p with fault | ⟨content⟩ | ⟨entries⟩
  · rw [readText_of_find hfind] at h
    cases h
    rfl
  · rw [readText, readBytes, hfind] at h
    dsimp only at h
    split at h <;> cases h
  · rw [readText, readBytes, hfind] at h
    cases h

lemma seen?_of_readText_notFound (h : tree.readText p = .error .notFound) : tree.seen? p = none :=
  seen?_eq_none.mpr ⟨_, find_of_readText_notFound h⟩

/-- That a path shows the same file in two trees, or none in either, and that whatever it showed in
the first one has not disappeared. -/
structure Untouched (p : Path) (tree after : FileTree) : Prop where
  file : ∀ content, after.readBytes p = .ok content ↔ tree.readBytes p = .ok content
  kept : (tree.seen? p).isSome → (after.seen? p).isSome

lemma Untouched.refl (p : Path) (tree : FileTree) : Untouched p tree tree := ⟨fun _ => .rfl, id⟩

lemma Untouched.trans (hfirst : Untouched p tree made) (hsecond : Untouched p made after) :
    Untouched p tree after :=
  ⟨fun content => (hsecond.file content).trans (hfirst.file content),
    fun h => hsecond.kept (hfirst.kept h)⟩

lemma Untouched.of_seen?_eq (h : after.seen? p = tree.seen? p) : Untouched p tree after where
  file := fun content => by rw [← seen?_eq_file, ← seen?_eq_file, h]
  kept := fun hsome => by rwa [h]

lemma Untouched.readText (h : Untouched p tree after) (text : String) :
    after.readText p = .ok text ↔ tree.readText p = .ok text := by
  rw [readText_eq_ok, readText_eq_ok, h.file]

/-- A walk that never goes up ends at the place where it starts or below. -/
lemma prefix_of_walk : ∀ {steps : List Step} {place : List String}, .up ∉ steps →
    tree.walk place steps = .ok other → place <+: other
  | [], place, _, hw => by
      rw [walk_nil] at hw
      cases hw
      exact List.prefix_rfl
  | step :: steps, place, hup, hw => by
      rw [List.mem_cons, not_or] at hup
      have hrest := prefix_of_walk hup.2 (walk_cons_eq_ok.mp hw).2.2
      cases step with
      | stay => exact hrest
      | up => exact absurd rfl hup.1
      | into name => exact (List.prefix_append place [name]).trans hrest

/-- A path that never goes up leads to everything that was there before: the folders on the way to it
were there as well. -/
lemma Keeps.walk_of_stored (h : Keeps tree after) (hentry : tree.stored? other = some entry) :
    ∀ {steps : List Step} {place : List String}, .up ∉ steps →
      after.walk place steps = .ok other → tree.walk place steps = .ok other
  | [], place, _, hw => hw
  | step :: steps, place, hup, hw => by
      obtain ⟨hfolder, hshort, hrest⟩ := walk_cons_eq_ok.mp hw
      obtain ⟨below, hbelow⟩ := prefix_of_walk hup hw
      refine walk_cons_eq_ok.mpr ⟨?_, hshort,
        h.walk_of_stored hentry (fun hm => hup (List.mem_cons_of_mem step hm)) hrest⟩
      subst hbelow
      obtain ⟨node, hnode, hkind⟩ := Option.map_eq_some_iff.mp hentry
      by_cases hb : below = []
      · -- the walk stays where it is, and what is there now was there before
        rw [hb, List.append_nil] at hentry
        have hafter := h.entry hentry
        rw [folderAt_iff.mp hfolder] at hafter
        exact folderAt_iff.mpr (hentry.trans hafter.symm)
      · exact Node.folder_of_get?_append hb hnode

/-- **New folders** make no file visible under a path that never goes up. -/
theorem GrownBy.untouched (h : GrownBy named tree after) (hup : .up ∉ p.steps) :
    Untouched p tree after where
  file := by
    intro content
    rw [← seen?_eq_file, ← seen?_eq_file, seen?_eq_some, seen?_eq_some]
    constructor
    · rintro ⟨place, hl, he⟩
      have hbefore := h.file_iff.mp he
      obtain ⟨hs, hw⟩ := follow_eq_ok.mp hl
      have hall : .up ∉ p.allSteps := by
        rw [Path.allSteps]
        split_ifs <;> simp [hup]
      rw [h.start] at hw
      exact ⟨place, follow_eq_ok.mpr ⟨hs, h.walk_of_stored hbefore hall hw⟩, hbefore⟩
    · rintro ⟨place, hl, he⟩
      exact ⟨place, h.follow hl, h.entry he⟩
  kept := by
    simp only [Option.isSome_iff_exists, seen?_eq_some]
    rintro ⟨entry, place, hl, he⟩
    exact ⟨entry, place, h.follow hl, h.entry he⟩

/-- Where nothing is seen although the names on the path are short enough, something on the way is
missing or is a file. -/
lemma walk_eq_error_of_short : ∀ {steps : List Step} {place : List String} {fault : FileFault},
    (∀ step ∈ steps, step.Short) → tree.walk place steps = .error fault →
      fault = .notFound ∨ fault = .notAFolder
  | [], place, fault, _, hw => by simp at hw
  | step :: steps, place, fault, hshort, hw => by
      rw [List.forall_mem_cons] at hshort
      rcases walk_cons_eq_error.mp hw with ⟨-, hf⟩ | ⟨-, hf⟩ | ⟨-, hlong, -⟩ | ⟨-, -, hw⟩
      · exact .inl hf
      · exact .inr hf
      · exact absurd hshort.1 hlong
      · exact walk_eq_error_of_short hshort.2 hw

lemma short_of_walk : ∀ {steps : List Step} {place : List String},
    tree.walk place steps = .ok other → ∀ step ∈ steps, step.Short
  | [], place, _ => by simp
  | step :: steps, place, hw => by
      obtain ⟨-, hshort, hrest⟩ := walk_cons_eq_ok.mp hw
      exact List.forall_mem_cons.mpr ⟨hshort, short_of_walk hrest⟩

/-- A path that leads somewhere in one tree fails in another one only for what is there. -/
lemma find_eq_error_of_locate (hl : after.locate p = .ok place) {fault : FileFault}
    (h : tree.find p = .error fault) : fault = .notFound ∨ fault = .notAFolder := by
  obtain ⟨hs, hw⟩ := follow_eq_ok.mp hl
  rcases find_eq_error.mp h with hlocate | ⟨hf, -⟩
  · rcases follow_eq_error.mp hlocate with hspelling | ⟨-, hwalk⟩
    · rw [hs] at hspelling
      cases hspelling
    · exact walk_eq_error_of_short (short_of_walk hw) hwalk
  · exact .inl hf

end FileTree

end AddonRegistry
