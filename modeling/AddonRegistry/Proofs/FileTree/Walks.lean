import AddonRegistry.FileTree.Access
import AddonRegistry.Proofs.FileTree.Nodes
import AddonRegistry.Proofs.Paths.Stretches

/-!
# Walking to a place, reading there and writing there

A walk goes through folders, and what it needs of the tree is only that these are there
(`walk_mono`).  Hence reading is a function of the place that a path leads to, and a file that was
written is read back under the same path.

* `walk_append`, `walk_eq_foldl` — walks stretch by stretch; the place where one ends is written on
  its steps.
* `readBytes_eq_ok`, `readText_eq_ok` — what reading a file means.
* `writeBytes_eq_ok` — what writing a file means.
* **`readText_writeText`** — what was written is read back.
* `SamePlace` — two paths that lead to one place.
-/

namespace AddonRegistry

/-! ## Steps -/

/-- Where a step leads from a folder. -/
def Step.apply : Step → List String → List String
  | .stay, place => place
  | .up, place => place.dropLast
  | .into name, place => place ++ [name]

/-- Whether the name in a step can be the name of a file. -/
def Step.Short : Step → Prop
  | .into name => name.utf8ByteSize ≤ longestName
  | _ => True

namespace FileTree

variable {tree other : FileTree} {p folder : Path} {place goal : List String} {steps : List Step}

/-- Whether a place is one that can be walked through. -/
def FolderAt (tree : FileTree) (place : List String) : Prop :=
  ∃ entries, tree.root.get? place = some (.folder entries)

@[simp] lemma walk_nil : tree.walk place [] = .ok place := rfl

/-- A walk takes its first step from a folder. -/
lemma walk_cons_eq_ok {step : Step} :
    tree.walk place (step :: steps) = .ok goal ↔
      tree.FolderAt place ∧ step.Short ∧ tree.walk (step.apply place) steps = .ok goal := by
  rw [walk.eq_def, FolderAt]
  dsimp only
  rcases tree.root.get? place with _ | ⟨content⟩ | ⟨entries⟩
  · simp
  · simp
  · cases step with
    | stay => simp [Step.Short, Step.apply]
    | up => simp [Step.Short, Step.apply]
    | into name =>
        by_cases h : longestName < name.utf8ByteSize
        · simp [h, Step.Short, Nat.not_le_of_lt h]
        · simp [h, Step.Short, Step.apply, Nat.le_of_not_lt h]

lemma walk_append (first second : List Step) :
    ∀ place, tree.walk place (first ++ second) = .ok goal ↔
      ∃ between, tree.walk place first = .ok between ∧ tree.walk between second = .ok goal := by
  induction first with
  | nil => intro place; simp
  | cons step first ih =>
      intro place
      simp only [List.cons_append, walk_cons_eq_ok, ih]
      constructor
      · rintro ⟨hf, hs, between, h₁, h₂⟩
        exact ⟨between, ⟨hf, hs, h₁⟩, h₂⟩
      · rintro ⟨between, ⟨hf, hs, h₁⟩, h₂⟩
        exact ⟨hf, hs, between, h₁, h₂⟩

/-- The place where a walk ends is written on its steps. -/
lemma walk_eq_foldl (h : tree.walk place steps = .ok goal) :
    goal = steps.foldl (fun place step => step.apply place) place := by
  induction steps generalizing place with
  | nil => simpa using h.symm
  | cons step steps ih => exact ih (walk_cons_eq_ok.mp h).2.2

/-- A walk succeeds in every tree that has the folders it goes through. -/
lemma walk_mono (hmono : ∀ place, tree.FolderAt place → other.FolderAt place)
    (h : tree.walk place steps = .ok goal) : other.walk place steps = .ok goal := by
  induction steps generalizing place with
  | nil => simpa using h
  | cons step steps ih =>
      obtain ⟨hf, hs, hw⟩ := walk_cons_eq_ok.mp h
      exact walk_cons_eq_ok.mpr ⟨hmono _ hf, hs, ih hw⟩

/-- What is above a folder is a folder. -/
lemma FolderAt.above {above : List String} {name : String}
    (h : tree.FolderAt (above ++ [name])) : tree.FolderAt above := by
  obtain ⟨entries, he⟩ := h
  exact Node.folder_of_get?_append (List.cons_ne_nil _ _) he

/-- Right above the place where a walk ends there is a folder: the last step came from there, or from
somewhere below. -/
lemma folderAt_above_of_walk (hstart : ∀ above name, place = above ++ [name] → tree.FolderAt above)
    (h : tree.walk place steps = .ok goal) :
    ∀ above name, goal = above ++ [name] → tree.FolderAt above := by
  induction steps generalizing place with
  | nil =>
      rw [walk_nil] at h
      cases h
      exact hstart
  | cons step steps ih =>
      obtain ⟨hf, -, hw⟩ := walk_cons_eq_ok.mp h
      refine ih ?_ hw
      rintro above name he
      cases step with
      | stay =>
          rw [Step.apply] at he
          exact FolderAt.above (he ▸ hf)
      | up =>
          rw [Step.apply] at he
          rcases List.eq_nil_or_concat place with rfl | ⟨front, last, rfl⟩
          · simp at he
          · rw [List.concat_eq_append, List.dropLast_concat] at he
            rw [List.concat_eq_append] at hf
            exact FolderAt.above (he ▸ FolderAt.above hf)
      | into last =>
          rw [Step.apply] at he
          obtain ⟨rfl, -⟩ := List.append_inj' he rfl
          exact hf

/-! ## Reading -/

lemma find_eq_ok {node : Node} :
    tree.find p = .ok node ↔
      ∃ place, tree.locate p = .ok place ∧ tree.root.get? place = some node := by
  rw [find]
  cases hl : tree.locate p with
  | error fault => simp
  | ok place => cases hg : tree.root.get? place <;> simp [hg]

lemma readBytes_eq_ok {content : ByteArray} :
    tree.readBytes p = .ok content ↔
      ∃ place, tree.locate p = .ok place ∧ tree.root.get? place = some (.file content) := by
  rw [← find_eq_ok, readBytes]
  rcases tree.find p with fault | ⟨content⟩ | ⟨entries⟩ <;> simp

lemma isFolder_iff :
    tree.isFolder p = true ↔ ∃ place, tree.locate p = .ok place ∧ tree.FolderAt place := by
  have h : tree.isFolder p = true ↔ ∃ entries, tree.find p = .ok (.folder entries) := by
    rw [isFolder]
    rcases tree.find p with fault | ⟨content⟩ | ⟨entries⟩ <;> simp
  simp only [h, find_eq_ok, FolderAt]
  exact ⟨fun ⟨entries, place, hl, he⟩ => ⟨place, hl, entries, he⟩,
    fun ⟨place, hl, entries, he⟩ => ⟨entries, place, hl, he⟩⟩

lemma isFile_iff : tree.isFile p = true ↔
    ∃ place content, tree.locate p = .ok place ∧ tree.root.get? place = some (.file content) := by
  have h : tree.isFile p = true ↔ ∃ content, tree.find p = .ok (.file content) := by
    rw [isFile]
    rcases tree.find p with fault | ⟨content⟩ | ⟨entries⟩ <;> simp
  simp only [h, find_eq_ok]
  exact exists_comm

lemma holds_iff : tree.holds p = true ↔ ∃ node, tree.find p = .ok node := by
  rw [holds]
  cases tree.find p <;> simp [Except.isOk, Except.toBool]

lemma holds_of_isFolder (h : tree.isFolder p = true) : tree.holds p = true := by
  obtain ⟨place, hl, entries, he⟩ := isFolder_iff.mp h
  exact holds_iff.mpr ⟨_, find_eq_ok.mpr ⟨place, hl, he⟩⟩

lemma holds_of_isFile (h : tree.isFile p = true) : tree.holds p = true := by
  obtain ⟨place, content, hl, hf⟩ := isFile_iff.mp h
  exact holds_iff.mpr ⟨_, find_eq_ok.mpr ⟨place, hl, hf⟩⟩

lemma fromUTF8?_eq_some {content : ByteArray} {text : String} :
    String.fromUTF8? content = some text ↔ content = text.toUTF8 := by
  rw [String.fromUTF8?]
  constructor
  · intro h
    split at h
    · cases h
      rfl
    · simp at h
  · rintro rfl
    rw [dif_pos (by exact text.isValidUTF8)]
    rfl

lemma readText_eq_ok {text : String} :
    tree.readText p = .ok text ↔ tree.readBytes p = .ok text.toUTF8 := by
  unfold readText
  cases tree.readBytes p with
  | error fault => simp
  | ok content =>
      dsimp only
      cases ht : String.fromUTF8? content with
      | none =>
          have hne : content ≠ text.toUTF8 := fun he => by
            rw [fromUTF8?_eq_some.mpr he] at ht
            cases ht
          simpa using hne
      | some found =>
          obtain rfl := fromUTF8?_eq_some.mp ht
          rw [Except.ok.injEq, Except.ok.injEq, String.toUTF8_eq_toByteArray,
            String.toUTF8_eq_toByteArray, String.toByteArray_inj]

/-! ## Writing -/

lemma follow_eq_ok :
    tree.follow p steps = .ok goal ↔
      spellingFault? p = none ∧ tree.walk (tree.start p) steps = .ok goal := by
  rw [follow]
  cases spellingFault? p <;> simp

/-- A path to a file has no slash at its end: that would ask for a folder. -/
lemma locate_file {content : ByteArray} (hl : tree.locate p = .ok place)
    (hf : tree.root.get? place = some (.file content)) :
    p.endsInSlash = false ∧ tree.follow p p.steps = .ok place := by
  rw [locate, Path.allSteps] at hl
  by_cases he : p.endsInSlash = true
  · rw [if_pos he, follow_eq_ok, walk_append] at hl
    obtain ⟨-, between, -, hw⟩ := hl
    obtain ⟨⟨entries, hb⟩, -, hn⟩ := walk_cons_eq_ok.mp hw
    rw [walk_nil] at hn
    cases hn
    rw [Step.apply, hb] at hf
    cases hf
  · rw [if_neg he] at hl
    exact ⟨by simpa using he, hl⟩

lemma writeBytes_eq_ok {content : ByteArray} {after : FileTree} :
    tree.writeBytes p content = .ok after ↔
      ∃ place, p.endsInSlash = false ∧ tree.follow p p.steps = .ok place ∧
        ¬ tree.FolderAt place ∧ after = tree.put place (.file content) := by
  rw [writeBytes]
  cases tree.follow p p.steps with
  | error fault => simp
  | ok place =>
      cases he : p.endsInSlash with
      | true => simp
      | false =>
          rcases hg : tree.root.get? place with _ | ⟨old⟩ | ⟨entries⟩ <;>
            simp [FolderAt, hg, eq_comm]

/-- A file that can be read can be overwritten, at its place. -/
lemma writeBytes_of_readBytes {old : ByteArray} (hl : tree.locate p = .ok place)
    (hf : tree.root.get? place = some (.file old)) (content : ByteArray) :
    tree.writeBytes p content = .ok (tree.put place (.file content)) := by
  obtain ⟨he, hw⟩ := locate_file hl hf
  refine writeBytes_eq_ok.mpr ⟨place, he, hw, ?_, rfl⟩
  rintro ⟨entries, hg⟩
  rw [hf] at hg
  cases hg

/-! ## Reading what was written -/

/-- The folder of what a path leads to is there: the last name on the way was entered from it. -/
lemma folderAt_above_of_steps (hne : p.steps ≠ []) (hw : tree.follow p p.steps = .ok place) :
    ∀ above name, place = above ++ [name] → tree.FolderAt above := by
  obtain ⟨-, hw⟩ := follow_eq_ok.mp hw
  obtain ⟨step, steps, hsteps⟩ := List.exists_cons_of_ne_nil hne
  refine folderAt_above_of_walk (fun above name hstart => ?_) hw
  rw [hsteps] at hw
  exact FolderAt.above (hstart ▸ (walk_cons_eq_ok.mp hw).1)

/-- The folder of a file is there before the file is. -/
lemma folderAt_above_of_follow (he : p.endsInSlash = false)
    (hw : tree.follow p p.steps = .ok place) :
    ∀ above name, place = above ++ [name] → tree.FolderAt above := by
  obtain ⟨hs, -⟩ := follow_eq_ok.mp hw
  have htext : p.text ≠ "" := by
    intro h
    simp [spellingFault?, h] at hs
  exact folderAt_above_of_steps (Path.steps_ne_nil htext he) hw

/-- A new file changes nothing that can be walked through. -/
lemma folderAt_put_file {content : ByteArray} (hno : ¬ tree.FolderAt place) :
    ∀ other, tree.FolderAt other → (tree.put place (.file content)).FolderAt other :=
  fun _ h => Node.folder_put_file (fun entries he => hno ⟨entries, he⟩) h

/-- What was written is where the path leads afterwards. -/
lemma locate_writeBytes {content : ByteArray} {after : FileTree}
    (h : tree.writeBytes p content = .ok after) :
    ∃ place, after.locate p = .ok place ∧ after.root.get? place = some (.file content) := by
  obtain ⟨place, he, hw, hno, rfl⟩ := writeBytes_eq_ok.mp h
  have habove := folderAt_above_of_follow he hw
  obtain ⟨hs, hw⟩ := follow_eq_ok.mp hw
  refine ⟨place, ?_, Node.get?_put_self fun name above hp => habove above name hp⟩
  have hall : p.allSteps = p.steps := by
    rw [Path.allSteps, he]
    rfl
  rw [locate, hall, follow_eq_ok]
  exact ⟨hs, walk_mono (folderAt_put_file hno) hw⟩

/-- **What was written is read back.** -/
theorem readText_writeText {text : String} {after : FileTree}
    (h : tree.writeText p text = .ok after) : after.readText p = .ok text :=
  readText_eq_ok.mpr (readBytes_eq_ok.mpr (locate_writeBytes h))

/-! ## Folders that are there -/

/-- A path to a folder leads there with or without a slash at its end. -/
lemma follow_of_isFolder (h : tree.isFolder folder = true) :
    ∃ place, tree.follow folder folder.steps = .ok place ∧ tree.FolderAt place := by
  obtain ⟨place, hl, hf⟩ := isFolder_iff.mp h
  refine ⟨place, ?_, hf⟩
  rw [locate, Path.allSteps] at hl
  split_ifs at hl with he
  · obtain ⟨hs, hw⟩ := follow_eq_ok.mp hl
    obtain ⟨between, hb, hstay⟩ := (walk_append _ _ _).mp hw
    obtain ⟨-, -, hn⟩ := walk_cons_eq_ok.mp hstay
    rw [walk_nil] at hn
    cases hn
    exact follow_eq_ok.mpr ⟨hs, hb⟩
  · exact hl

/-- Nothing is made where a folder is. -/
lemma makeFirst_of_isFolder (h : tree.isFolder folder = true) (above : List Path) :
    tree.makeFirst (folder :: above) = (tree, .ok ()) := by
  obtain ⟨place, hw, entries, hg⟩ := follow_of_isFolder h
  have hmake : tree.makeFolder folder = .error .alreadyExists := by
    rw [makeFolder, hw]
    dsimp only
    rw [hg]
  rw [makeFirst, hmake]
  dsimp only
  rw [if_pos h, ite_self]

lemma makeFolders_of_isFolder (h : tree.isFolder folder = true) :
    tree.makeFolders folder = (tree, .ok ()) :=
  makeFirst_of_isFolder h _

/-- A beginning of a path has no fault of its own. -/
lemma spellingFault?_of_beginning (hne : folder.text ≠ "")
    (hbegin : folder.text.toList <+: p.text.toList) (h : spellingFault? p = none) :
    spellingFault? folder = none := by
  obtain ⟨rest, hr⟩ := hbegin
  have htext : p.text = folder.text ++ String.ofList rest := by
    rw [← String.toList_inj, String.toList_append, String.toList_ofList, hr]
  rw [spellingFault?] at h ⊢
  split_ifs at h with hnul hempty hlong
  have hnul' : folder.text.toList.contains '\x00' ≠ true := by
    intro hc
    apply hnul
    rw [← hr]
    simp only [List.contains_iff_mem] at hc ⊢
    exact List.mem_append_left _ hc
  have hlong' : ¬ longestPath < folder.text.utf8ByteSize := by
    rw [htext, String.utf8ByteSize_append] at hlong
    omega
  have hempty' : folder.text.isEmpty ≠ true := by simpa using hne
  rw [if_neg hnul', if_neg hempty', if_neg hlong']

/-- A beginning of a path starts where the path does. -/
lemma start_of_beginning (tree : FileTree) (hne : folder.text ≠ "")
    (hbegin : folder.text.toList <+: p.text.toList) : tree.start folder = tree.start p := by
  obtain ⟨rest, hr⟩ := hbegin
  obtain ⟨c, cs, hc⟩ := List.exists_cons_of_ne_nil (l := folder.text.toList) (by simpa using hne)
  rw [start, start, Path.isAbsolute, Path.isAbsolute, ← hr, hc]
  rfl

/-- A path leads through the folders above it. -/
lemma isFolder_of_above (habove : folder.Above p) (hne : folder.text ≠ "")
    (hw : tree.follow p p.steps = .ok place) : tree.isFolder folder = true := by
  obtain ⟨hs, hw⟩ := follow_eq_ok.mp hw
  obtain ⟨more, hmore, hsteps⟩ := habove.steps
  obtain ⟨step, others, rfl⟩ := List.exists_cons_of_ne_nil hmore
  rw [hsteps, walk_append] at hw
  obtain ⟨between, hb, hrest⟩ := hw
  have hf : tree.FolderAt between := (walk_cons_eq_ok.mp hrest).1
  refine isFolder_iff.mpr ⟨between, ?_, hf⟩
  rw [locate, follow_eq_ok, start_of_beginning tree hne habove.beginning, Path.allSteps]
  refine ⟨spellingFault?_of_beginning hne habove.beginning hs, ?_⟩
  split_ifs
  · exact (walk_append _ _ _).mpr ⟨between, hb, walk_cons_eq_ok.mpr ⟨hf, trivial, rfl⟩⟩
  · exact hb

/-! ## Paths to one place -/

/-- Whether two paths lead to the same place. -/
def SamePlace (tree : FileTree) (p q : Path) : Prop :=
  ∃ place, tree.locate p = .ok place ∧ tree.locate q = .ok place

/-- At one place there is one text. -/
lemma readText_eq_of_samePlace {q : Path} (h : tree.SamePlace p q) :
    tree.readText p = tree.readText q := by
  obtain ⟨place, hp, hq⟩ := h
  rw [readText, readText, readBytes, readBytes, find, find, hp, hq]

lemma samePlace_iff {tree : FileTree} {p q : Path} :
    tree.SamePlace p q ↔
      (tree.locate p).toOption.isSome ∧ (tree.locate p).toOption = (tree.locate q).toOption := by
  rw [SamePlace]
  cases tree.locate p <;> cases tree.locate q <;> simp [Except.toOption, eq_comm]

instance (tree : FileTree) (p q : Path) : Decidable (tree.SamePlace p q) :=
  decidable_of_iff _ samePlace_iff.symm

end FileTree

end AddonRegistry
