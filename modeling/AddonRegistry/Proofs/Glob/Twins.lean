import AddonRegistry.Proofs.FileTree.Reaches
import AddonRegistry.Proofs.Glob.Below
import Mathlib.Data.List.Forall2

/-!
# Searches below two spellings of a folder

Two paths that lead to one folder are searched in lockstep: behind the same names, both lead to the same
place, and so the legs of a pattern write the same names behind them.  Only the length of the paths tells
the two searches apart, since a path that is too long leads nowhere; so the files that are found have to be
short enough under either spelling.

* `LeadsTo` — that a path leads to a folder, and that names are written behind it as they are.
* **`LeadsTo.locate_eq`** — behind the same names, two such paths lead to the same place.
* `span`, `span_foldl_step` — how long a path is with names behind it.
* **`forall₂_hits`** — what is found below two spellings of a folder.
-/

namespace AddonRegistry.Glob

open FileTree (spellingFault? spellingFault?_eq_none_iff)

variable {tree : FileTree} {root base other p q : Path} {name : String} {names : List String}
  {place : List String}

/-! ## Length -/

/-- The length of a path with a slash at its end. -/
def span (p : Path) : Nat := p.text.utf8ByteSize + if p.endsInSlash then 0 else 1

lemma size_le_span (p : Path) : p.text.utf8ByteSize ≤ span p := Nat.le_add_right _ _

lemma span_le (p : Path) : span p ≤ p.text.utf8ByteSize + 1 := by
  rw [span]
  split_ifs <;> omega

/-- How much longer a path gets by a name. -/
def spanOf (name : String) : Nat := if name = "" then 0 else name.utf8ByteSize + 1

/-- How much longer a path gets by names. -/
def spansOf : List String → Nat
  | [] => 0
  | name :: names => spanOf name + spansOf names

lemma endsInSlash_step (hp : Undotted p) (hname : '/' ∉ name.toList) :
    (step p name).endsInSlash = decide (name = "") := by
  rw [hp.step_eq, Path.endsInSlash_join hp.nonempty (isAbsolute_of_notMem hname)]
  split_ifs with hempty
  · exact (decide_eq_true hempty).symm
  · rw [Path.endsInSlash, decide_eq_false hempty, decide_eq_false_iff_not]
    exact fun h => hname (List.mem_of_getLast? h)

lemma span_step (hp : Undotted p) (hname : '/' ∉ name.toList) :
    span (step p name) = span p + spanOf name := by
  have htext : (step p name).text = p.text ++ (if p.endsInSlash then "" else "/") ++ name := by
    rw [hp.step_eq, Path.text_join hp.nonempty (isAbsolute_of_notMem hname)]
  have hslash : (if p.endsInSlash then "" else "/").utf8ByteSize = if p.endsInSlash then 0 else 1 := by
    split_ifs <;> rfl
  rw [span, span, endsInSlash_step hp hname, htext, String.utf8ByteSize_append,
    String.utf8ByteSize_append, hslash, spanOf]
  by_cases hempty : name = ""
  · subst hempty
    rfl
  · rw [if_neg hempty, decide_eq_false hempty, if_neg Bool.false_ne_true, Nat.add_assoc, Nat.add_assoc]

/-- How long a path is with names behind it. -/
lemma span_foldl_step (hnames : ∀ name ∈ names, '/' ∉ name.toList) (hp : Undotted p) :
    span (names.foldl step p) = span p + spansOf names := by
  induction names generalizing p with
  | nil => rfl
  | cons name names ih =>
      rw [List.forall_mem_cons] at hnames
      rw [List.foldl_cons, ih hnames.2 (hp.step hnames.1), span_step hp hnames.1, spansOf, Nat.add_assoc]

lemma size_le_size_foldl_step (hnames : ∀ name ∈ names, '/' ∉ name.toList) (hp : Undotted p) :
    p.text.utf8ByteSize ≤ (names.foldl step p).text.utf8ByteSize := by
  induction names generalizing p with
  | nil => exact Nat.le_refl _
  | cons name names ih =>
      rw [List.forall_mem_cons] at hnames
      refine Nat.le_trans ?_ (ih hnames.2 (hp.step hnames.1))
      rw [hp.step_eq, Path.text_join hp.nonempty (isAbsolute_of_notMem hnames.1),
        String.utf8ByteSize_append, String.utf8ByteSize_append]
      omega

/-! ## Places -/

/-- That a path leads to a folder, and that names are written behind it as they are. -/
structure LeadsTo (tree : FileTree) (base : Path) (place : List String) : Prop
    extends tree.Reaches base place where
  undotted : Undotted base

lemma nul_mem_foldl_step (hnames : ∀ name ∈ names, '/' ∉ name.toList) (hp : Undotted p) :
    '\x00' ∈ (names.foldl step p).text.toList ↔
      '\x00' ∈ p.text.toList ∨ ∃ name ∈ names, '\x00' ∈ name.toList := by
  induction names generalizing p with
  | nil => simp
  | cons name names ih =>
      rw [List.forall_mem_cons] at hnames
      have hslash : '\x00' ∉ if p.endsInSlash then [] else ['/'] := by split_ifs <;> decide
      rw [List.foldl_cons, ih hnames.2 (hp.step hnames.1), hp.step_eq,
        Path.toList_join hp.nonempty (isAbsolute_of_notMem hnames.1), List.mem_append, List.mem_append,
        List.exists_mem_cons_iff]
      simp only [hslash, or_false, or_assoc]

/-- What is wrong with the spelling of a path with names behind it, if it is not too long. -/
lemma spellingFault?_foldl_step (hbase : Undotted base) (hspelled : spellingFault? base = none)
    (hnames : ∀ name ∈ names, '/' ∉ name.toList)
    (hfits : (names.foldl step base).text.utf8ByteSize ≤ longestPath) :
    spellingFault? (names.foldl step base) =
      if ∃ name ∈ names, '\x00' ∈ name.toList then some .nulCharacter else none := by
  obtain ⟨hnul, -, -⟩ := spellingFault?_eq_none_iff.mp hspelled
  have hmem := nul_mem_foldl_step hnames hbase
  split_ifs with h
  · rw [spellingFault?, if_pos (List.contains_iff_mem.mpr (hmem.mpr (.inr h)))]
  · exact spellingFault?_eq_none_iff.mpr
      ⟨fun hc => (hmem.mp hc).elim hnul h, (hbase.foldl hnames).nonempty, hfits⟩

/-- The steps that names behind a folder take.  An empty one at the end is a slash, which asks for a
folder. -/
def stepsOf (names : List String) : List Step :=
  (names.map String.toList).filterMap Path.stepOf? ++ if names.getLast? = some "" then [.stay] else []

/-- Where a path leads with names behind it. -/
lemma LeadsTo.locate (h : LeadsTo tree base place) (hnames : ∀ name ∈ names, '/' ∉ name.toList)
    (hspelled : spellingFault? (names.foldl step base) = none) :
    tree.locate (names.foldl step base) = tree.walk place (stepsOf names) := by
  have hstart : tree.start (names.foldl step base) = tree.start base := by
    rw [FileTree.start, FileTree.start, isAbsolute_foldl_step hnames h.undotted]
  have hback (back : List Step) :
      tree.walk (tree.start base) (base.steps ++ back) = tree.walk place back :=
    FileTree.walk_append_of_ok h.walk
  rw [FileTree.locate, FileTree.follow, hspelled, hstart, Path.allSteps, steps_foldl_step hnames h.undotted]
  dsimp only
  rcases List.eq_nil_or_concat names with rfl | ⟨front, last, rfl⟩
  · -- a slash at the end of the folder itself asks for a folder, and there is one
    have hstay : tree.walk place [.stay] = .ok place :=
      FileTree.walk_cons_eq_ok.mpr ⟨h.folder, trivial, rfl⟩
    have hnone : stepsOf [] = [] := rfl
    rw [hnone, List.map_nil, List.filterMap_nil, List.append_nil]
    split_ifs
    · rw [hback, hstay, FileTree.walk_nil]
    · rw [h.walk, FileTree.walk_nil]
  · rw [List.concat_eq_append] at hnames ⊢
    have hslash : ((front ++ [last]).foldl step base).endsInSlash = decide (last = "") := by
      rw [List.foldl_append]
      exact endsInSlash_step (h.undotted.foldl fun name hm => hnames name (List.mem_append_left _ hm))
        (hnames last (by simp))
    rw [hslash, stepsOf]
    simp only [List.getLast?_concat, Option.some.injEq, decide_eq_true_eq]
    split_ifs
    · rw [List.append_assoc, hback]
    · rw [hback, List.append_nil]

/-- **Behind the same names**, two paths to a folder lead to the same place. -/
lemma LeadsTo.locate_eq (h : LeadsTo tree base place) (hother : LeadsTo tree other place)
    (hnames : ∀ name ∈ names, '/' ∉ name.toList)
    (hfits : (names.foldl step base).text.utf8ByteSize ≤ longestPath)
    (hfits' : (names.foldl step other).text.utf8ByteSize ≤ longestPath) :
    tree.locate (names.foldl step base) = tree.locate (names.foldl step other) := by
  have hspelled := spellingFault?_foldl_step h.undotted h.spelled hnames hfits
  have hspelled' := spellingFault?_foldl_step hother.undotted hother.spelled hnames hfits'
  split_ifs at hspelled hspelled' with hnul
  · rw [FileTree.locate, FileTree.locate, FileTree.follow, FileTree.follow, hspelled, hspelled']
  · rw [h.locate hnames hspelled, hother.locate hnames hspelled']

lemma LeadsTo.find_eq (h : LeadsTo tree base place) (hother : LeadsTo tree other place)
    (hnames : ∀ name ∈ names, '/' ∉ name.toList)
    (hfits : (names.foldl step base).text.utf8ByteSize ≤ longestPath)
    (hfits' : (names.foldl step other).text.utf8ByteSize ≤ longestPath) :
    tree.find (names.foldl step base) = tree.find (names.foldl step other) := by
  rw [FileTree.find, FileTree.find, h.locate_eq hother hnames hfits hfits']

/-! ## What legs lead to -/

/-- The files that legs lead to. -/
def hits (tree : FileTree) (legs : List Leg) (p : Path) : List Path :=
  (expand tree legs p).filter tree.isFile

/-- Two paths that are written from two spellings of a folder by the same names. -/
def Twin (base other p q : Path) : Prop :=
  ∃ names : List String, (∀ name ∈ names, '/' ∉ name.toList) ∧
    p = names.foldl step base ∧ q = names.foldl step other

/-- That files or folders leave room for another spelling of the folder that they are found below. -/
def Room (files : List Path) (other : Path) : Prop :=
  ∀ file ∈ files, file.text.utf8ByteSize + other.text.utf8ByteSize < longestPath

instance (files : List Path) (other : Path) : Decidable (Room files other) := List.decidableBAll _ _

/-- That legs write no slashes. -/
def Slashless (legs : List Leg) : Prop := ∀ leg ∈ legs, leg.Names fun name => '/' ∉ name.toList

lemma forall₂_flatMap {α β γ : Type} {R : β → γ → Prop} {f : α → List β} {g : α → List γ} {l : List α}
    (h : ∀ x ∈ l, List.Forall₂ R (f x) (g x)) : List.Forall₂ R (l.flatMap f) (l.flatMap g) := by
  induction l with
  | nil => exact .nil
  | cons x l ih =>
      rw [List.forall_mem_cons] at h
      rw [List.flatMap_cons, List.flatMap_cons]
      exact List.rel_append h.1 (ih h.2)

lemma size_le_of_isFile (h : tree.isFile p = true) : p.text.utf8ByteSize ≤ longestPath := by
  obtain ⟨place, content, hl, -⟩ := FileTree.isFile_iff.mp h
  exact (spellingFault?_eq_none_iff.mp (FileTree.follow_eq_ok.mp hl).1).2.2

lemma one_le_span (hne : p.text ≠ "") : 1 ≤ span p := by
  have hsize : p.text.utf8ByteSize ≠ 0 := fun h => hne (String.utf8ByteSize_eq_zero_iff.mp h)
  rw [span]
  omega

/-- Where a path leaves room, neither it nor its twin is too long, and nothing on the way there is. -/
lemma fits_of_room {more : List String} (hbase : Undotted base) (hother : Undotted other)
    (hnames : ∀ name ∈ names, '/' ∉ name.toList) (hmore : ∀ name ∈ more, '/' ∉ name.toList)
    (hroom : ((names ++ more).foldl step base).text.utf8ByteSize + other.text.utf8ByteSize < longestPath) :
    (names.foldl step base).text.utf8ByteSize ≤ longestPath ∧
      (names.foldl step other).text.utf8ByteSize ≤ longestPath := by
  have hall : ∀ name ∈ names ++ more, '/' ∉ name.toList := List.forall_mem_append.mpr ⟨hnames, hmore⟩
  have hgrown := size_le_size_foldl_step hmore (hbase.foldl hnames)
  have hgrown' := size_le_size_foldl_step hmore (hother.foldl hnames)
  rw [← List.foldl_append] at hgrown hgrown'
  -- the twin is hardly longer than both the path and the other folder together
  have hspan := span_foldl_step hall hbase
  have hspan' := span_foldl_step hall hother
  have h1 := span_le ((names ++ more).foldl step base)
  have h2 := span_le other
  have h3 := one_le_span hbase.nonempty
  have h4 := size_le_span ((names ++ more).foldl step other)
  omega

/-- **On the way to a path that leaves room**, the same is found under two spellings of a folder. -/
lemma LeadsTo.find_eq_of_room {more : List String} (h : LeadsTo tree base place)
    (hother : LeadsTo tree other place) (hnames : ∀ name ∈ names, '/' ∉ name.toList)
    (hmore : ∀ name ∈ more, '/' ∉ name.toList)
    (hroom : ((names ++ more).foldl step base).text.utf8ByteSize + other.text.utf8ByteSize < longestPath) :
    tree.find (names.foldl step base) = tree.find (names.foldl step other) := by
  obtain ⟨hfits, hfits'⟩ := fits_of_room h.undotted hother.undotted hnames hmore hroom
  exact h.find_eq hother hnames hfits hfits'

lemma hits_cons {leg : Leg} {rest : List Leg} (hp : Undotted p) : hits tree (leg :: rest) p =
    (leg.writes tree p).flatMap fun names => hits tree rest (names.foldl step p) := by
  rw [hits, expand_cons hp, List.filter_flatMap]
  rfl

section

variable {legs : List Leg} (hnamed : tree.Named)

include hnamed

lemma exists_of_mem_hits (hlegs : Slashless legs) (hp : Undotted p) (h : q ∈ hits tree legs p) :
    ∃ names : List String, (∀ name ∈ names, '/' ∉ name.toList) ∧ q = names.foldl step p :=
  exists_of_mem_expand hnamed (fun _ hname => hname.2.2.2) (fun _ => id) hlegs hp (List.mem_filter.mp h).1

/-- Nothing that leaves room is found behind a path that is too long, or whose twin is. -/
lemma hits_eq_nil_of_long (hbase : Undotted base) (hother : Undotted other) (hlegs : Slashless legs)
    (hnames : ∀ name ∈ names, '/' ∉ name.toList) (hroom : Room (hits tree legs (names.foldl step base)) other)
    (hlong : ¬ ((names.foldl step base).text.utf8ByteSize ≤ longestPath ∧
      (names.foldl step other).text.utf8ByteSize ≤ longestPath)) :
    hits tree legs (names.foldl step base) = [] := by
  refine List.eq_nil_iff_forall_not_mem.mpr fun q hq => hlong ?_
  obtain ⟨more, hmore, rfl⟩ := exists_of_mem_hits hnamed hlegs (hbase.foldl hnames) hq
  have hfound := hroom _ hq
  rw [← List.foldl_append] at hfound
  exact fits_of_room hbase hother hnames hmore hfound

end

/-! ## Lockstep -/

lemma leadsOn_eq (hfind : tree.find p = tree.find q)
    (hstep : tree.find (step p name) = tree.find (step q name)) :
    leadsOn tree p name = leadsOn tree q name := by
  rw [leadsOn, leadsOn, FileTree.holds, FileTree.holds, FileTree.isFolder, FileTree.isFolder, hfind, hstep]

/-- A leg writes the same behind paths to one place, if it is not a name that leads on from one of them
only. -/
lemma writes_eq_or (hfind : tree.find p = tree.find q) (leg : Leg) :
    leg.writes tree p = leg.writes tree q ∨
      ∃ name, leg = .named name ∧ leadsOn tree p name ≠ leadsOn tree q name := by
  cases leg with
  | named name =>
      by_cases h : leadsOn tree p name = leadsOn tree q name
      · left
        rw [Leg.writes, Leg.writes, h]
      · exact .inr ⟨name, rfl, h⟩
  | fitting pattern =>
      left
      rw [Leg.writes, Leg.writes, FileTree.isFolder, FileTree.isFolder, visible, visible, hfind]
  | deep pattern =>
      left
      rw [Leg.writes, Leg.writes, below, below, hfind]
  | folders =>
      left
      rw [Leg.writes, Leg.writes, below, below, hfind]

section

variable {leg : Leg} {legs rest : List Leg} (hnamed : tree.Named) (hbase : LeadsTo tree base place)
  (hother : LeadsTo tree other place) (hnames : ∀ name ∈ names, '/' ∉ name.toList)

include hnamed hbase hother hnames

/-- Behind paths that are too long, searches find nothing in lockstep. -/
lemma forall₂_hits_of_fits (hlegs : Slashless legs)
    (hroom : Room (hits tree legs (names.foldl step base)) other)
    (hroom' : Room (hits tree legs (names.foldl step other)) base)
    (h : tree.find (names.foldl step base) = tree.find (names.foldl step other) →
      List.Forall₂ (Twin base other) (hits tree legs (names.foldl step base))
        (hits tree legs (names.foldl step other))) :
    List.Forall₂ (Twin base other) (hits tree legs (names.foldl step base))
      (hits tree legs (names.foldl step other)) := by
  by_cases hfits : (names.foldl step base).text.utf8ByteSize ≤ longestPath ∧
      (names.foldl step other).text.utf8ByteSize ≤ longestPath
  · exact h (hbase.find_eq hother hnames hfits.1 hfits.2)
  · rw [hits_eq_nil_of_long hnamed hbase.undotted hother.undotted hlegs hnames hroom hfits,
      hits_eq_nil_of_long hnamed hother.undotted hbase.undotted hlegs hnames hroom' fun h => hfits h.symm]
    exact .nil

/-- A name that leads on from one of two paths to one place only leads to no file that leaves room. -/
lemma hits_named_eq_nil {name : String} (hslash : '/' ∉ name.toList) (hrest : Slashless rest)
    (hfind : tree.find (names.foldl step base) = tree.find (names.foldl step other))
    (hroom : Room (hits tree (.named name :: rest) (names.foldl step base)) other)
    (hleads : leadsOn tree (names.foldl step base) name ≠ leadsOn tree (names.foldl step other) name) :
    hits tree (.named name :: rest) (names.foldl step base) = [] := by
  rw [hits_cons (hbase.undotted.foldl hnames), Leg.writes] at hroom ⊢
  split_ifs at hroom ⊢ with hname
  · have hall : ∀ other ∈ names ++ [name], '/' ∉ other.toList :=
      List.forall_mem_append.mpr ⟨hnames, List.forall_mem_singleton.mpr hslash⟩
    have hlong : ¬ (((names ++ [name]).foldl step base).text.utf8ByteSize ≤ longestPath ∧
        ((names ++ [name]).foldl step other).text.utf8ByteSize ≤ longestPath) := by
      rintro ⟨hfits, hfits'⟩
      have hstep := hbase.find_eq hother hall hfits hfits'
      rw [List.foldl_append, List.foldl_append] at hstep
      exact hleads (leadsOn_eq hfind hstep)
    rw [List.flatMap_singleton, ← List.foldl_append] at hroom ⊢
    exact hits_eq_nil_of_long hnamed hbase.undotted hother.undotted hrest hall hroom hlong
  · rfl

end

/-- **Searches below two spellings of a folder** find the same files, written alike, if these leave room
for the other spelling. -/
theorem forall₂_hits (hnamed : tree.Named) (hbase : LeadsTo tree base place)
    (hother : LeadsTo tree other place) : ∀ {legs : List Leg} {names : List String}, Slashless legs →
    (∀ name ∈ names, '/' ∉ name.toList) → Room (hits tree legs (names.foldl step base)) other →
    Room (hits tree legs (names.foldl step other)) base →
    List.Forall₂ (Twin base other) (hits tree legs (names.foldl step base))
      (hits tree legs (names.foldl step other)) := by
  intro legs
  induction legs with
  | nil =>
      intro names hlegs hnames hroom hroom'
      refine forall₂_hits_of_fits hnamed hbase hother hnames hlegs hroom hroom' fun hfind => ?_
      have hfile : tree.isFile (names.foldl step base) = tree.isFile (names.foldl step other) := by
        rw [FileTree.isFile, FileTree.isFile, hfind]
      rw [hits, hits, expand, expand, List.filter_singleton, List.filter_singleton, hfile]
      cases tree.isFile (names.foldl step other) with
      | true => exact .cons ⟨names, hnames, rfl, rfl⟩ .nil
      | false => exact .nil
  | cons leg rest ih =>
      intro names hlegs hnames hroom hroom'
      refine forall₂_hits_of_fits hnamed hbase hother hnames hlegs hroom hroom' fun hfind => ?_
      obtain ⟨hleg, hrest⟩ := List.forall_mem_cons.mp hlegs
      rcases writes_eq_or hfind leg with hwrites | ⟨name, rfl, hleads⟩
      · rw [hits_cons (hbase.undotted.foldl hnames)] at hroom ⊢
        rw [hits_cons (hother.undotted.foldl hnames), ← hwrites] at hroom' ⊢
        refine forall₂_flatMap fun more hmore => ?_
        have hslash := (hleg.of_mem_writes hnamed (fun _ hname => hname.2.2.2) hmore).2
        rw [← List.foldl_append, ← List.foldl_append]
        refine ih hrest (List.forall_mem_append.mpr ⟨hnames, hslash⟩) (fun file hf => hroom file ?_)
          fun file hf => hroom' file ?_
        · rw [List.foldl_append] at hf
          exact List.mem_flatMap_of_mem hmore hf
        · rw [List.foldl_append] at hf
          exact List.mem_flatMap_of_mem hmore hf
      · rw [hits_named_eq_nil hnamed hbase hother hnames hleg hrest hfind hroom hleads,
          hits_named_eq_nil hnamed hother hbase hnames hleg hrest hfind.symm hroom' hleads.symm]
        exact .nil

end AddonRegistry.Glob
