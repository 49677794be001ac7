import AddonRegistry.FileTree.Place
import Mathlib.Tactic.Common
import Mathlib.Data.List.DropRight

/-!
# The stretches of a path

A path is the same thing as the list of its stretches, and its steps are read off them one by one.
What is above a path is therefore a shorter list of stretches, and the way to it is the beginning of
the way to the path.

* `joinWithSlashes_splitAtSlashes`, `splitAtSlashes_joinWithSlashes` — text and stretches.
* `steps_ne_nil` — a path that asks for no folder takes at least one step.
* **`Above.of_parent?`** — the parent of a path: a shorter text, and fewer steps of the same walk.
-/

namespace AddonRegistry.Path

/-! ## Text and stretches -/

lemma splitAtSlashes_ne_nil (text : List Char) : splitAtSlashes text ≠ [] := by
  cases text with
  | nil => simp [splitAtSlashes]
  | cons c rest =>
      rw [splitAtSlashes]
      split_ifs
      · simp
      · split <;> simp

lemma joinWithSlashes_cons {stretch : List Char} {rest : List (List Char)} (h : rest ≠ []) :
    joinWithSlashes (stretch :: rest) = stretch ++ '/' :: joinWithSlashes rest := by
  obtain ⟨next, others, rfl⟩ := List.exists_cons_of_ne_nil h
  rfl

@[simp] lemma joinWithSlashes_splitAtSlashes :
    ∀ text, joinWithSlashes (splitAtSlashes text) = text
  | [] => rfl
  | c :: rest => by
      have ih := joinWithSlashes_splitAtSlashes rest
      rw [splitAtSlashes]
      split_ifs with hc
      · rw [joinWithSlashes_cons (splitAtSlashes_ne_nil rest), ih, hc, List.nil_append]
      · split
        · next h => exact absurd h (splitAtSlashes_ne_nil rest)
        · next stretch others h =>
            rw [h] at ih
            cases others with
            | nil => rw [← ih]; rfl
            | cons next others =>
                rw [joinWithSlashes_cons (List.cons_ne_nil _ _)] at ih ⊢
                rw [← ih, List.cons_append]

lemma slash_notMem_of_mem_splitAtSlashes :
    ∀ {text stretch : List Char}, stretch ∈ splitAtSlashes text → '/' ∉ stretch
  | [], stretch, h => by
      rw [splitAtSlashes, List.mem_singleton] at h
      simp [h]
  | c :: rest, stretch, h => by
      rw [splitAtSlashes] at h
      split_ifs at h with hc
      · rcases List.mem_cons.mp h with rfl | h
        · simp
        · exact slash_notMem_of_mem_splitAtSlashes h
      · split at h
        · next hs => exact absurd hs (splitAtSlashes_ne_nil rest)
        · next first others hs =>
            rcases List.mem_cons.mp h with rfl | h
            · have hfirst : '/' ∉ first :=
                slash_notMem_of_mem_splitAtSlashes (hs ▸ List.mem_cons_self)
              simp [Ne.symm hc, hfirst]
            · exact slash_notMem_of_mem_splitAtSlashes (hs ▸ List.mem_cons_of_mem _ h)

/-- A stretch without a slash stays one stretch. -/
lemma splitAtSlashes_of_notMem : ∀ {text : List Char}, '/' ∉ text → splitAtSlashes text = [text]
  | [], _ => rfl
  | c :: rest, h => by
      rw [List.mem_cons, not_or] at h
      rw [splitAtSlashes, if_neg (Ne.symm h.1), splitAtSlashes_of_notMem h.2]

lemma splitAtSlashes_append_slash :
    ∀ {stretch : List Char} (text : List Char), '/' ∉ stretch →
      splitAtSlashes (stretch ++ '/' :: text) = stretch :: splitAtSlashes text
  | [], text, _ => by simp [splitAtSlashes]
  | c :: rest, text, h => by
      rw [List.mem_cons, not_or] at h
      rw [List.cons_append, splitAtSlashes, if_neg (Ne.symm h.1),
        splitAtSlashes_append_slash text h.2]

lemma splitAtSlashes_joinWithSlashes :
    ∀ {stretches : List (List Char)}, stretches ≠ [] → (∀ stretch ∈ stretches, '/' ∉ stretch) →
      splitAtSlashes (joinWithSlashes stretches) = stretches
  | [], h, _ => absurd rfl h
  | [stretch], _, hs => splitAtSlashes_of_notMem (hs stretch List.mem_cons_self)
  | stretch :: next :: rest, _, hs => by
      rw [joinWithSlashes_cons (List.cons_ne_nil _ _),
        splitAtSlashes_append_slash _ (hs stretch List.mem_cons_self),
        splitAtSlashes_joinWithSlashes (List.cons_ne_nil _ _)
          fun other ho => hs other (List.mem_cons_of_mem _ ho)]

lemma mem_joinWithSlashes {c : Char} :
    ∀ {stretches : List (List Char)}, c ∈ joinWithSlashes stretches →
      c = '/' ∨ ∃ stretch ∈ stretches, c ∈ stretch
  | [], h => by simp [joinWithSlashes] at h
  | [stretch], h => Or.inr ⟨stretch, List.mem_cons_self, h⟩
  | stretch :: next :: rest, h => by
      rw [joinWithSlashes_cons (List.cons_ne_nil _ _), List.mem_append, List.mem_cons] at h
      rcases h with h | rfl | h
      · exact Or.inr ⟨stretch, List.mem_cons_self, h⟩
      · exact Or.inl rfl
      · exact (mem_joinWithSlashes h).imp id
          fun ⟨other, ho, hc⟩ => ⟨other, List.mem_cons_of_mem _ ho, hc⟩

/-- Fewer stretches are the beginning of the text. -/
lemma joinWithSlashes_prefix (dropped : List (List Char)) :
    ∀ kept, joinWithSlashes kept <+: joinWithSlashes (kept ++ dropped)
  | [] => List.nil_prefix
  | [stretch] => by
      cases dropped with
      | nil => simp
      | cons next rest => exact ⟨'/' :: joinWithSlashes (next :: rest), rfl⟩
  | stretch :: next :: rest => by
      have hkept : joinWithSlashes (stretch :: next :: rest)
          = stretch ++ '/' :: joinWithSlashes (next :: rest) := rfl
      have hall : joinWithSlashes (stretch :: (next :: rest ++ dropped))
          = stretch ++ '/' :: joinWithSlashes (next :: rest ++ dropped) := rfl
      rw [List.cons_append, hkept, hall, List.prefix_append_right_inj, List.cons_prefix_cons]
      exact ⟨rfl, joinWithSlashes_prefix dropped (next :: rest)⟩

/-! ## Steps -/

lemma isSome_stepOf?_iff {stretch : List Char} : (stepOf? stretch).isSome ↔ stretch ≠ [] := by
  rw [stepOf?]
  split_ifs <;> simp_all

/-- A stretch that says something takes a step. -/
lemma isSome_stepOf?_of_not_isIdle {stretch : List Char} (h : isIdle stretch = false) :
    (stepOf? stretch).isSome := by
  rw [isSome_stepOf?_iff]
  rintro rfl
  simp [isIdle] at h

/-- A path that asks for no folder and is not empty has a last name on the way. -/
lemma steps_ne_nil {p : Path} (hne : p.text ≠ "") (he : p.endsInSlash = false) : p.steps ≠ [] := by
  intro hs
  have hempty : ∀ stretch ∈ splitAtSlashes p.text.toList, stretch = [] := by
    intro stretch hm
    by_contra hn
    obtain ⟨step, hstep⟩ := Option.isSome_iff_exists.mp (isSome_stepOf?_iff.mpr hn)
    have hmem : step ∈ p.steps := List.mem_filterMap.mpr ⟨stretch, hm, hstep⟩
    simp [hs] at hmem
  have hlist : p.text.toList ≠ [] := by simpa using hne
  have hlast : p.text.toList.getLast hlist ∈ joinWithSlashes (splitAtSlashes p.text.toList) := by
    rw [joinWithSlashes_splitAtSlashes]
    exact List.getLast_mem hlist
  rcases mem_joinWithSlashes hlast with hslash | ⟨stretch, hm, hc⟩
  · rw [endsInSlash, List.getLast?_eq_getLast_of_ne_nil hlist, hslash] at he
    simp at he
  · rw [hempty stretch hm] at hc
    simp at hc

/-- A path that takes no step is a row of slashes. -/
lemma isAbsolute_of_steps_eq_nil {p : Path} (hne : p.text ≠ "") (hs : p.steps = []) :
    p.isAbsolute := by
  have hlist : p.text.toList ≠ [] := by simpa using hne
  obtain ⟨c, rest, hc⟩ := List.exists_cons_of_ne_nil hlist
  have hslash : c = '/' := by
    by_contra hn
    -- the first stretch would begin with the character, and so take a step
    have hfirst : ∃ stretch ∈ splitAtSlashes p.text.toList, stretch ≠ [] := by
      rw [hc, splitAtSlashes, if_neg hn]
      split <;> simp
    obtain ⟨stretch, hm, hstretch⟩ := hfirst
    obtain ⟨step, hstep⟩ := Option.isSome_iff_exists.mp (isSome_stepOf?_iff.mpr hstretch)
    have hmem : step ∈ p.steps := List.mem_filterMap.mpr ⟨stretch, hm, hstep⟩
    simp [hs] at hmem
  simp [isAbsolute, hc, hslash]

/-! ## Parents -/

/-- A folder that a path goes through: its text is the beginning of the path, and so is the way to
it. -/
structure Above (folder p : Path) : Prop where
  beginning : folder.text.toList <+: p.text.toList
  steps : ∃ more, more ≠ [] ∧ p.steps = folder.steps ++ more

/-- What is left of a body when its last telling stretch and the idle ones around it are gone. -/
lemma body_eq_of_dropWhile {body above : List (List Char)} {last : List Char}
    (h : body.reverse.dropWhile isIdle = last :: above) :
    ∃ dropped, body = trimEnd above.reverse ++ dropped ∧
      ∃ stretch ∈ dropped, isIdle stretch = false := by
  have hlast : isIdle last = false := by
    have := List.head_dropWhile_not isIdle (l := body.reverse) (by simp [h])
    simpa [h] using this
  have hbody : body = above.reverse ++ last :: (body.reverse.takeWhile isIdle).reverse := by
    have hsplit := congrArg List.reverse (List.takeWhile_append_dropWhile (p := isIdle) (l := body.reverse))
    rw [h, List.reverse_append, List.reverse_reverse] at hsplit
    simpa using hsplit.symm
  obtain ⟨idle, hi⟩ : trimEnd above.reverse <+: above.reverse := List.rdropWhile_prefix isIdle _
  refine ⟨idle ++ last :: (body.reverse.takeWhile isIdle).reverse, ?_, last, by simp, hlast⟩
  rw [← List.append_assoc, hi]
  exact hbody

/-- The steps of a path that is spelled by stretches. -/
lemma steps_of_stretches {p : Path} {stretches : List (List Char)} (hne : stretches ≠ [])
    (hslash : ∀ stretch ∈ stretches, '/' ∉ stretch)
    (htext : p.text.toList = joinWithSlashes stretches) :
    p.steps = stretches.filterMap stepOf? := by
  rw [steps, htext, splitAtSlashes_joinWithSlashes hne hslash]

/-- The first stretches of a path lead to what is above it, if something is left to be said. -/
lemma above_of_stretches {folder p : Path} {kept dropped : List (List Char)} {stretch : List Char}
    (hp : splitAtSlashes p.text.toList = kept ++ dropped)
    (hfolder : folder.text.toList = joinWithSlashes kept) (hm : stretch ∈ dropped)
    (hstretch : (stepOf? stretch).isSome) : Above folder p := by
  have htext : p.text.toList = joinWithSlashes (kept ++ dropped) := by
    rw [← hp, joinWithSlashes_splitAtSlashes]
  obtain ⟨step, hstep⟩ := Option.isSome_iff_exists.mp hstretch
  refine ⟨?_, dropped.filterMap stepOf?,
    List.ne_nil_of_mem (List.mem_filterMap.mpr ⟨stretch, hm, hstep⟩), ?_⟩
  · rw [hfolder, htext]
    exact joinWithSlashes_prefix dropped kept
  · have hsteps : folder.steps = kept.filterMap stepOf? := by
      by_cases hk : kept = []
      · subst hk
        rw [steps, hfolder]
        rfl
      · refine steps_of_stretches hk (fun other ho => ?_) hfolder
        exact slash_notMem_of_mem_splitAtSlashes (hp ▸ List.mem_append_left _ ho)
    rw [hsteps, steps, hp, List.filterMap_append]

/-- The root is above every absolute path that goes on behind the slash. -/
lemma above_root {p : Path} {body : List (List Char)} {stretch : List Char}
    (hp : splitAtSlashes p.text.toList = [] :: body) (hm : stretch ∈ body)
    (hstretch : (stepOf? stretch).isSome) : Above ⟨"/"⟩ p := by
  have htext : p.text.toList = joinWithSlashes ([] :: body) := by
    rw [← hp, joinWithSlashes_splitAtSlashes]
  rw [joinWithSlashes_cons (List.ne_nil_of_mem hm), List.nil_append] at htext
  obtain ⟨step, hstep⟩ := Option.isSome_iff_exists.mp hstretch
  refine ⟨?_, p.steps, ?_, rfl⟩
  · rw [htext]
    exact ⟨_, rfl⟩
  · rw [steps, hp]
    exact List.ne_nil_of_mem
      (List.mem_filterMap.mpr ⟨stretch, List.mem_cons_of_mem _ hm, hstep⟩)

/-- What a front and the first stretches of a body spell is above the path. -/
lemma above_of_frontAndBody {p : Path} {front : Option Component} {body : List (List Char)}
    {last : List Char} {above : List (List Char)} (hfront : p.frontAndBody = (front, body))
    (hdrop : body.reverse.dropWhile isIdle = last :: above) :
    Above (ofFrontAndBody front (trimEnd above.reverse)) p := by
  obtain ⟨dropped, hbody, stretch, hm, hidle⟩ := body_eq_of_dropWhile hdrop
  have hstep := isSome_stepOf?_of_not_isIdle hidle
  generalize trimEnd above.reverse = kept at hbody
  rw [frontAndBody] at hfront
  split at hfront
  · next second rest hs =>
      obtain ⟨rfl, rfl⟩ := Prod.mk.inj hfront
      rw [hbody] at hs
      cases kept with
      | nil => exact above_root hs hm hstep
      | cons next others =>
          have hp : splitAtSlashes p.text.toList = ([] :: next :: others) ++ dropped := hs
          exact above_of_stretches hp (by simp [ofFrontAndBody, joinWithSlashes]) hm hstep
  · next rest hs =>
      obtain ⟨rfl, rfl⟩ := Prod.mk.inj hfront
      rw [hbody] at hs
      cases kept with
      | nil =>
          have hp : splitAtSlashes p.text.toList = [['.']] ++ dropped := hs
          exact above_of_stretches hp rfl hm hstep
      | cons next others =>
          have hp : splitAtSlashes p.text.toList = (['.'] :: next :: others) ++ dropped := hs
          exact above_of_stretches hp
            (by simp [ofFrontAndBody, joinWithSlashes, Component.text]) hm hstep
  · obtain ⟨rfl, hs⟩ := Prod.mk.inj hfront
    rw [hbody] at hs
    exact above_of_stretches hs (by simp [ofFrontAndBody]) hm hstep

/-- **The parent of a path is above it.** -/
lemma Above.of_parent? {folder p : Path} (h : p.parent? = some folder) : Above folder p := by
  rw [parent?] at h
  rcases hfront : p.frontAndBody with ⟨front, body⟩
  rw [hfront] at h
  dsimp only at h
  split at h
  · next last above hdrop =>
      cases h
      exact above_of_frontAndBody hfront hdrop
  · -- nothing but a dot in front and idle stretches: what is above is the empty path
    split_ifs at h with hcurrent
    cases h
    subst hcurrent
    rw [frontAndBody] at hfront
    split at hfront
    · simp at hfront
    · next rest hs =>
        have hp : splitAtSlashes p.text.toList = [] ++ (['.'] :: rest) := hs
        exact above_of_stretches hp rfl List.mem_cons_self rfl
    · simp at hfront

lemma Above.trans {folder between p : Path} (hfirst : Above folder between)
    (hsecond : Above between p) : Above folder p := by
  obtain ⟨more, hmore, hsteps⟩ := hfirst.steps
  obtain ⟨last, -, hlast⟩ := hsecond.steps
  refine ⟨hfirst.beginning.trans hsecond.beginning, more ++ last, by simp [hmore], ?_⟩
  rw [hlast, hsteps, List.append_assoc]

lemma above_of_mem_parents : ∀ {count : Nat} {folder p : Path}, folder ∈ parents count p →
    Above folder p
  | 0, folder, p, h => by simp [parents] at h
  | count + 1, folder, p, h => by
      rw [parents] at h
      split at h
      · next nearest hparent =>
          rcases List.mem_cons.mp h with rfl | h
          · exact .of_parent? hparent
          · exact (above_of_mem_parents h).trans (.of_parent? hparent)
      · simp at h

/-- The parent of a path and everything above that is above the path. -/
lemma above_of_mem_ancestors {folder parent p : Path} (hparent : p.parent? = some parent)
    (h : folder ∈ parent.ancestors) : Above folder p := by
  rcases List.mem_cons.mp h with rfl | h
  · exact .of_parent? hparent
  · exact (above_of_mem_parents h).trans (.of_parent? hparent)

end AddonRegistry.Path
