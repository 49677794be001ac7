import AddonRegistry.Body
import AddonRegistry.Proofs.Paths.Stretches

/-!
# Paths relative to another

What is left of a path behind the components of another one is spelled by some of its stretches, and
read again these are the components that are left.  So how a path is written relative to another
depends on the components of both alone, and the two ways to find it agree.

* `components_ofFrontAndBody` — what a front and stretches spell.
* **`map_components_rest?`** — what is left of a path behind another one.
* **`relativeTo_eq`** — a relative path goes up to where the two paths part, and down again.
* `importPath_congr` — spellings of one path are imported from the same place.
* `importPath_eq_of_append` — what is below two roots in the same way is imported from the same place.
* `importPath_of_append` — where what lies below the root is imported from.
-/

namespace AddonRegistry

namespace Path

/-! ## What stretches spell -/

lemma componentOf?_of_isIdle {stretch : List Char} (h : isIdle stretch = true) :
    componentOf? stretch = none := by
  rw [componentOf?, if_pos h]

lemma filterMap_dropWhile_isIdle (body : List (List Char)) :
    (body.dropWhile isIdle).filterMap componentOf? = body.filterMap componentOf? := by
  induction body with
  | nil => rfl
  | cons stretch rest ih =>
      cases h : isIdle stretch with
      | true => rw [List.dropWhile_cons_of_pos h, ih, List.filterMap_cons_none (componentOf?_of_isIdle h)]
      | false => rw [List.dropWhile_cons_of_neg (by simp [h])]

/-- Idle stretches at the end say nothing. -/
lemma filterMap_trimEnd (body : List (List Char)) :
    (trimEnd body).filterMap componentOf? = body.filterMap componentOf? := by
  rw [trimEnd, List.filterMap_reverse, filterMap_dropWhile_isIdle, List.filterMap_reverse,
    List.reverse_reverse]

/-- A stretch that is not idle stands for a component. -/
lemma isSome_componentOf? {stretch : List Char} (h : isIdle stretch = false) :
    (componentOf? stretch).isSome := by
  rw [componentOf?, h]
  split_ifs <;> simp_all

lemma filterMap_dropComponents : ∀ (count : Nat) (body : List (List Char)),
    (dropComponents count body).filterMap componentOf? = (body.filterMap componentOf?).drop count
  | 0, body => by rw [dropComponents, filterMap_dropWhile_isIdle, List.drop_zero]
  | count + 1, body => by
      rw [dropComponents, filterMap_dropComponents count, ← filterMap_dropWhile_isIdle body]
      cases h : body.dropWhile isIdle with
      | nil => simp
      | cons stretch rest =>
          have hidle : isIdle stretch = false := by
            have := List.head_dropWhile_not isIdle (l := body) (by simp [h])
            simpa [h] using this
          obtain ⟨c, hc⟩ := Option.isSome_iff_exists.mp (isSome_componentOf? hidle)
          rw [List.filterMap_cons_some hc]
          rfl

/-- That stretches do not start with an idle one, which a front would be taken from. -/
def StartsTelling (body : List (List Char)) : Prop := ∀ stretch ∈ body.head?, isIdle stretch = false

lemma startsTelling_dropWhile (body : List (List Char)) : StartsTelling (body.dropWhile isIdle) := by
  intro stretch hs
  obtain ⟨rest, hr⟩ := List.head?_eq_some_iff.mp hs
  have := List.head_dropWhile_not isIdle (l := body) (by simp [hr])
  simpa [hr] using this

lemma startsTelling_dropComponents : ∀ (count : Nat) (body : List (List Char)),
    StartsTelling (dropComponents count body)
  | 0, body => startsTelling_dropWhile body
  | count + 1, _ => startsTelling_dropComponents count _

lemma isSuffix_dropComponents : ∀ (count : Nat) (body : List (List Char)),
    dropComponents count body <:+ body
  | 0, _ => List.dropWhile_suffix isIdle
  | count + 1, _ =>
      (isSuffix_dropComponents count _).trans ((List.tail_suffix _).trans (List.dropWhile_suffix isIdle))

lemma isPrefix_trimEnd (body : List (List Char)) : trimEnd body <+: body :=
  List.rdropWhile_prefix isIdle body

lemma StartsTelling.trimEnd {body : List (List Char)} (h : StartsTelling body) :
    StartsTelling (trimEnd body) := by
  intro stretch hs
  obtain ⟨rest, hr⟩ := List.head?_eq_some_iff.mp hs
  obtain ⟨idle, hi⟩ := isPrefix_trimEnd body
  rw [hr] at hi
  exact h stretch (by rw [← hi]; rfl)

section

variable {p : Path} {front : Option Component} {second stretch : List Char} {body rest : List (List Char)}

lemma components_of_frontAndBody (h : p.frontAndBody = (front, body)) :
    p.components = front.toList ++ body.filterMap componentOf? := by
  rw [components, h]

lemma frontAndBody_of_root (h : splitAtSlashes p.text.toList = [] :: second :: rest) :
    p.frontAndBody = (some .root, second :: rest) := by
  rw [frontAndBody, h]

lemma frontAndBody_of_current (h : splitAtSlashes p.text.toList = ['.'] :: rest) :
    p.frontAndBody = (some .current, rest) := by
  rw [frontAndBody, h]
  rfl

lemma frontAndBody_of_telling (h : splitAtSlashes p.text.toList = stretch :: rest)
    (hidle : isIdle stretch = false) : p.frontAndBody = (none, stretch :: rest) := by
  rw [frontAndBody, h]
  split
  · next hs =>
      cases hs
      simp [isIdle] at hidle
  · next hs =>
      cases hs
      simp [isIdle] at hidle
  · rfl

/-- What a front and stretches spell. -/
lemma components_ofFrontAndBody (hslash : ∀ stretch ∈ body, '/' ∉ stretch)
    (hfront : front = some .root ∨ front = some .current ∨ front = none ∧ StartsTelling body) :
    (ofFrontAndBody front body).components = front.toList ++ body.filterMap componentOf? := by
  cases body with
  | nil => rcases hfront with rfl | rfl | ⟨rfl, -⟩ <;> rfl
  | cons stretch rest =>
      have hsplit := splitAtSlashes_joinWithSlashes (List.cons_ne_nil stretch rest) hslash
      rcases hfront with rfl | rfl | ⟨rfl, htelling⟩
      · refine components_of_frontAndBody (frontAndBody_of_root ?_)
        have htext : (ofFrontAndBody (some .root) (stretch :: rest)).text.toList =
            '/' :: joinWithSlashes (stretch :: rest) := by
          simp [ofFrontAndBody]
        rw [htext, splitAtSlashes, if_pos rfl, hsplit]
      · refine components_of_frontAndBody (frontAndBody_of_current ?_)
        have htext : (ofFrontAndBody (some .current) (stretch :: rest)).text.toList =
            ['.'] ++ '/' :: joinWithSlashes (stretch :: rest) := by
          simp [ofFrontAndBody, Component.text]
        rw [htext, splitAtSlashes_append_slash _ (by decide), hsplit]
      · refine components_of_frontAndBody (frontAndBody_of_telling ?_ (htelling stretch rfl))
        have htext : (ofFrontAndBody none (stretch :: rest)).text.toList =
            joinWithSlashes (stretch :: rest) := by
          simp [ofFrontAndBody]
        rw [htext, hsplit]

end

/-! ## What is left of a path -/

/-- The forms that the front of a path and its body have. -/
lemma front_cases {p : Path} {front : Option Component} {body : List (List Char)}
    (h : p.frontAndBody = (front, body)) :
    (∀ stretch ∈ body, '/' ∉ stretch) ∧
      (front = some .root ∨ front = some .current ∨ front = none ∧ StartsTelling (trimEnd body)) := by
  have hslash : ∀ stretch ∈ splitAtSlashes p.text.toList, '/' ∉ stretch :=
    fun stretch hs => slash_notMem_of_mem_splitAtSlashes hs
  rw [frontAndBody] at h
  split at h
  · next second rest hs =>
      cases h
      rw [hs] at hslash
      exact ⟨fun stretch hm => hslash stretch (List.mem_cons_of_mem [] hm), .inl rfl⟩
  · next rest hs =>
      cases h
      rw [hs] at hslash
      exact ⟨fun stretch hm => hslash stretch (List.mem_cons_of_mem _ hm), .inr (.inl rfl)⟩
  · next hroot hcurrent =>
      cases h
      refine ⟨hslash, .inr (.inr ⟨rfl, ?_⟩)⟩
      obtain ⟨stretch, rest, hs⟩ := List.exists_cons_of_ne_nil (splitAtSlashes_ne_nil p.text.toList)
      rw [hs]
      by_cases hempty : stretch = []
      · -- the empty path has one stretch, which is idle
        cases rest with
        | nil =>
            rw [hempty]
            intro other ho
            cases ho
        | cons second others => exact absurd (hempty ▸ hs) (hroot second others)
      · refine StartsTelling.trimEnd fun other ho => ?_
        cases ho
        simp only [isIdle, Bool.or_eq_false_iff, decide_eq_false_iff_not]
        exact ⟨hempty, fun hdot => hcurrent rest (hdot ▸ hs)⟩

/-- **What is left of a path** behind the components of another one, if it starts with these. -/
lemma map_components_rest? (p base : Path) : (p.rest? base).map components =
    if base.components <+: p.components then some (p.components.drop base.components.length)
    else none := by
  rw [rest?]
  by_cases hprefix : base.components <+: p.components
  · rw [if_pos (List.isPrefixOf_iff_prefix.mpr hprefix), if_pos hprefix]
    rcases hp : p.frontAndBody with ⟨front, body⟩
    obtain ⟨hslash, hfront⟩ := front_cases hp
    have htrim {stretches : List (List Char)} (h : ∀ stretch ∈ stretches, '/' ∉ stretch) :
        ∀ stretch ∈ trimEnd stretches, '/' ∉ stretch :=
      fun stretch hm => h stretch ((isPrefix_trimEnd stretches).subset hm)
    -- behind a number of components a path has no front
    have hdropped (count : Nat) :
        (ofFrontAndBody none (trimEnd (dropComponents count body))).components =
          (body.filterMap componentOf?).drop count := by
      rw [components_ofFrontAndBody (htrim fun stretch hm => hslash stretch ?_)
        (.inr (.inr ⟨rfl, (startsTelling_dropComponents count body).trimEnd⟩)),
        filterMap_trimEnd, filterMap_dropComponents]
      · rfl
      · exact (isSuffix_dropComponents count body).subset hm
    rw [components_of_frontAndBody hp]
    rcases hlength : base.components.length with _ | count
    · dsimp only
      rw [Option.map_some, List.drop_zero, components_ofFrontAndBody (htrim hslash) hfront,
        filterMap_trimEnd]
    · cases front with
      | none =>
          dsimp only
          rw [Option.map_some, hdropped]
          rfl
      | some front =>
          dsimp only
          rw [Option.map_some, hdropped]
          rfl
  · rw [if_neg (by rwa [List.isPrefixOf_iff_prefix]), if_neg hprefix]
    rfl

/-! ## Relative paths -/

section

variable {α : Type} [DecidableEq α]

lemma commonLength_nil (xs : List α) : commonLength xs [] = 0 := by
  cases xs <;> rfl

lemma commonLength_append_append (front xs ys : List α) :
    commonLength (front ++ xs) (front ++ ys) = front.length + commonLength xs ys := by
  induction front with
  | nil => simp
  | cons x front ih =>
      rw [List.cons_append, List.cons_append, commonLength, if_pos rfl, ih, List.length_cons]
      omega

end

lemma climb_append (base rest : List Component) : climb (base ++ rest) base = rest := by
  have hshared := commonLength_append_append base rest []
  rw [List.append_nil, commonLength_nil, Nat.add_zero] at hshared
  rw [climb, hshared, Nat.sub_self, List.drop_left]
  rfl

/-- **A relative path** goes up to where the two paths part, and down again. -/
lemma relativeTo_eq (p base : Path) :
    p.relativeTo base = slashed (climb p.components base.components) := by
  have hrest := map_components_rest? p base
  rw [relativeTo]
  cases h : p.rest? base with
  | none => rfl
  | some rest =>
      rw [h, Option.map_some] at hrest
      split_ifs at hrest with hprefix
      obtain ⟨below, hbelow⟩ := hprefix
      dsimp only
      rw [Option.some.inj hrest, ← hbelow, List.drop_left, climb_append]

end Path

/-! ## Import paths -/

variable {file other root base : Path}

lemma importPath_of_relativeTo (h : file.relativeTo root = other.relativeTo base) (package : String) :
    importPath file root package = importPath other base package := by
  unfold importPath
  dsimp only
  rw [h]

/-- Spellings of one path are imported from the same place. -/
lemma importPath_congr (hfile : file.Same other) (hroot : root.Same base) (package : String) :
    importPath file root package = importPath other base package :=
  importPath_of_relativeTo (by rw [Path.relativeTo_eq, Path.relativeTo_eq, hfile, hroot]) package

/-- What is below two roots in the same way is imported from the same place. -/
lemma importPath_eq_of_append {rest : List Component} (hfile : file.components = root.components ++ rest)
    (hother : other.components = base.components ++ rest) (package : String) :
    importPath file root package = importPath other base package := by
  refine importPath_of_relativeTo ?_ package
  rw [Path.relativeTo_eq, Path.relativeTo_eq, hfile, hother, Path.climb_append, Path.climb_append]

/-- Where a file below the root of a project is imported from, by the names that lead there: through the
package if the first one is the source folder, and otherwise as they are. -/
def importOf (package : String) : List String → String
  | first :: second :: more =>
      "/".intercalate ((if first = sourceFolder then package else first) :: second :: more)
  | names => "/".intercalate names

lemma belowSourceFolder?_eq_some {relative below : List Char} :
    belowSourceFolder? relative = some below ↔ relative = sourceFolder.toList ++ '/' :: below := by
  rw [belowSourceFolder?]
  by_cases hprefix : (sourceFolder.toList ++ ['/']).isPrefixOf relative
  · obtain ⟨rest, rfl⟩ := List.isPrefixOf_iff_prefix.mp hprefix
    rw [if_pos hprefix, List.drop_left, Option.some.injEq, List.append_assoc,
      List.append_cancel_left_eq]
    simp
  · rw [if_neg hprefix]
    refine ⟨nofun, fun h => absurd (List.isPrefixOf_iff_prefix.mpr ⟨below, ?_⟩) hprefix⟩
    rw [h, List.append_assoc]
    rfl

/-- What stands in front of the first slash of a text is known from the text. -/
lemma eq_of_append_slash {first second more rest : List Char} (hfirst : '/' ∉ first)
    (hsecond : '/' ∉ second) (h : first ++ '/' :: more = second ++ '/' :: rest) : first = second := by
  have hsplit := congrArg Path.splitAtSlashes h
  rw [Path.splitAtSlashes_append_slash _ hfirst, Path.splitAtSlashes_append_slash _ hsecond] at hsplit
  exact (List.cons.inj hsplit).1

/-- Where what lies below the root is imported from. -/
lemma importPath_of_append {names : List String} (hnames : ∀ name ∈ names, '/' ∉ name.toList)
    (hfile : file.components = root.components ++ names.map .name) (package : String) :
    importPath file root package = importOf package names := by
  have hrelative : file.relativeTo root = "/".intercalate names := by
    rw [Path.relativeTo_eq, hfile, Path.climb_append, Path.slashed, List.map_map]
    simp [Function.comp_def, Component.text]
  unfold importPath
  dsimp only
  rw [hrelative]
  rcases names with _ | ⟨first, _ | ⟨second, more⟩⟩
  · rfl
  · have hfirst : '/' ∉ first.toList := hnames first List.mem_cons_self
    have hbelow : belowSourceFolder? first.toList = none := by
      refine Option.eq_none_iff_forall_ne_some.mpr fun below h => hfirst ?_
      rw [belowSourceFolder?_eq_some.mp h]
      simp
    rw [String.intercalate_singleton, hbelow]
    rfl
  · have hfirst : '/' ∉ first.toList := hnames first List.mem_cons_self
    have htext : ("/".intercalate (first :: second :: more)).toList =
        first.toList ++ '/' :: ("/".intercalate (second :: more)).toList := by
      simp [String.intercalate_cons_cons]
    rw [importOf]
    by_cases haddon : first = sourceFolder
    · rw [haddon] at htext ⊢
      rw [if_pos rfl, belowSourceFolder?_eq_some.mpr htext]
      dsimp only
      rw [String.ofList_toList, String.intercalate_cons_cons]
    · rw [if_neg haddon]
      cases hbelow : belowSourceFolder? ("/".intercalate (first :: second :: more)).toList with
      | none => rfl
      | some below =>
          refine absurd (String.toList_inj.mp ?_) haddon
          rw [belowSourceFolder?_eq_some, htext] at hbelow
          exact eq_of_append_slash hfirst (by decide) hbelow

end AddonRegistry
