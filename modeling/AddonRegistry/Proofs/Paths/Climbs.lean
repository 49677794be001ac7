import AddonRegistry.Proofs.FileTree.Spellings
import AddonRegistry.Proofs.Paths.Joins

/-!
# Ways from one path to another

A path relative to another one is a way: up to where the two part, and down again.  It is written as a
text, and read as a path again it is the same way, since no component of a path means something else
between two slashes.  Followed from the other path it leads back to the first one.  And no way does so
with fewer components: each component changes by one at most how far it is still to go.

* `components_slashed` — components that are written with slashes between them are read back.
* `exists_parting` — where two paths part; `climb_of_parting` and `length_climb` are read off it.
* `resolve` — where a way leads, by its components alone.
* **`resolve_relativeTo`** — a relative path leads back.
* `length_climb_le_follow`, `length_climb_le` — one step of a way, and a whole way.
* **`relative_path_is_shortest_way`** — all of it in one statement.
-/

namespace AddonRegistry

/-- That a component is what its text stands for between two slashes. -/
def Component.IsStretch (c : Component) : Prop :=
  '/' ∉ c.text.toList ∧ Path.componentOf? c.text.toList = some c

namespace Path

/-! ## Components as text -/

lemma toList_of_componentOf? {stretch : List Char} {c : Component} (h : componentOf? stretch = some c) :
    c.text.toList = stretch := by
  rw [componentOf?] at h
  split_ifs at h with hidle hdots
  · cases h
    exact hdots.symm
  · cases h
    exact String.toList_ofList

/-- What is read between two slashes is written as it was. -/
lemma isStretch_of_componentOf? {stretch : List Char} {c : Component} (hslash : '/' ∉ stretch)
    (h : componentOf? stretch = some c) : c.IsStretch := by
  rw [Component.IsStretch, toList_of_componentOf? h]
  exact ⟨hslash, h⟩

lemma isStretch_parent : Component.parent.IsStretch := ⟨by decide, by decide⟩

/-- Behind the slash in front, an absolute path says what its stretches stand for. -/
lemma exists_components_of_isAbsolute {p : Path} (h : p.isAbsolute) :
    ∃ below, p.components = .root :: below ∧ ∀ c ∈ below, c.IsStretch := by
  obtain ⟨second, rest, hs⟩ := exists_splitAtSlashes_of_isAbsolute h
  refine ⟨(second :: rest).filterMap componentOf?,
    components_of_frontAndBody (frontAndBody_of_root hs), fun c hc => ?_⟩
  obtain ⟨stretch, hm, hstretch⟩ := List.mem_filterMap.mp hc
  have hmem : stretch ∈ splitAtSlashes p.text.toList := hs ▸ List.mem_cons_of_mem [] hm
  exact isStretch_of_componentOf? (slash_notMem_of_mem_splitAtSlashes hmem) hstretch

lemma joinWithSlashes_eq_intercalate (stretches : List (List Char)) :
    joinWithSlashes stretches = ['/'].intercalate stretches := by
  induction stretches with
  | nil => rfl
  | cons stretch rest ih =>
      cases rest with
      | nil => simp [joinWithSlashes]
      | cons next others =>
          rw [joinWithSlashes_cons (List.cons_ne_nil next others), ih, List.intercalate_cons_cons]
          simp

/-- **Components that are written with slashes between them** are read back. -/
lemma components_slashed {way : List Component} (h : ∀ c ∈ way, c.IsStretch) :
    components ⟨slashed way⟩ = way := by
  have htext : Path.mk (slashed way) = ofFrontAndBody none (way.map fun c => c.text.toList) := by
    rw [ofFrontAndBody, joinWithSlashes_eq_intercalate, slashed, Path.mk.injEq, ← String.toList_inj,
      String.toList_intercalate, List.map_map]
    exact String.toList_ofList.symm
  have hread : (way.map fun c => c.text.toList).filterMap componentOf? = way := by
    rw [List.filterMap_map]
    exact (List.filterMap_congr fun c hc => (h c hc).2).trans (List.filterMap_some ..)
  have hslash : ∀ stretch ∈ way.map fun c => c.text.toList, '/' ∉ stretch := by
    rw [List.forall_mem_map]
    exact fun c hc => (h c hc).1
  have htelling : StartsTelling (way.map fun c => c.text.toList) := by
    intro stretch hs
    -- an idle stretch would stand for no component
    obtain ⟨c, hc, rfl⟩ := List.mem_map.mp (List.mem_of_mem_head? hs)
    by_contra hidle
    have hnone := componentOf?_of_isIdle (by simpa using hidle)
    rw [(h c hc).2] at hnone
    cases hnone
  rw [htext, components_ofFrontAndBody hslash (.inr (.inr ⟨rfl, htelling⟩)), hread]
  rfl

/-! ## Where two paths part -/

section

variable {α : Type} [DecidableEq α] {path base other xs ys : List α}

/-- Where two lists part. -/
lemma exists_parting : ∀ path base : List α, ∃ shared up down,
    path = shared ++ down ∧ base = shared ++ up ∧ commonLength down up = 0
  | [], base => ⟨[], base, [], rfl, rfl, rfl⟩
  | x :: path, [] => ⟨[], [], x :: path, rfl, rfl, rfl⟩
  | x :: path, y :: base => by
      by_cases h : x = y
      · obtain ⟨shared, up, down, rfl, rfl, hnone⟩ := exists_parting path base
        exact ⟨x :: shared, up, down, rfl, h ▸ rfl, hnone⟩
      · exact ⟨[], y :: base, x :: path, rfl, rfl, if_neg h⟩

/-- No common beginning is longer. -/
lemma length_le_commonLength (hpath : other <+: path) (hbase : other <+: base) :
    other.length ≤ commonLength path base := by
  obtain ⟨xs, rfl⟩ := hpath
  obtain ⟨ys, rfl⟩ := hbase
  rw [commonLength_append_append]
  omega

/-- With one component more, two lists have at most one more in common, and not less. -/
lemma commonLength_concat (y : α) : ∀ xs ys : List α,
    commonLength xs ys ≤ commonLength xs (ys ++ [y]) ∧
      commonLength xs (ys ++ [y]) ≤ commonLength xs ys + 1
  | [], ys => by simp [commonLength]
  | x :: xs, [] => by
      rw [List.nil_append, commonLength, commonLength_nil]
      split_ifs <;> simp [commonLength]
  | x :: xs, other :: ys => by
      have ih := commonLength_concat y xs ys
      rw [List.cons_append, commonLength, commonLength]
      split_ifs <;> omega

end

variable {path base shared up down way place : List Component} {c : Component}

lemma climb_of_parting (h : commonLength down up = 0) :
    climb (shared ++ down) (shared ++ up) = List.replicate up.length .parent ++ down := by
  rw [climb, commonLength_append_append, h, Nat.add_zero, List.drop_left, List.length_append,
    Nat.add_sub_cancel_left]

lemma climb_self (path : List Component) : climb path path = [] := by
  have h := climb_append path []
  rwa [List.append_nil] at h

/-- How far it is from one path to another. -/
lemma length_climb (path base : List Component) :
    (climb path base).length + 2 * commonLength path base = path.length + base.length := by
  obtain ⟨shared, up, down, rfl, rfl, hnone⟩ := exists_parting path base
  rw [climb_of_parting hnone, commonLength_append_append, hnone]
  simp only [List.length_append, List.length_replicate]
  omega

/-! ## Where a way leads -/

/-- Where one component leads: a pair of dots takes the last component away, but never the root. -/
def follow (place : List Component) : Component → List Component
  | .root => [.root]
  | .current => place
  | .parent => if place = [.root] then place else place.dropLast
  | .name text => place ++ [.name text]

/-- Where a way leads, by its components alone. -/
def resolve (place way : List Component) : List Component := way.foldl follow place

lemma resolve_cons (place way : List Component) (c : Component) :
    resolve place (c :: way) = resolve (follow place c) way := rfl

lemma resolve_append (place way more : List Component) :
    resolve place (way ++ more) = resolve (resolve place way) more :=
  List.foldl_append

/-- Names lead down. -/
lemma resolve_down (hway : ∀ c ∈ way, c.IsStretch) (hdots : .parent ∉ way) :
    resolve place way = place ++ way := by
  induction way generalizing place with
  | nil => exact (List.append_nil place).symm
  | cons c way ih =>
      rw [List.forall_mem_cons] at hway
      rw [List.mem_cons, not_or] at hdots
      have hfollow : follow place c = place ++ [c] := by
        cases c with
        | root => exact absurd List.mem_cons_self hway.1.1
        | current => exact absurd hway.1.2 (by decide)
        | parent => exact absurd rfl hdots.1
        | name text => rfl
      rw [resolve_cons, hfollow, ih hway.2 hdots.2, List.append_assoc, List.singleton_append]

/-- As many pairs of dots lead up again. -/
lemma resolve_up (hshared : shared ≠ []) (up : List Component) :
    resolve (shared ++ up) (List.replicate up.length .parent) = shared := by
  induction up using List.reverseRecOn with
  | nil => exact List.append_nil shared
  | append_singleton up last ih =>
      -- what goes further than the common beginning is not the root alone
      have hroot : shared ++ (up ++ [last]) ≠ [.root] := by
        intro h
        have hlength := congrArg List.length h
        have hpos := List.length_pos_iff.mpr hshared
        simp only [List.length_append, List.length_cons, List.length_nil] at hlength
        omega
      rw [List.length_append, List.length_singleton, List.replicate_succ, resolve_cons, follow,
        if_neg hroot, ← List.append_assoc, List.dropLast_concat, ih]

/-- **A way up and down** leads from one path to the other. -/
lemma resolve_climb (hshared : shared ≠ []) (hnone : commonLength down up = 0)
    (hdown : ∀ c ∈ down, c.IsStretch) (hdots : .parent ∉ down) :
    resolve (shared ++ up) (climb (shared ++ down) (shared ++ up)) = shared ++ down := by
  rw [climb_of_parting hnone, resolve_append, resolve_up hshared, resolve_down hdown hdots]

/-! ## How far it is -/

/-- **One step of a way** brings a path nearer by one component at most. -/
lemma length_climb_le_follow (hroot : c ≠ .root) (path place : List Component) :
    (climb path place).length ≤ (climb path (follow place c)).length + 1 := by
  have hplace := length_climb path place
  cases c with
  | root => exact absurd rfl hroot
  | current => exact Nat.le_succ _
  | parent =>
      rw [follow]
      split_ifs with htop
      · exact Nat.le_succ _
      · rcases List.eq_nil_or_concat place with rfl | ⟨front, last, rfl⟩
        · exact Nat.le_succ _
        · rw [List.concat_eq_append] at hplace ⊢
          have hfront := length_climb path front
          have hcommon := (commonLength_concat last path front).1
          rw [List.length_append, List.length_singleton] at hplace
          rw [List.dropLast_concat]
          omega
  | name text =>
      have hlonger := length_climb path (place ++ [.name text])
      have hcommon := (commonLength_concat (.name text) path place).2
      rw [List.length_append, List.length_singleton] at hlonger
      rw [follow]
      omega

/-- **A whole way** is as long as the way up and down at least. -/
lemma length_climb_le (hroot : .root ∉ way) (hway : resolve place way = path) :
    (climb path place).length ≤ way.length := by
  induction way generalizing place with
  | nil =>
      rw [← hway]
      exact Nat.le_of_eq (congrArg List.length (climb_self place))
  | cons c way ih =>
      rw [List.mem_cons, not_or] at hroot
      rw [resolve_cons] at hway
      have hstep := length_climb_le_follow (Ne.symm hroot.1) path place
      have hrest := ih hroot.2 hway
      rw [List.length_cons]
      omega

lemma root_notMem_filterMap (stretches : List (List Char)) :
    Component.root ∉ stretches.filterMap componentOf? := by
  intro h
  obtain ⟨stretch, -, hs⟩ := List.mem_filterMap.mp h
  rw [componentOf?] at hs
  split_ifs at hs <;> cases hs

/-- A path that is not absolute does not speak of the root. -/
lemma root_notMem_components {p : Path} (h : p.isAbsolute = false) : .root ∉ p.components := by
  rcases hp : p.frontAndBody with ⟨front, body⟩
  rw [components_of_frontAndBody hp, List.mem_append, not_or]
  refine ⟨?_, root_notMem_filterMap body⟩
  rw [frontAndBody] at hp
  split at hp
  · next second rest hs =>
      have htext := joinWithSlashes_splitAtSlashes p.text.toList
      rw [hs, joinWithSlashes_cons (List.cons_ne_nil second rest)] at htext
      rw [isAbsolute, ← htext] at h
      cases h
  · cases hp
    decide
  · cases hp
    decide

/-! ## Relative paths -/

section

variable {p base : Path}

/-- A path relative to another one, both of them absolute, is read as the way that it was made from. -/
lemma components_relativeTo (hp : p.isAbsolute) (hbase : base.isAbsolute) :
    components ⟨p.relativeTo base⟩ = climb p.components base.components := by
  obtain ⟨below, hbelow, hstretches⟩ := exists_components_of_isAbsolute hp
  obtain ⟨above, habove, -⟩ := exists_components_of_isAbsolute hbase
  rw [relativeTo_eq, hbelow, habove]
  refine components_slashed fun c hc => ?_
  obtain ⟨shared, up, down, rfl, rfl, hnone⟩ := exists_parting below above
  rw [← List.cons_append, ← List.cons_append, climb_of_parting hnone, List.mem_append] at hc
  rcases hc with hc | hc
  · rw [List.eq_of_mem_replicate hc]
    exact isStretch_parent
  · exact hstretches c (List.mem_append_right shared hc)

/-- **A relative path leads back** to what it was made from. -/
lemma resolve_relativeTo (hp : p.isAbsolute) (hbase : base.isAbsolute) (hdots : .parent ∉ p.components) :
    resolve base.components (components ⟨p.relativeTo base⟩) = p.components := by
  obtain ⟨below, hbelow, hstretches⟩ := exists_components_of_isAbsolute hp
  obtain ⟨above, habove, -⟩ := exists_components_of_isAbsolute hbase
  obtain ⟨shared, up, down, rfl, rfl, hnone⟩ := exists_parting below above
  rw [hbelow] at hdots
  rw [components_relativeTo hp hbase, hbelow, habove, ← List.cons_append, ← List.cons_append]
  refine resolve_climb (List.cons_ne_nil .root shared) hnone
    (fun c hc => hstretches c (List.mem_append_right shared hc)) fun hm => hdots ?_
  exact List.mem_cons_of_mem .root (List.mem_append_right shared hm)

end

/-- **A relative path is a shortest way.**  However it is found, it goes up once for each component of the
base behind the longest common beginning, and then down by what the path says behind it.  For absolute paths
without pairs of dots this can be read off the text: it is a path that leads from the base back to where it
was made from, and no other way from the base does so with fewer components.  The base may hold pairs of
dots, which count like names. -/
theorem relative_path_is_shortest_way (p base : Path) :
    p.relativeTo base = slashed (climb p.components base.components) ∧
    (∀ rest, p.rest? base = some rest →
      slashed rest.components = slashed (climb p.components base.components)) ∧
    ∃ shared up down, base.components = shared ++ up ∧ p.components = shared ++ down ∧
      (∀ other, other <+: base.components → other <+: p.components → other.length ≤ shared.length) ∧
      climb p.components base.components = List.replicate up.length .parent ++ down ∧
      (p.isAbsolute → base.isAbsolute → .parent ∉ p.components →
        components ⟨p.relativeTo base⟩ = List.replicate up.length .parent ++ down ∧ .parent ∉ down ∧
        resolve base.components (components ⟨p.relativeTo base⟩) = p.components ∧
        ∀ way : Path, way.isAbsolute = false → resolve base.components way.components = p.components →
          (components ⟨p.relativeTo base⟩).length ≤ way.components.length) := by
  obtain ⟨shared, up, down, hpath, habove, hnone⟩ := exists_parting p.components base.components
  have hclimb : climb p.components base.components = List.replicate up.length .parent ++ down := by
    rw [hpath, habove, climb_of_parting hnone]
  refine ⟨relativeTo_eq p base, fun rest hrest => ?_, shared, up, down, habove, hpath,
    fun other hother hother' => ?_, hclimb, fun hp hbase hdots => ?_⟩
  · have h := relativeTo_eq p base
    rwa [relativeTo, hrest] at h
  · have hlength := length_le_commonLength hother' hother
    rwa [hpath, habove, commonLength_append_append, hnone] at hlength
  · refine ⟨(components_relativeTo hp hbase).trans hclimb, fun hm => hdots ?_,
      resolve_relativeTo hp hbase hdots, fun way hway hleads => ?_⟩
    · rw [hpath]
      exact List.mem_append_right shared hm
    · rw [components_relativeTo hp hbase]
      exact length_climb_le (root_notMem_components hway) hleads

/-- A file that is reached by climbing, with slashes and a dot that say nothing. -/
theorem climbing_path_is_shortest_way :
    Path.isAbsolute ⟨"/shared//addon/./x.ts"⟩ ∧ Path.isAbsolute ⟨"/p/app/"⟩ ∧
      .parent ∉ components ⟨"/shared//addon/./x.ts"⟩ ∧
      relativeTo ⟨"/shared//addon/./x.ts"⟩ ⟨"/p/app/"⟩ = "../../shared/addon/x.ts" ∧
      ∀ way : Path, way.isAbsolute = false →
        resolve (components ⟨"/p/app/"⟩) way.components = components ⟨"/shared//addon/./x.ts"⟩ →
          5 ≤ way.components.length := by
  have htext : relativeTo ⟨"/shared//addon/./x.ts"⟩ ⟨"/p/app/"⟩ = "../../shared/addon/x.ts" := by
    decide +kernel
  obtain ⟨-, -, shared, up, down, -, -, -, -, hways⟩ :=
    relative_path_is_shortest_way ⟨"/shared//addon/./x.ts"⟩ ⟨"/p/app/"⟩
  obtain ⟨-, -, -, hshortest⟩ := hways (by decide) (by decide) (by decide +kernel)
  rw [htext] at hshortest
  exact ⟨by decide, by decide, by decide +kernel, htext, hshortest⟩

end Path

end AddonRegistry
