import AddonRegistry.Proofs.Except
import AddonRegistry.Proofs.FileTree.Named
import AddonRegistry.Proofs.FileTree.Walks
import AddonRegistry.Proofs.Glob.Tokens
import AddonRegistry.Proofs.Paths.Joins

/-!
# The paths of a search

A search writes names behind the path that it starts from.  These are names that the pattern holds, or
names of files that fit it; the two names that every folder has are written only for a stretch that
starts with a dot.  So what is found below a folder is told by the names that lead there.

* `Undotted` — the paths behind which names are written as they are.
* `components_foldl_step`, `steps_foldl_step` — a path with names behind it.
* `Leg.writes`, **`expand_cons`** — what a leg writes behind a path; a search goes on behind that.
* `Leg.Names` — what a leg may write besides names of files.
* **`exists_of_mem_expand`** — what legs lead to is the path that they start from, with names behind it.
* `names_of_mem_legs`, `allows_of_tokens` — what the legs of a pattern may write.
-/

namespace AddonRegistry.Glob

variable {tree : FileTree} {p q : Path} {name : String} {names : List String} {leg : Leg}
  {rest : List Leg} {allowed : String → Prop}

/-! ## Names behind a path -/

/-- That names are written behind a path as they are: it is not empty, and no dot stands in front. -/
structure Undotted (p : Path) : Prop where
  nonempty : p.text ≠ ""
  undotted : p.components.head? ≠ some .current

lemma Undotted.step_eq (h : Undotted p) (name : String) : step p name = p.join ⟨name⟩ := by
  rw [step, if_neg]
  intro hc
  exact h.undotted (by rw [hc]; rfl)

lemma isAbsolute_of_notMem (hname : '/' ∉ name.toList) : Path.isAbsolute ⟨name⟩ = false := by
  rw [Path.isAbsolute, decide_eq_false_iff_not]
  exact fun h => hname (List.mem_of_head? h)

lemma Undotted.components_step (h : Undotted p) (hname : '/' ∉ name.toList) :
    (step p name).components = p.components ++ [name.toList].filterMap Path.componentOf? := by
  rw [h.step_eq, Path.components_join h.nonempty (isAbsolute_of_notMem hname),
    Path.splitAtSlashes_of_notMem hname]

lemma Undotted.steps_step (h : Undotted p) (hname : '/' ∉ name.toList) :
    (step p name).steps = p.steps ++ [name.toList].filterMap Path.stepOf? := by
  have hsteps : Path.steps ⟨name⟩ = [name.toList].filterMap Path.stepOf? := by
    rw [Path.steps, Path.splitAtSlashes_of_notMem hname]
  rw [h.step_eq, Path.steps_join h.nonempty (isAbsolute_of_notMem hname), hsteps]

lemma Undotted.isAbsolute_step (h : Undotted p) (hname : '/' ∉ name.toList) :
    (step p name).isAbsolute = p.isAbsolute := by
  rw [h.step_eq, Path.isAbsolute_join h.nonempty (isAbsolute_of_notMem hname)]

lemma Undotted.step (h : Undotted p) (hname : '/' ∉ name.toList) : Undotted (step p name) where
  nonempty := by
    rw [h.step_eq]
    exact Path.join_ne_empty h.nonempty (isAbsolute_of_notMem hname)
  undotted := by
    rw [h.components_step hname, List.head?_append_of_ne_nil _ (Path.components_ne_nil h.nonempty)]
    exact h.undotted

section

variable (hnames : ∀ name ∈ names, '/' ∉ name.toList)

include hnames

lemma Undotted.foldl (h : Undotted p) : Undotted (names.foldl Glob.step p) := by
  induction names generalizing p with
  | nil => exact h
  | cons name names ih =>
      rw [List.forall_mem_cons] at hnames
      exact ih hnames.2 (h.step hnames.1)

/-- What a path with names behind it means. -/
lemma components_foldl_step (h : Undotted p) : (names.foldl Glob.step p).components =
    p.components ++ (names.map String.toList).filterMap Path.componentOf? := by
  induction names generalizing p with
  | nil => exact (List.append_nil _).symm
  | cons name names ih =>
      rw [List.forall_mem_cons] at hnames
      rw [List.foldl_cons, ih hnames.2 (h.step hnames.1), h.components_step hnames.1, List.append_assoc,
        ← List.filterMap_append]
      rfl

/-- The steps of a path with names behind it. -/
lemma steps_foldl_step (h : Undotted p) : (names.foldl Glob.step p).steps =
    p.steps ++ (names.map String.toList).filterMap Path.stepOf? := by
  induction names generalizing p with
  | nil => exact (List.append_nil _).symm
  | cons name names ih =>
      rw [List.forall_mem_cons] at hnames
      rw [List.foldl_cons, ih hnames.2 (h.step hnames.1), h.steps_step hnames.1, List.append_assoc,
        ← List.filterMap_append]
      rfl

lemma isAbsolute_foldl_step (h : Undotted p) :
    (names.foldl Glob.step p).isAbsolute = p.isAbsolute := by
  induction names generalizing p with
  | nil => rfl
  | cons name names ih =>
      rw [List.forall_mem_cons] at hnames
      rw [List.foldl_cons, ih hnames.2 (h.step hnames.1), h.isAbsolute_step hnames.1]

end

lemma componentOf?_of_isFileName (h : IsFileName name) :
    Path.componentOf? name.toList = some (.name name) := by
  obtain ⟨hempty, hdot, hdots, -⟩ := h
  have hne {other : String} (ho : name ≠ other) : name.toList ≠ other.toList :=
    fun he => ho (String.toList_inj.mp he)
  have hidle : Path.isIdle name.toList = false := by
    simp only [Path.isIdle, Bool.or_eq_false_iff, decide_eq_false_iff_not]
    exact ⟨hne hempty, hne hdot⟩
  have hnotDots : name.toList ≠ ['.', '.'] := hne hdots
  rw [Path.componentOf?, hidle, if_neg Bool.false_ne_true, if_neg hnotDots, String.ofList_toList]

/-! ## What is found in folders -/

lemma isHidden_of_mem_visible (h : name ∈ visible tree p) : isHidden name = false := by
  rw [visible] at h
  split at h
  · simpa using (List.mem_filter.mp h).2
  · cases h

section

variable (hnamed : tree.Named)

include hnamed

lemma isFileName_of_mem_visible (h : name ∈ visible tree p) : IsFileName name := by
  rw [visible] at h
  split at h
  · next node hfind =>
      obtain ⟨place, -, hnode⟩ := FileTree.find_eq_ok.mp hfind
      exact hnamed.names hnode name (List.mem_filter.mp h).1
  · cases h

lemma isFileName_of_mem_below {isFolder : Bool} (h : (names, isFolder) ∈ below tree p) :
    names ≠ [] ∧ ∀ name ∈ names, IsFileName name := by
  rw [below] at h
  split at h
  · next node hfind =>
      obtain ⟨place, -, hnode⟩ := FileTree.find_eq_ok.mp hfind
      obtain ⟨d, hd, he⟩ := List.mem_map.mp h
      cases he
      have hmem := (List.mem_filter.mp hd).1
      obtain ⟨first, others, hd⟩ := Node.exists_cons_of_mem_descendants hmem
      refine ⟨?_, hnamed.descendants hnode _ hmem⟩
      rw [hd]
      exact List.cons_ne_nil first others
  · cases h

end

/-! ## What legs write -/

/-- What a leg writes behind a path: for each way on the names of it. -/
def Leg.writes (tree : FileTree) (p : Path) : Leg → List (List String)
  | .named name => if leadsOn tree p name then [[name]] else []
  | .fitting pattern =>
      ((if tree.isFolder p then dotNames pattern else []) ++ (visible tree p).filter (fits pattern)).map
        fun name => [name]
  | .deep pattern => ((below tree p).filter fun d => fits pattern (d.1.getLast?.getD "")).map Prod.fst
  | .folders => ((below tree p).filter Prod.snd).map Prod.fst

lemma flatMap_ite {α β : Type} (f : α → List β) (keep : α → Bool) (l : List α) :
    (l.flatMap fun x => if keep x then f x else []) = (l.filter keep).flatMap f := by
  induction l with
  | nil => rfl
  | cons x l ih =>
      rw [List.flatMap_cons, ih]
      cases hx : keep x with
      | true => rw [if_pos rfl, List.filter_cons_of_pos hx, List.flatMap_cons]
      | false => rw [if_neg Bool.false_ne_true, List.filter_cons_of_neg (by simp [hx]), List.nil_append]

/-- A search goes on behind each of the names that its first leg writes, if the two names that every folder
has are written like any other. -/
lemma expand_cons_of_dotNames
    (h : ∀ pattern, leg = .fitting pattern → ∀ name ∈ dotNames pattern, p.join ⟨name⟩ = step p name) :
    expand tree (leg :: rest) p =
      (leg.writes tree p).flatMap fun names => expand tree rest (names.foldl step p) := by
  cases leg with
  | named name =>
      rw [expand, Leg.writes]
      split_ifs
      · exact (List.append_nil _).symm
      · rfl
  | fitting pattern =>
      rw [expand, Leg.writes, List.flatMap_map, List.flatMap_append]
      congr 1
      split_ifs
      · exact List.flatMap_congr fun name hname => congrArg _ (h pattern rfl name hname)
      · exact List.flatMap_eq_nil_iff.mpr fun _ _ => rfl
  | deep pattern => rw [expand, Leg.writes, List.flatMap_map, flatMap_ite]
  | folders => rw [expand, Leg.writes, List.flatMap_map, flatMap_ite]

/-- **A search** goes on behind each of the names that its first leg writes. -/
lemma expand_cons (hp : Undotted p) : expand tree (leg :: rest) p =
    (leg.writes tree p).flatMap fun names => expand tree rest (names.foldl step p) :=
  expand_cons_of_dotNames fun _ _ name _ => (hp.step_eq name).symm

/-- What a leg may write besides names of files. -/
def Leg.Names (allowed : String → Prop) : Leg → Prop
  | .named name => allowed name
  | .fitting pattern => ∀ name ∈ dotNames pattern, allowed name
  | .deep _ | .folders => True

/-- A leg writes at least one name. -/
lemma Leg.Names.of_mem_writes (hnamed : tree.Named) (hfile : ∀ name, IsFileName name → allowed name)
    (hleg : leg.Names allowed) (h : names ∈ leg.writes tree p) :
    names ≠ [] ∧ ∀ name ∈ names, allowed name := by
  cases leg with
  | named name =>
      rw [Leg.writes] at h
      split_ifs at h
      · rw [List.mem_singleton.mp h]
        exact ⟨List.cons_ne_nil _ _, List.forall_mem_singleton.mpr hleg⟩
      · cases h
  | fitting pattern =>
      obtain ⟨name, hname, rfl⟩ := List.mem_map.mp h
      refine ⟨List.cons_ne_nil _ _, List.forall_mem_singleton.mpr ?_⟩
      rcases List.mem_append.mp hname with hname | hname
      · split_ifs at hname
        · exact hleg name hname
        · cases hname
      · exact hfile name (isFileName_of_mem_visible hnamed (List.mem_filter.mp hname).1)
  | deep pattern =>
      obtain ⟨d, hd, rfl⟩ := List.mem_map.mp h
      obtain ⟨hne, hnames⟩ := isFileName_of_mem_below hnamed (List.mem_filter.mp hd).1
      exact ⟨hne, fun name hm => hfile name (hnames name hm)⟩
  | folders =>
      obtain ⟨d, hd, rfl⟩ := List.mem_map.mp h
      obtain ⟨hne, hnames⟩ := isFileName_of_mem_below hnamed (List.mem_filter.mp hd).1
      exact ⟨hne, fun name hm => hfile name (hnames name hm)⟩

/-- The first leg writes names, and the search goes on behind them. -/
lemma exists_of_mem_expand_cons (hnamed : tree.Named) (hfile : ∀ name, IsFileName name → allowed name)
    (hleg : leg.Names allowed) (hp : Undotted p) (h : q ∈ expand tree (leg :: rest) p) :
    ∃ names : List String, names ≠ [] ∧ (∀ name ∈ names, allowed name) ∧
      q ∈ expand tree rest (names.foldl step p) := by
  rw [expand_cons hp, List.mem_flatMap] at h
  obtain ⟨names, hnames, h⟩ := h
  obtain ⟨hne, hallowed⟩ := hleg.of_mem_writes hnamed hfile hnames
  exact ⟨names, hne, hallowed, h⟩

/-- **What legs lead to** is the path that they start from, with names behind it. -/
lemma exists_of_mem_expand (hnamed : tree.Named) (hfile : ∀ name, IsFileName name → allowed name)
    (hslash : ∀ name, allowed name → '/' ∉ name.toList) : ∀ {legs : List Leg} {p : Path},
    (∀ leg ∈ legs, leg.Names allowed) → Undotted p → q ∈ expand tree legs p →
      ∃ names : List String, (∀ name ∈ names, allowed name) ∧ q = names.foldl step p
  | [], p, _, _, h => ⟨[], nofun, List.mem_singleton.mp h⟩
  | leg :: rest, p, hlegs, hp, h => by
      rw [List.forall_mem_cons] at hlegs
      obtain ⟨front, -, hfront, h⟩ := exists_of_mem_expand_cons hnamed hfile hlegs.1 hp h
      obtain ⟨back, hback, rfl⟩ := exists_of_mem_expand hnamed hfile hslash hlegs.2
        (hp.foldl fun name hm => hslash name (hfront name hm)) h
      exact ⟨front ++ back, List.forall_mem_append.mpr ⟨hfront, hback⟩, (List.foldl_append ..).symm⟩

/-! ## The legs of a pattern -/

section

variable {deep : Bool} {pattern : List Token} {patterns : List (List Token)}

lemma legs_anyDepth (deep : Bool) (patterns : List (List Token)) :
    legs deep ([.anyDepth] :: patterns) = legs true patterns := by
  cases deep <;> rfl

lemma legs_true_cons (h : pattern ≠ [.anyDepth]) :
    legs true (pattern :: patterns) = .deep pattern :: legs false patterns := by
  rw [legs]
  exact h

lemma legs_false_cons (h : pattern ≠ [.anyDepth]) : legs false (pattern :: patterns) =
    (match literal? pattern with
      | some name => .named (String.ofList name)
      | none => .fitting pattern) :: legs false patterns := by
  cases hname : literal? pattern <;> simp [legs, hname]

/-- That a stretch of a pattern has only such names written that are allowed, besides names of files. -/
def Allows (allowed : String → Prop) (pattern : List Token) : Prop :=
  (∀ name, literal? pattern = some name → allowed (String.ofList name)) ∧
    ∀ name ∈ dotNames pattern, allowed name

/-- What the legs of a pattern may write. -/
lemma names_of_mem_legs (h : ∀ pattern ∈ patterns, Allows allowed pattern) :
    ∀ leg ∈ legs deep patterns, leg.Names allowed := by
  induction patterns generalizing deep with
  | nil =>
      cases deep with
      | false => exact nofun
      | true => exact List.forall_mem_singleton.mpr trivial
  | cons pattern patterns ih =>
      rw [List.forall_mem_cons] at h
      by_cases hdepth : pattern = [.anyDepth]
      · rw [hdepth, legs_anyDepth]
        exact ih h.2
      · cases deep with
        | true =>
            rw [legs_true_cons hdepth, List.forall_mem_cons]
            exact ⟨trivial, ih h.2⟩
        | false =>
            rw [legs_false_cons hdepth, List.forall_mem_cons]
            refine ⟨?_, ih h.2⟩
            cases hname : literal? pattern with
            | some name => exact h.1.1 name hname
            | none => exact h.1.2

/-- What a stretch may write is its own text, and the names that every folder has if it starts with a
dot. -/
lemma allows_of_tokens {text : List Char} (h : tokens text = .ok pattern)
    (htext : allowed (String.ofList text))
    (hdot : text.head? = some '.' → allowed "." ∧ allowed "..") : Allows allowed pattern := by
  refine ⟨fun name hname => eq_of_literal? h hname ▸ htext, fun name hname => ?_⟩
  by_cases hhead : text.head? = some '.'
  · rw [dotNames] at hname
    split_ifs at hname
    · rcases List.mem_cons.mp (List.mem_filter.mp hname).1 with rfl | hm
      · exact (hdot hhead).2
      · rw [List.mem_singleton.mp hm]
        exact (hdot hhead).1
    · cases hname
  · rw [dotNames_of_tokens h hhead] at hname
    cases hname

end

end AddonRegistry.Glob
