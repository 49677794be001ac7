import AddonRegistry.Proofs.Glob.Standing

/-!
# What a search depends on

Below a folder a search sees nothing of the way that led there: what it writes behind the folder is told by
the folder itself, as a file or folder with names below it.  Only the length of a path does not come from
there, and a path that is too long leads nowhere.  So the files that legs lead to are the ways on from the
folder, written behind it, as far as the paths can be used.

* `Node.follow?`, `toOption_find_foldl` — what names lead to from a file or folder.
* `Leg.ways`, `waysFrom` — the names that legs lead to files by.
* `names_of_mem_waysFrom` — these are names that a search may write.
* `filesAt` — the files that are written behind a path, as far as the paths can be used.
* **`hits_eq`** — the files that legs lead to are the ways on from the folder.
* `hits_eq_of_standing` — also from the working folder, if the first leg writes a name of a file.
-/

namespace AddonRegistry

open FileTree (spellingFault?)

/-! ## Behind a file or folder -/

namespace Node

variable {node child : Node} {name : String} {names : List String}

/-- What names lead to from a file or folder. -/
def follow? : Node → List String → Option Node
  | node, [] => some node
  | node, name :: rest => (node.child? name).bind (·.follow? rest)

lemma follow?_append (node : Node) (names more : List String) :
    node.follow? (names ++ more) = (node.follow? names).bind (·.follow? more) := by
  induction names generalizing node with
  | nil => rfl
  | cons name names ih =>
      rw [List.cons_append, follow?, follow?, Option.bind_assoc]
      exact congrArg _ (funext fun child => ih child)

/-- Whether all names below a file or folder can be names of files. -/
def Named (node : Node) : Prop := ∀ d ∈ node.descendants, ∀ name ∈ d.1, IsFileName name

lemma Named.isFileName (h : node.Named) : ∀ name ∈ node.names, IsFileName name := by
  intro name hname
  obtain ⟨child, hchild⟩ := exists_mem_descendants_of_mem_names hname
  exact h _ hchild name List.mem_cons_self

lemma Named.child? (h : node.Named) (hchild : node.child? name = some child) : child.Named := by
  rw [Node.child?] at hchild
  split_ifs at hchild
  · cases hchild
    exact h
  · exact fun d hd other ho => h _ (mem_descendants_of_get? hd hchild) other (List.mem_append_right _ ho)

lemma Named.follow? (h : node.Named) (hchild : node.follow? names = some child) : child.Named := by
  induction names generalizing node with
  | nil =>
      cases hchild
      exact h
  | cons name names ih =>
      obtain ⟨next, hnext, hrest⟩ := Option.bind_eq_some_iff.mp hchild
      exact ih (h.child? hnext) hrest

/-- What is below a file or folder and not hidden: names that lead there, and whether it is a folder. -/
def seen (node : Node) : List (List String × Bool) :=
  (node.descendants.filter fun (names, _) => names.all fun name => !Glob.isHidden name).map
    fun (names, node) => (names, node.isFolder)

end Node

namespace Glob

variable {tree : FileTree} {p : Path} {node : Node} {name : String} {names : List String} {leg : Leg}
  {legs rest : List Leg}

/-- Whether there is nothing wrong with the spelling of a path. -/
def usable (p : Path) : Bool := (spellingFault? p).isNone

lemma usable_iff : usable p = true ↔ spellingFault? p = none := Option.isNone_iff_eq_none

lemma usable_of_holds (h : tree.holds p) : usable p = true := by
  obtain ⟨node, hnode⟩ := FileTree.holds_iff.mp h
  obtain ⟨place, hl, -⟩ := FileTree.find_eq_ok.mp hnode
  exact usable_iff.mpr (FileTree.follow_eq_ok.mp hl).1

lemma ne_dots_of_isNameOrEmpty (h : IsNameOrEmpty name) : ¬ (name = "." ∨ name = "..") := by
  rcases h with rfl | ⟨-, hdot, hdots, -⟩
  · decide
  · exact not_or.mpr ⟨hdot, hdots⟩

/-- A path with a name behind it has no dot in front. -/
lemma undotted_step (hp : Standing p) (hname : IsNameOrEmpty name) (hfirst : Undotted p ∨ IsFileName name) :
    Undotted (step p name) := by
  rcases hfirst with hp | hfile
  · exact hp.step (slash_notMem_of_isNameOrEmpty hname)
  · exact hp.step hfile

lemma undotted_foldl_step (hp : Standing p) (hne : names ≠ []) (hnames : ∀ name ∈ names, IsNameOrEmpty name)
    (hfirst : Undotted p ∨ ∀ name ∈ names, IsFileName name) : Undotted (names.foldl step p) := by
  obtain ⟨name, others, rfl⟩ := List.exists_cons_of_ne_nil hne
  have hstep := undotted_step hp (hnames name List.mem_cons_self)
    (hfirst.imp_right fun h => h name List.mem_cons_self)
  rw [List.foldl_cons]
  exact hstep.foldl fun other ho =>
    slash_notMem_of_isNameOrEmpty (hnames other (List.mem_cons_of_mem name ho))

lemma usable_of_foldl_step (hp : Undotted p) (hnames : ∀ name ∈ names, IsNameOrEmpty name)
    (h : usable (names.foldl step p) = true) : usable p = true := by
  rw [usable_iff] at h ⊢
  exact FileTree.spellingFault?_of_beginning hp.nonempty
    (prefix_foldl_step (fun name hm => slash_notMem_of_isNameOrEmpty (hnames name hm)) hp) h

/-- **What a path leads to with names behind it** is told by what it leads to without, unless the path gets
too long. -/
lemma toOption_find_foldl (hp : Standing p) (hfirst : Undotted p ∨ ∀ name ∈ names.head?, IsFileName name)
    (hnames : ∀ name ∈ names, IsNameOrEmpty name) (h : usable (names.foldl step p) = true) :
    (tree.find (names.foldl step p)).toOption = (tree.find p).toOption.bind (·.follow? names) := by
  induction names generalizing p with
  | nil => exact (Option.bind_fun_some _).symm
  | cons name names ih =>
      obtain ⟨hname, hnames⟩ := List.forall_mem_cons.mp hnames
      have hstep : Undotted (step p name) := undotted_step hp hname (hfirst.imp_right fun h => h name rfl)
      have hspelled := usable_iff.mp (usable_of_foldl_step hstep hnames h)
      have hnext : (tree.find (step p name)).toOption = (tree.find p).toOption.bind (·.child? name) := by
        rcases hname with rfl | hname
        · exact toOption_find_step_empty (hfirst.resolve_right fun h => (h "" rfl).1 rfl) hspelled
        · exact toOption_find_step hp hname hspelled
      rw [List.foldl_cons, ih (.inr hstep) (.inl hstep) hnames h, hnext, Option.bind_assoc]
      rfl

/-! ## Ways -/

/-- What a leg may write behind a file or folder. -/
def Leg.ways (node : Node) : Leg → List (List String)
  | .named name => [[name]]
  | .fitting pattern =>
      ((node.names.filter fun name => !isHidden name).filter (fits pattern)).map fun name => [name]
  | .deep pattern => (node.seen.filter fun d => fits pattern (d.1.getLast?.getD "")).map Prod.fst
  | .folders => (node.seen.filter Prod.snd).map Prod.fst

/-- The names by which legs lead to files from a file or folder. -/
def waysFrom : List Leg → Node → List (List String)
  | [], node => if node.isFolder then [] else [[]]
  | leg :: rest, node => (leg.ways node).flatMap fun names =>
      ((node.follow? names).toList.flatMap (waysFrom rest)).map (names ++ ·)

/-- The names by which legs lead to files from a path. -/
def waysBelow (tree : FileTree) (legs : List Leg) (p : Path) : List (List String) :=
  (tree.find p).toOption.toList.flatMap (waysFrom legs)

/-- A leg writes at least one name. -/
lemma Leg.Names.of_mem_ways {allowed : String → Prop} (hnode : node.Named)
    (hfile : ∀ name, IsFileName name → allowed name) (hleg : leg.Names allowed) (h : names ∈ leg.ways node) :
    names ≠ [] ∧ ∀ name ∈ names, allowed name := by
  have hseen : ∀ d ∈ node.seen, d.1 ≠ [] ∧ ∀ name ∈ d.1, allowed name := by
    intro d hd
    obtain ⟨other, ho, rfl⟩ := List.mem_map.mp hd
    have hmem := (List.mem_filter.mp ho).1
    obtain ⟨first, others, hother⟩ := Node.exists_cons_of_mem_descendants hmem
    exact ⟨hother ▸ List.cons_ne_nil first others, fun name hname => hfile name (hnode other hmem name hname)⟩
  cases leg with
  | named name =>
      rw [Leg.ways, List.mem_singleton] at h
      rw [h]
      exact ⟨List.cons_ne_nil _ _, List.forall_mem_singleton.mpr hleg⟩
  | fitting pattern =>
      obtain ⟨name, hname, rfl⟩ := List.mem_map.mp h
      have hmem : name ∈ node.names := (List.mem_filter.mp (List.mem_filter.mp hname).1).1
      exact ⟨List.cons_ne_nil _ _, List.forall_mem_singleton.mpr (hfile name (hnode.isFileName name hmem))⟩
  | deep pattern =>
      obtain ⟨d, hd, rfl⟩ := List.mem_map.mp h
      exact hseen d (List.mem_filter.mp hd).1
  | folders =>
      obtain ⟨d, hd, rfl⟩ := List.mem_map.mp h
      exact hseen d (List.mem_filter.mp hd).1

lemma names_of_mem_waysFrom (hnode : node.Named) (hlegs : ∀ leg ∈ legs, leg.Names IsNameOrEmpty)
    (h : names ∈ waysFrom legs node) : ∀ name ∈ names, IsNameOrEmpty name := by
  induction legs generalizing node names with
  | nil =>
      rw [waysFrom] at h
      split_ifs at h
      · cases h
      · rw [List.mem_singleton.mp h]
        exact nofun
  | cons leg rest ih =>
      obtain ⟨hleg, hrest⟩ := List.forall_mem_cons.mp hlegs
      obtain ⟨front, hfront, h⟩ := List.mem_flatMap.mp h
      obtain ⟨back, hback, rfl⟩ := List.mem_map.mp h
      obtain ⟨child, hchild, hback⟩ := List.mem_flatMap.mp hback
      rw [Option.mem_toList] at hchild
      exact List.forall_mem_append.mpr
        ⟨(hleg.of_mem_ways hnode (fun _ => .inr) hfront).2, ih (hnode.follow? hchild) hrest hback⟩

/-- The first name that a leg writes is the first on the way. -/
lemma exists_cons_of_mem_waysFrom (hnode : node.Named) (hfirst : leg.Names IsFileName)
    (h : names ∈ waysFrom (leg :: rest) node) : ∃ name others, names = name :: others ∧ IsFileName name := by
  obtain ⟨front, hfront, h⟩ := List.mem_flatMap.mp h
  obtain ⟨back, -, rfl⟩ := List.mem_map.mp h
  obtain ⟨hne, hfiles⟩ := hfirst.of_mem_ways hnode (fun _ => id) hfront
  obtain ⟨name, others, rfl⟩ := List.exists_cons_of_ne_nil hne
  exact ⟨name, others ++ back, rfl, hfiles name List.mem_cons_self⟩

/-- At the end of a way there is a file. -/
lemma exists_file_of_mem_waysFrom (h : names ∈ waysFrom legs node) :
    ∃ content, node.follow? names = some (.file content) := by
  induction legs generalizing node names with
  | nil =>
      cases node with
      | file content =>
          rw [List.mem_singleton.mp h]
          exact ⟨content, rfl⟩
      | folder entries => cases h
  | cons leg rest ih =>
      obtain ⟨front, -, h⟩ := List.mem_flatMap.mp h
      obtain ⟨back, hback, rfl⟩ := List.mem_map.mp h
      obtain ⟨child, hchild, hback⟩ := List.mem_flatMap.mp hback
      rw [Option.mem_toList] at hchild
      rw [Node.follow?_append, hchild]
      exact ih hback

/-! ## The files that legs lead to -/

lemma waysBelow_of_ok (h : tree.find p = .ok node) : waysBelow tree legs p = waysFrom legs node := by
  rw [waysBelow, h]
  exact List.append_nil _

lemma waysBelow_of_error {fault : FileFault} (h : tree.find p = .error fault) :
    waysBelow tree legs p = [] := by
  rw [waysBelow, h]
  rfl

/-- The files that are written behind a path, as far as the paths can be used. -/
def filesAt (p : Path) (ways : List (List String)) : List Path :=
  (ways.map fun names => names.foldl step p).filter usable

lemma filesAt_flatMap {α : Type} (p : Path) (f : α → List (List String)) (l : List α) :
    filesAt p (l.flatMap f) = l.flatMap fun x => filesAt p (f x) := by
  rw [filesAt, List.map_flatMap, List.filter_flatMap]
  rfl

lemma filesAt_map_append (p : Path) (names : List String) (ways : List (List String)) :
    filesAt p (ways.map (names ++ ·)) = filesAt (names.foldl step p) ways := by
  rw [filesAt, filesAt, List.map_map]
  congr 2
  funext more
  exact List.foldl_append

/-- Nothing can be used behind a path that cannot be used. -/
lemma filesAt_eq_nil {ways : List (List String)} (hp : Undotted p) (h : ¬ usable p = true)
    (hways : ∀ names ∈ ways, ∀ name ∈ names, IsNameOrEmpty name) : filesAt p ways = [] := by
  refine List.filter_eq_nil_iff.mpr fun file hfile husable => h ?_
  obtain ⟨names, hm, rfl⟩ := List.mem_map.mp hfile
  exact usable_of_foldl_step hp (hways names hm) husable

lemma hits_nil (tree : FileTree) (p : Path) : hits tree [] p = filesAt p (waysBelow tree [] p) := by
  have hhits : hits tree [] p = if tree.isFile p then [p] else [] := by
    rw [hits, expand, List.filter_cons, List.filter_nil]
  rw [hhits, FileTree.isFile]
  cases hfind : tree.find p with
  | error fault =>
      rw [waysBelow_of_error hfind]
      rfl
  | ok node =>
      have husable : usable p = true := usable_of_holds (FileTree.holds_iff.mpr ⟨node, hfind⟩)
      rw [waysBelow_of_ok hfind, waysFrom]
      cases node with
      | file content =>
          have hfile : filesAt p [[]] = [p] := List.filter_cons_of_pos husable
          exact hfile.symm
      | folder entries => rfl

section

variable (hnamed : tree.Named)

include hnamed

lemma named_of_find (h : tree.find p = .ok node) : node.Named := by
  obtain ⟨place, -, hnode⟩ := FileTree.find_eq_ok.mp h
  exact hnamed.descendants hnode

lemma names_of_mem_waysBelow (hlegs : ∀ leg ∈ legs, leg.Names IsNameOrEmpty)
    (h : names ∈ waysBelow tree legs p) : ∀ name ∈ names, IsNameOrEmpty name := by
  cases hfind : tree.find p with
  | error fault =>
      rw [waysBelow_of_error hfind] at h
      cases h
  | ok node =>
      rw [waysBelow_of_ok hfind] at h
      exact names_of_mem_waysFrom (named_of_find hnamed hfind) hlegs h

/-- What is found behind the names that a leg writes is told by what these lead to. -/
lemma filesAt_waysBelow (hlegs : ∀ leg ∈ rest, leg.Names IsNameOrEmpty) (hfind : tree.find p = .ok node)
    (hp : Standing p) (hne : names ≠ []) (hnames : ∀ name ∈ names, IsNameOrEmpty name)
    (hfirst : Undotted p ∨ ∀ name ∈ names, IsFileName name) :
    filesAt (names.foldl step p) (waysBelow tree rest (names.foldl step p)) =
      filesAt p (((node.follow? names).toList.flatMap (waysFrom rest)).map (names ++ ·)) := by
  have hundotted := undotted_foldl_step hp hne hnames hfirst
  rw [filesAt_map_append]
  by_cases husable : usable (names.foldl step p) = true
  · have hfound : (tree.find (names.foldl step p)).toOption = _ := toOption_find_foldl hp
      (hfirst.imp_right fun h name hm => h name (List.mem_of_mem_head? hm)) hnames husable
    rw [hfind] at hfound
    rw [waysBelow, hfound]
    rfl
  · rw [filesAt_eq_nil hundotted husable fun _ => names_of_mem_waysBelow hnamed hlegs,
      filesAt_eq_nil hundotted husable]
    intro more hmore
    obtain ⟨child, hchild, hmore⟩ := List.mem_flatMap.mp hmore
    rw [Option.mem_toList] at hchild
    exact names_of_mem_waysFrom ((named_of_find hnamed hfind).follow? hchild) hlegs hmore

end

/-! ## Legs that write names of files -/

/-- The two names that every folder has are no names of files. -/
lemma dotNames_eq_nil {pattern : List Token} (h : (Leg.fitting pattern).Names IsNameOrEmpty) :
    dotNames pattern = [] := by
  refine List.eq_nil_iff_forall_not_mem.mpr fun name hname => ne_dots_of_isNameOrEmpty (h name hname) ?_
  rw [dotNames] at hname
  split_ifs at hname
  · simpa [or_comm] using (List.mem_filter.mp hname).1
  · cases hname

section

variable (hp : Standing p) (hfirst : Undotted p ∨ leg.Names IsFileName) (hleg : leg.Names IsNameOrEmpty)

include hleg in
lemma hits_cons_of_names : hits tree (leg :: rest) p =
    (leg.writes tree p).flatMap fun names => hits tree rest (names.foldl step p) := by
  rw [hits, expand_cons_of_dotNames, List.filter_flatMap]
  · rfl
  · rintro pattern rfl name hname
    rw [dotNames_eq_nil hleg] at hname
    cases hname

include hp hfirst hleg in
/-- A leg writes nothing where nothing is. -/
lemma writes_of_error {fault : FileFault} (hfind : tree.find p = .error fault) : leg.writes tree p = [] := by
  have hfolder : tree.isFolder p = false := by rw [FileTree.isFolder, hfind]
  cases leg with
  | named name =>
      have hholds : ¬ tree.holds (step p name) = true := by
        intro h
        obtain ⟨child, hnext⟩ := FileTree.holds_iff.mp h
        have husable : usable (step p name) = true := usable_of_holds h
        have hfound : (tree.find ([name].foldl step p)).toOption = _ :=
          toOption_find_foldl hp (hfirst.imp_right fun h => by simpa using (show IsFileName name from h))
            (List.forall_mem_singleton.mpr hleg) husable
        rw [List.foldl_cons, List.foldl_nil, hnext, hfind] at hfound
        cases hfound
      rw [Leg.writes, leadsOn, if_neg (ne_dots_of_isNameOrEmpty hleg), if_neg hholds]
  | fitting pattern =>
      rw [Leg.writes, hfolder, visible, hfind]
      rfl
  | deep pattern =>
      rw [Leg.writes, below, hfind]
      rfl
  | folders =>
      rw [Leg.writes, below, hfind]
      rfl

include hleg in
/-- Behind a file or folder, a leg writes its ways; if a name leads nowhere, nothing is found there. -/
lemma flatMap_writes_of_ok {α : Type} {behind : List String → List α} (hfind : tree.find p = .ok node)
    (hbehind : ∀ name, leg = .named name → tree.holds (step p name) = false → behind [name] = []) :
    (leg.writes tree p).flatMap behind = (leg.ways node).flatMap behind := by
  cases leg with
  | named name =>
      rw [Leg.writes, leadsOn, if_neg (ne_dots_of_isNameOrEmpty hleg), Leg.ways]
      cases hholds : tree.holds (step p name) with
      | true => rw [if_pos rfl]
      | false => rw [if_neg Bool.false_ne_true, List.flatMap_nil, List.flatMap_singleton, hbehind name rfl hholds]
  | fitting pattern =>
      rw [Leg.writes, dotNames_eq_nil hleg, ite_self, List.nil_append, visible, hfind]
      rfl
  | deep pattern =>
      rw [Leg.writes, below, hfind]
      rfl
  | folders =>
      rw [Leg.writes, below, hfind]
      rfl

include hp hfirst hleg in
/-- One leg further back. -/
lemma hits_eq_of_cons (hnamed : tree.Named) (hlegs : ∀ leg ∈ rest, leg.Names IsNameOrEmpty)
    (hrest : ∀ q, Undotted q → hits tree rest q = filesAt q (waysBelow tree rest q)) :
    hits tree (leg :: rest) p = filesAt p (waysBelow tree (leg :: rest) p) := by
  rw [hits_cons_of_names hleg]
  cases hfind : tree.find p with
  | error fault =>
      rw [writes_of_error hp hfirst hleg hfind, waysBelow_of_error hfind]
      rfl
  | ok node =>
      have hnode := named_of_find hnamed hfind
      have hnothing : ∀ name, leg = .named name → tree.holds (step p name) = false →
          hits tree rest ([name].foldl step p) = [] := by
        rintro name rfl hholds
        rw [List.foldl_cons, List.foldl_nil, hrest _ (undotted_step hp hleg hfirst)]
        cases hnext : tree.find (step p name) with
        | error fault =>
            rw [waysBelow_of_error hnext]
            rfl
        | ok child =>
            rw [FileTree.holds_iff.mpr ⟨child, hnext⟩] at hholds
            cases hholds
      rw [flatMap_writes_of_ok hleg hfind hnothing, waysBelow_of_ok hfind, waysFrom, filesAt_flatMap]
      refine List.flatMap_congr fun names hm => ?_
      obtain ⟨hne, hnames⟩ := hleg.of_mem_ways hnode (fun _ => .inr) hm
      have hfiles : Undotted p ∨ ∀ name ∈ names, IsFileName name :=
        hfirst.imp_right fun h => (h.of_mem_ways hnode (fun _ => id) hm).2
      rw [hrest _ (undotted_foldl_step hp hne hnames hfiles)]
      exact filesAt_waysBelow hnamed hlegs hfind hp hne hnames hfiles

end

/-- **The files that legs lead to** are the ways on from where they start, as far as the paths can be
used. -/
lemma hits_eq (hnamed : tree.Named) (hlegs : ∀ leg ∈ legs, leg.Names IsNameOrEmpty) (hp : Undotted p) :
    hits tree legs p = filesAt p (waysBelow tree legs p) := by
  induction legs generalizing p with
  | nil => exact hits_nil tree p
  | cons leg rest ih =>
      obtain ⟨hleg, hrest⟩ := List.forall_mem_cons.mp hlegs
      exact hits_eq_of_cons (.inr hp) (.inl hp) hleg hnamed hrest fun q hq => ih hrest hq

/-- This also holds from the working folder, where the first leg may only write names of files. -/
lemma hits_eq_of_standing (hnamed : tree.Named) (hlegs : ∀ other ∈ leg :: rest, other.Names IsNameOrEmpty)
    (hfirst : leg.Names IsFileName) (hp : Standing p) :
    hits tree (leg :: rest) p = filesAt p (waysBelow tree (leg :: rest) p) := by
  obtain ⟨hleg, hrest⟩ := List.forall_mem_cons.mp hlegs
  exact hits_eq_of_cons hp (.inr hfirst) hleg hnamed hrest fun q hq => hits_eq hnamed hrest hq

end Glob

end AddonRegistry
