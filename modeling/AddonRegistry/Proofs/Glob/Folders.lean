import AddonRegistry.Proofs.Glob.Ways

/-!
# The folders that a search reads

What a wildcard can fit is told by the folder that is read, and only the folders that it fits are read in
turn.  So a search never asks for a folder that is not there.  But it knows a folder from the one that
lists it, before it uses the path: and a folder whose path is too long cannot be read.

* `Leg.listed`, `Leg.entered`, **`mem_reads_cons`** — the folders that a leg reads, and those behind which the
  search goes on.
* `below_of_mem_listed`, `cases_of_mem_entered` — the ways in which a leg can come by either.
* `exists_of_mem_reads` — a folder that is read is the one the search starts from, with names behind it.
* **`exists_twin_of_mem_reads`** — below two spellings of a folder, the same folders are read.
* `foldersRead_of_reaches` — what the search for a pattern reads below a folder that is there.
* **`exists_filesMatchingOne_of_room`** — what can be read under one spelling can be read under the other.
* `Regular`, **`readable_iff_usable`** — a folder that is read can be read if its path can be used.
-/

namespace AddonRegistry.Glob

variable {tree : FileTree} {root base other p q : Path} {pattern : String} {names : List String}
  {place : List String} {leg : Leg} {rest : List Leg}

/-! ## What is read -/

/-- The folders that a leg reads, by the names that lead there. -/
def Leg.listed (tree : FileTree) (p : Path) : Leg → List (List String)
  | .named _ => []
  | .fitting _ => [[]]
  | .deep _ | .folders => [] :: ((below tree p).filter Prod.snd).map Prod.fst

/-- The folders behind which the search goes on, by the names that lead there. -/
def Leg.entered (tree : FileTree) (p : Path) : Leg → List (List String)
  | .named name => if tree.isFolder (step p name) then [[name]] else []
  | .fitting pattern =>
      ((dotNames pattern).filter (fun name => tree.isFolder (step p name)) ++
        ((visible tree p).filter (fits pattern)).filter (listsFolder tree p)).map fun name => [name]
  | .deep pattern =>
      (((below tree p).filter Prod.snd).filter fun d => fits pattern (d.1.getLast?.getD "")).map Prod.fst
  | .folders => ((below tree p).filter Prod.snd).map Prod.fst

lemma mem_below_of_mem_map (h : names ∈ ((below tree p).filter Prod.snd).map Prod.fst) :
    (names, true) ∈ below tree p := by
  obtain ⟨⟨names, isFolder⟩, hd, rfl⟩ := List.mem_map.mp h
  obtain ⟨hmem, rfl⟩ := List.mem_filter.mp hd
  exact hmem

/-- A leg reads the folder that it is at, and folders below. -/
lemma below_of_mem_listed (h : names ∈ leg.listed tree p) : names = [] ∨ (names, true) ∈ below tree p := by
  cases leg with
  | named name => cases h
  | fitting pattern => exact .inl (List.mem_singleton.mp h)
  | deep pattern => exact (List.mem_cons.mp h).imp_right mem_below_of_mem_map
  | folders => exact (List.mem_cons.mp h).imp_right mem_below_of_mem_map

/-- The search goes on behind a name that the leg itself gives, if that leads to a folder, behind a folder that
is listed, and behind folders below. -/
lemma cases_of_mem_entered (h : names ∈ leg.entered tree p) :
    (∃ name, names = [name] ∧ tree.isFolder (step p name) ∧
      ∀ allowed : String → Prop, leg.Names allowed → allowed name) ∨
    (∃ name ∈ visible tree p, names = [name] ∧ listsFolder tree p name) ∨ (names, true) ∈ below tree p := by
  cases leg with
  | named name =>
      rw [Leg.entered] at h
      split_ifs at h with hfolder
      · exact .inl ⟨name, List.mem_singleton.mp h, hfolder, fun _ hleg => hleg⟩
      · cases h
  | fitting pattern =>
      obtain ⟨name, hname, rfl⟩ := List.mem_map.mp h
      rcases List.mem_append.mp hname with hname | hname
      · obtain ⟨hdots, hfolder⟩ := List.mem_filter.mp hname
        exact .inl ⟨name, rfl, hfolder, fun _ hleg => hleg name hdots⟩
      · obtain ⟨hfits, hlists⟩ := List.mem_filter.mp hname
        exact .inr (.inl ⟨name, (List.mem_filter.mp hfits).1, rfl, hlists⟩)
  | deep pattern => exact .inr (.inr (mem_below_of_mem_map ((List.filter_sublist.map _).subset h)))
  | folders => exact .inr (.inr (mem_below_of_mem_map h))

/-- **What is read** is read by the first leg, or behind the folders that it leads to. -/
lemma mem_reads_cons (hp : Undotted p) : q ∈ reads tree (leg :: rest) p ↔
    (∃ names ∈ leg.listed tree p, q = names.foldl step p) ∨
      ∃ names ∈ leg.entered tree p, q ∈ reads tree rest (names.foldl step p) := by
  cases leg with
  | named name =>
      rw [reads, Leg.listed, Leg.entered]
      split_ifs <;> simp
  | fitting pattern =>
      simp only [reads, Leg.listed, Leg.entered, flatMap_ite, ← hp.step_eq, List.mem_cons, List.not_mem_nil,
        or_false, exists_eq_left, List.foldl_nil, List.mem_append, List.mem_flatMap, List.mem_map, or_and_right,
        exists_or, exists_exists_and_eq_and, List.foldl_cons]
  | deep pattern =>
      simp only [reads, Leg.listed, Leg.entered, flatMap_ite, List.mem_cons, List.mem_append, List.not_mem_nil,
        or_false, List.mem_flatMap, List.mem_map, or_and_right, exists_or, exists_exists_and_eq_and,
        exists_eq_left, List.foldl_nil, and_or_left, List.mem_ite_nil_right]
      simp only [List.mem_filter, and_assoc, or_assoc]
      exact or_congr_right or_comm
  | folders =>
      simp only [reads, Leg.listed, Leg.entered, flatMap_ite, List.mem_cons, List.mem_append, List.not_mem_nil,
        or_false, List.mem_flatMap, List.mem_map, or_and_right, exists_or, exists_exists_and_eq_and,
        exists_eq_left, List.foldl_nil, and_or_left, or_assoc]
      exact or_congr_right or_comm

section

variable (hnamed : tree.Named)

include hnamed

lemma isFileName_of_mem_listed (h : names ∈ leg.listed tree p) : ∀ name ∈ names, IsFileName name := by
  rcases below_of_mem_listed h with rfl | h
  · exact nofun
  · exact (isFileName_of_mem_below hnamed h).2

/-- The search goes on behind names that the leg writes. -/
lemma slash_notMem_of_mem_entered (hleg : leg.Names fun name => '/' ∉ name.toList)
    (h : names ∈ leg.entered tree p) : ∀ name ∈ names, '/' ∉ name.toList := by
  rcases cases_of_mem_entered h with ⟨name, rfl, -, hgiven⟩ | ⟨name, hvisible, rfl, -⟩ | h
  · exact List.forall_mem_singleton.mpr (hgiven _ hleg)
  · exact List.forall_mem_singleton.mpr (isFileName_of_mem_visible hnamed hvisible).2.2.2
  · exact fun name hm => ((isFileName_of_mem_below hnamed h).2 name hm).2.2.2

/-- **A folder that is read** is the one that the search starts from, with names behind it. -/
lemma exists_of_mem_reads {legs : List Leg} (hlegs : Slashless legs) (hp : Undotted p) (h : q ∈ reads tree legs p) :
    ∃ names : List String, (∀ name ∈ names, '/' ∉ name.toList) ∧ q = names.foldl step p := by
  induction legs generalizing p with
  | nil => cases h
  | cons leg rest ih =>
      obtain ⟨hleg, hrest⟩ := List.forall_mem_cons.mp hlegs
      rcases (mem_reads_cons hp).mp h with ⟨names, hnames, hq⟩ | ⟨front, hfront, h⟩
      · exact ⟨names, fun name hm => (isFileName_of_mem_listed hnamed hnames name hm).2.2.2, hq⟩
      · have hslash := slash_notMem_of_mem_entered hnamed hleg hfront
        obtain ⟨back, hback, rfl⟩ := ih hrest (hp.foldl hslash) h
        exact ⟨front ++ back, List.forall_mem_append.mpr ⟨hslash, hback⟩, (List.foldl_append ..).symm⟩

end

/-! ## Below two spellings of a folder -/

/-- A leg reads the same behind paths to one place. -/
lemma listed_eq (hfind : tree.find p = tree.find q) : leg.listed tree p = leg.listed tree q := by
  cases leg <;> simp only [Leg.listed, below, hfind]

/-- What leads on behind one of two paths to one place leads on behind the other, if it leads to the same
place. -/
lemma mem_entered_of_find_eq (hfind : tree.find p = tree.find q)
    (hnext : tree.find (names.foldl step p) = tree.find (names.foldl step q)) (h : names ∈ leg.entered tree p) :
    names ∈ leg.entered tree q := by
  have hfolder : tree.isFolder (names.foldl step p) = tree.isFolder (names.foldl step q) := by
    rw [FileTree.isFolder, FileTree.isFolder, hnext]
  have hvisible : visible tree p = visible tree q := by rw [visible, visible, hfind]
  have hlists : listsFolder tree p = listsFolder tree q := by
    funext name
    rw [listsFolder, listsFolder, hfind]
  have hbelow : below tree p = below tree q := by rw [below, below, hfind]
  cases leg with
  | named name =>
      rw [Leg.entered] at h ⊢
      split_ifs at h with hname
      · cases List.mem_singleton.mp h
        rw [List.foldl_cons, List.foldl_nil, List.foldl_cons, List.foldl_nil] at hfolder
        rw [← hfolder, if_pos hname]
        exact h
      · cases h
  | fitting pattern =>
      obtain ⟨name, hname, rfl⟩ := List.mem_map.mp h
      rw [List.foldl_cons, List.foldl_nil, List.foldl_cons, List.foldl_nil] at hfolder
      refine List.mem_map.mpr ⟨name, ?_, rfl⟩
      rw [List.mem_append, List.mem_filter] at hname ⊢
      rwa [← hfolder, ← hvisible, ← hlists]
  | deep pattern => rwa [Leg.entered, ← hbelow]
  | folders => rwa [Leg.entered, ← hbelow]

/-- **Below two spellings of a folder**, a folder that is read under one of them is read under the other, if
it leaves room for that. -/
lemma exists_twin_of_mem_reads (hnamed : tree.Named) (hbase : LeadsTo tree base place)
    (hother : LeadsTo tree other place) (hroom : q.text.utf8ByteSize + other.text.utf8ByteSize < longestPath) :
    ∀ {legs : List Leg} {names : List String}, Slashless legs → (∀ name ∈ names, '/' ∉ name.toList) →
      q ∈ reads tree legs (names.foldl step base) → ∃ more : List String,
        (∀ name ∈ more, '/' ∉ name.toList) ∧ q = more.foldl step base ∧
          more.foldl step other ∈ reads tree legs (names.foldl step other) := by
  intro legs
  induction legs with
  | nil => exact fun _ _ h => nomatch h
  | cons leg rest ih =>
      intro names hlegs hnames h
      have hundotted := hbase.undotted.foldl hnames
      have hundotted' := hother.undotted.foldl hnames
      obtain ⟨hleg, hrest⟩ := List.forall_mem_cons.mp hlegs
      -- nothing on the way to the folder is too long under either spelling
      have hsame {front : List String} (hfront : ∀ name ∈ front, '/' ∉ name.toList)
          (hq : ∃ back : List String, (∀ name ∈ back, '/' ∉ name.toList) ∧
            q = (front ++ back).foldl step base) :
          tree.find (front.foldl step base) = tree.find (front.foldl step other) := by
        obtain ⟨back, hback, rfl⟩ := hq
        exact hbase.find_eq_of_room hother hfront hback hroom
      rcases (mem_reads_cons hundotted).mp h with ⟨more, hmore, hq⟩ | ⟨front, hfront, hread⟩
      · have hslash : ∀ name ∈ more, '/' ∉ name.toList := fun name hm =>
          (isFileName_of_mem_listed hnamed hmore name hm).2.2.2
        rw [← List.foldl_append] at hq
        have hfind := hsame hnames ⟨more, hslash, hq⟩
        refine ⟨names ++ more, List.forall_mem_append.mpr ⟨hnames, hslash⟩, hq,
          (mem_reads_cons hundotted').mpr (.inl ⟨more, listed_eq hfind ▸ hmore, ?_⟩)⟩
        rw [List.foldl_append]
      · have hslash := slash_notMem_of_mem_entered hnamed hleg hfront
        have hall : ∀ name ∈ names ++ front, '/' ∉ name.toList := List.forall_mem_append.mpr ⟨hnames, hslash⟩
        obtain ⟨back, hback, hq⟩ := exists_of_mem_reads hnamed hrest (hundotted.foldl hslash) hread
        rw [← List.foldl_append] at hread
        rw [← List.foldl_append, ← List.foldl_append] at hq
        have hfind := hsame hnames ⟨front ++ back, List.forall_mem_append.mpr ⟨hslash, hback⟩, hq⟩
        rw [← List.append_assoc] at hq
        have hnext := hsame hall ⟨back, hback, hq⟩
        obtain ⟨more, hmore, rfl, hread'⟩ := ih hrest hall hread
        rw [List.foldl_append] at hnext hread'
        rw [List.foldl_append] at hnext
        exact ⟨more, hmore, rfl, (mem_reads_cons hundotted').mpr
          (.inr ⟨front, mem_entered_of_find_eq hfind hnext hfront, hread'⟩)⟩

/-! ## The search for a pattern -/

/-- A search goes through names without reading a folder if each of them leads to one. -/
lemma reads_named : ∀ {names : List String} {p : Path},
    (∀ front, front <+: names → tree.isFolder (front.foldl step p)) →
      reads tree (names.map .named ++ rest) p = reads tree rest (names.foldl step p)
  | [], _, _ => rfl
  | name :: names, p, h => by
      have hfolder : tree.isFolder (step p name) := h [name] ⟨names, rfl⟩
      rw [List.map_cons, List.cons_append, reads, if_pos hfolder, List.foldl_cons]
      exact reads_named fun front hf => h (name :: front) (List.cons_prefix_cons.mpr ⟨rfl, hf⟩)

section

variable {patterns : List (List Token)} {files : List Path} (hroot : Undotted root)
  (h : tree.Reaches root place) (hplain : IsPlain root.text.toList)
  (hrelative : Path.isAbsolute ⟨pattern⟩ = false)

include hroot h hplain hrelative

/-- **What the search for a pattern reads** below a folder that is there. -/
lemma foldersRead_of_reaches : foldersRead tree root pattern =
    ((patternsBelow? pattern).map fun patterns => reads tree (legs false patterns) (written root)).getD [] := by
  have hnone : [] <+: namesTo root := List.nil_prefix
  have hstart := isFolder_of_prefix_namesTo hroot h hnone
  rw [List.foldl_nil] at hstart
  have hreads (rest : List Leg) : reads tree ((namesTo root).map .named ++ rest) (startOf root.text.toList).1 =
      reads tree rest (written root) := reads_named fun _ hf => isFolder_of_prefix_namesTo hroot h hf
  rw [foldersRead_escaped hroot.nonempty hrelative, map_literalLeg_namesTo hplain]
  simp only [hstart, if_true, hreads]

/-- **What can be searched for under one spelling of a folder** can be searched for under another one, if the
folders that are read there leave room for the first. -/
lemma exists_filesMatchingOne_of_room (hnamed : tree.Named) (hother : Undotted other)
    (h' : tree.Reaches other place) (hplain' : IsPlain other.text.toList)
    (hfound : filesMatchingOne tree root pattern = .ok files)
    (hroom : Room (foldersRead tree other pattern) root) :
    ∃ files', filesMatchingOne tree other pattern = .ok files' := by
  obtain ⟨hfiles, hread⟩ := filesMatchingOne_eq_ok_iff.mp hfound
  rw [filesFound?_of_reaches hroot h hplain hrelative] at hfiles
  obtain ⟨patterns, hpatterns, -⟩ := Option.map_eq_some_iff.mp hfiles
  have hfiles' := filesFound?_of_reaches hother h' hplain' hrelative
  rw [hpatterns, Option.map_some] at hfiles'
  refine ⟨_, filesMatchingOne_eq_ok_iff.mpr ⟨hfiles', fun folder hf => ?_⟩⟩
  have hspace := hroom.written hroot folder hf
  have hnone : ∀ name ∈ ([] : List String), '/' ∉ name.toList := List.forall_mem_nil _
  have hbase := leadsTo_written hroot h
  have hbase' := leadsTo_written hother h'
  rw [foldersRead_of_reaches hother h' hplain' hrelative, hpatterns] at hf
  obtain ⟨names, hnames, rfl, htwin⟩ := exists_twin_of_mem_reads hnamed hbase' hbase hspace
    (slashless_of_patternsBelow? hpatterns) hnone hf
  have hholds := hread (names.foldl step (written root)) (by
    rwa [foldersRead_of_reaches hroot h hplain hrelative, hpatterns])
  rw [← List.append_nil names] at hspace
  rwa [FileTree.holds, hbase'.find_eq_of_room hbase hnames hnone hspace]

end

/-! ## Folders that can be read -/

/-- That every name in a tree leads to what has that name: none of them is too long, and no two in a folder
are the same. -/
def Regular (tree : FileTree) : Prop := ∀ d ∈ tree.root.descendants, tree.root.follow? d.1 = some d.2

lemma get?_of_follow? {node child : Node} (hnames : ∀ name ∈ names, name ≠ "")
    (h : node.follow? names = some child) : node.get? names = some child := by
  induction names generalizing node with
  | nil => rwa [Node.get?_nil]
  | cons name names ih =>
      obtain ⟨hname, hnames⟩ := List.forall_mem_cons.mp hnames
      obtain ⟨next, hnext, hrest⟩ := Option.bind_eq_some_iff.mp h
      rw [Node.child?, if_neg hname] at hnext
      split_ifs at hnext
      rw [← List.singleton_append, Node.get?_append, hnext]
      exact ih hnames hrest

section

variable {node : Node} {d : List String × Node} (hnamed : tree.Named) (hregular : Regular tree)

include hnamed hregular

lemma follow?_of_mem_descendants (hfind : tree.find p = .ok node) (hd : d ∈ node.descendants) :
    node.follow? d.1 = some d.2 := by
  obtain ⟨place, -, hnode⟩ := FileTree.find_eq_ok.mp hfind
  have hmem := Node.mem_descendants_of_get? hd hnode
  have hfollow := hregular _ hmem
  rw [Node.follow?_append] at hfollow
  obtain ⟨found, hfound, hrest⟩ := Option.bind_eq_some_iff.mp hfollow
  have hget := get?_of_follow? (fun name hm => (hnamed _ hmem name (List.mem_append_left _ hm)).1) hfound
  cases hget.symm.trans hnode
  exact hrest

/-- A folder that is listed is there, if its path can be used. -/
lemma isFolder_of_mem_descendants (hp : Undotted p) (hfind : tree.find p = .ok node)
    (hd : d ∈ node.descendants) (hfolder : d.2.isFolder) (husable : usable (d.1.foldl step p) = true) :
    tree.isFolder (d.1.foldl step p) := by
  have hnames : ∀ name ∈ d.1, IsNameOrEmpty name := fun name hm => .inr (named_of_find hnamed hfind d hd name hm)
  have hfound : (tree.find (d.1.foldl step p)).toOption = _ :=
    toOption_find_foldl (.inr hp) (.inl hp) hnames husable
  rw [hfind] at hfound
  have hfollow : (some node).bind (·.follow? d.1) = some d.2 :=
    follow?_of_mem_descendants hnamed hregular hfind hd
  rw [Except.toOption, hfollow, toOption_eq_some_iff] at hfound
  rw [FileTree.isFolder, hfound]
  cases hnode : d.2 with
  | file content => rw [hnode] at hfolder; cases hfolder
  | folder entries => rfl

lemma isFolder_of_mem_below (hp : Undotted p) (h : (names, true) ∈ below tree p)
    (husable : usable (names.foldl step p) = true) : tree.isFolder (names.foldl step p) := by
  rw [below] at h
  split at h
  · next node hfind =>
      obtain ⟨d, hd, he⟩ := List.mem_map.mp h
      obtain ⟨rfl, hfolder⟩ := Prod.mk.inj he
      exact isFolder_of_mem_descendants hnamed hregular hp hfind (List.mem_filter.mp hd).1 hfolder husable
  · cases h

lemma isFolder_of_listsFolder {name : String} (hp : Undotted p) (h : listsFolder tree p name)
    (husable : usable (step p name) = true) : tree.isFolder (step p name) := by
  rw [listsFolder] at h
  split at h
  · next node hfind =>
      cases hchild : node.get? [name] with
      | none =>
          rw [hchild] at h
          cases h
      | some child =>
          rw [hchild, Option.any_some] at h
          exact isFolder_of_mem_descendants (d := ([name], child)) hnamed hregular hp hfind
            (Node.mem_descendants_of_get?_singleton hchild) h husable
  · cases h

/-- A folder behind which a search goes on is there, if its path can be used. -/
lemma isFolder_of_mem_entered (hp : Undotted p) (h : names ∈ leg.entered tree p)
    (husable : usable (names.foldl step p) = true) : tree.isFolder (names.foldl step p) := by
  rcases cases_of_mem_entered h with ⟨name, rfl, hfolder, -⟩ | ⟨name, -, rfl, hlists⟩ | h
  · exact hfolder
  · exact isFolder_of_listsFolder hnamed hregular hp hlists husable
  · exact isFolder_of_mem_below hnamed hregular hp h husable

/-- A folder that a leg reads is there, if its path can be used. -/
lemma isFolder_of_mem_listed (hp : Undotted p) (hfolder : tree.isFolder p) (h : names ∈ leg.listed tree p)
    (husable : usable (names.foldl step p) = true) : tree.isFolder (names.foldl step p) := by
  rcases below_of_mem_listed h with rfl | h
  · exact hfolder
  · exact isFolder_of_mem_below hnamed hregular hp h husable

/-- **A folder that is read** is there, if its path can be used. -/
lemma isFolder_of_mem_reads {legs : List Leg} (hlegs : Slashless legs) (hp : Undotted p)
    (hfolder : tree.isFolder p) (h : q ∈ reads tree legs p) (husable : usable q = true) : tree.isFolder q := by
  induction legs generalizing p with
  | nil => cases h
  | cons leg rest ih =>
      obtain ⟨hleg, hrest⟩ := List.forall_mem_cons.mp hlegs
      rcases (mem_reads_cons hp).mp h with ⟨names, hnames, rfl⟩ | ⟨front, hfront, h⟩
      · exact isFolder_of_mem_listed hnamed hregular hp hfolder hnames husable
      · -- the path of the folder is a beginning of the one that can be used
        have hundotted := hp.foldl (slash_notMem_of_mem_entered hnamed hleg hfront)
        obtain ⟨back, hback, rfl⟩ := exists_of_mem_reads hnamed hrest hundotted h
        have hfrontUsable : usable (front.foldl step p) = true := usable_iff.mpr
          (FileTree.spellingFault?_of_beginning hundotted.nonempty (prefix_foldl_step hback hundotted)
            (usable_iff.mp husable))
        exact ih hrest hundotted (isFolder_of_mem_entered hnamed hregular hp hfront hfrontUsable) h

/-- **What is read can be read** if the paths can be used. -/
theorem readable_iff_usable (hroot : Undotted root) (h : tree.Reaches root place)
    (hplain : IsPlain root.text.toList) (hrelative : Path.isAbsolute ⟨pattern⟩ = false) :
    Readable tree root pattern ↔ ∀ folder ∈ foldersRead tree root pattern, usable folder = true := by
  refine forall₂_congr fun folder hf => ⟨usable_of_holds, fun husable => ?_⟩
  rw [foldersRead_of_reaches hroot h hplain hrelative] at hf
  cases hpatterns : patternsBelow? pattern with
  | none =>
      rw [hpatterns] at hf
      cases hf
  | some patterns =>
      rw [hpatterns] at hf
      have hwritten := leadsTo_written hroot h
      exact FileTree.holds_of_isFolder (isFolder_of_mem_reads hnamed hregular
        (slashless_of_patternsBelow? hpatterns) hwritten.undotted hwritten.isFolder hf husable)

end

end AddonRegistry.Glob
