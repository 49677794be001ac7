import AddonRegistry.Proofs.Template
import AddonRegistry.Proofs.TypeScript.Lines
import AddonRegistry.Proofs.TypeScript.Spelling

/-!
# Registries as source files

A registry is a module itself, and patterns may find it.  If all that went into its lines can stand
there as it is — names and paths between quotes, types as identifiers — it is read as the imports and
the interface that it was written as, and registers nothing.

* `Member.IsPlain`, `IsPlainImport` — what can stand in a line as it is.
* `spelled_importLine`, `spelled_declarationLine` — the tokens of the two forms of line.
* `parse_generated` — what a registry of such lines is read as.
* **`membersOf_generated`** — it registers nothing.
* `Scan.IsPlain`, `membersOf_render` — the registry of a project of which all can stand in its lines.
-/

namespace AddonRegistry

open TypeScript

/-! ## Lines -/

/-- That a name and a type can stand in a declaration line as they are. -/
structure Member.IsPlain (m : Member) : Prop where
  name : isQuotable m.name.toList
  target : isIdentifier m.target.toList
  unreserved : isReserved m.target = false

/-- That a type and a path can stand in an import line as they are. -/
structure IsPlainImport (line : String × String) : Prop where
  target : isIdentifier line.1.toList
  unreserved : isReserved line.1 = false
  path : isQuotable line.2.toList

/-- The line that imports a type from a path. -/
def importLineOf (line : String × String) : String :=
  "import type " ++ line.1 ++ " from '" ++ line.2 ++ "';"

lemma toList_declarationLine (m : Member) : m.declarationLine.toList =
    '\x27' :: (m.name.toList ++ '\x27' :: ':' :: ' ' :: ("typeof".toList ++
      ' ' :: (m.target.toList ++ [';']))) := by
  simp [Member.declarationLine]

lemma toList_importLineOf (line : String × String) : (importLineOf line).toList =
    "import".toList ++ ' ' :: ("type".toList ++ ' ' :: (line.1.toList ++ ' ' :: ("from".toList ++
      ' ' :: '\x27' :: (line.2.toList ++ ['\x27', ';'])))) := by
  simp [importLineOf]

variable {bound : Nat}

/-- **A declaration line** spells the tokens of a declaration. -/
lemma spelled_declarationLine {m : Member} (hname : isQuotable m.name.toList)
    (htarget : isIdentifier m.target.toList) (hbound : m.declarationLine.length < bound)
    (rest : List Char) :
    Spelled bound (m.declarationLine.toList ++ rest) (Grammar.declarationTokens m) rest := by
  rw [← String.length_toList, toList_declarationLine] at hbound
  rw [toList_declarationLine]
  simp only [List.length_cons, List.length_append, List.length_nil] at hbound
  simp only [List.append_assoc, List.cons_append, List.nil_append]
  have hkey := begins_quoted hname (by omega : m.name.toList.length < bound)
  have htypeof := begins_keyword "typeof" (by decide) (by decide)
    (by omega : "typeof".toList.length < bound)
  have hword := begins_word htarget (by omega : m.target.toList.length < bound)
    (stopsWord_cons (by decide : stopsWord [';']) rest)
  rw [String.ofList_toList] at hword
  simp only [String.ofList_toList] at hkey
  exact .cons (hkey _) (.cons begins_colon (.cons (htypeof _).space (.cons hword.space
    (.cons begins_semicolon (.nil rest)))))

/-- **An import line** spells the tokens of an import. -/
lemma spelled_importLine {line : String × String} (h : IsPlainImport line)
    (hbound : (importLineOf line).length < bound) (rest : List Char) :
    Spelled bound ((importLineOf line).toList ++ rest) (Grammar.importTokens line) rest := by
  rw [← String.length_toList, toList_importLineOf] at hbound
  rw [toList_importLineOf]
  simp only [List.length_cons, List.length_append, List.length_nil] at hbound
  simp only [List.append_assoc, List.cons_append, List.nil_append]
  have himport := begins_keyword "import" (by decide) (by decide)
    (by omega : "import".toList.length < bound)
  have htype := begins_keyword "type" (by decide) (by decide)
    (by omega : "type".toList.length < bound)
  have htarget (rest : List Char) := begins_word h.target
    (by omega : line.1.toList.length < bound) (stopsWord_cons (by decide : stopsWord [' ']) rest)
  have hfrom := begins_keyword "from" (by decide) (by decide)
    (by omega : "from".toList.length < bound)
  have hpath := begins_quoted h.path (by omega : line.2.toList.length < bound)
  simp only [String.ofList_toList] at htarget hpath
  exact .cons (himport _) (.cons (htype _).space (.cons (htarget _).space (.cons (hfrom _).space
    (.cons (hpath _).space (.cons begins_semicolon (.nil rest))))))

/-! ## Blocks of lines -/

lemma length_le_length_intercalate {line : List Char} : ∀ {lines : List (List Char)}, line ∈ lines →
    line.length ≤ (['\n'].intercalate lines).length
  | [single], h => by
      rw [List.mem_singleton.mp h, List.intercalate_singleton]
  | first :: second :: rest, h => by
      rw [List.intercalate_cons_cons, List.length_append, List.length_append]
      rcases List.mem_cons.mp h with rfl | h
      · omega
      · have := length_le_length_intercalate h
        omega

lemma length_lines_le_length_intercalate : ∀ {lines : List (List Char)}, (∀ line ∈ lines, line ≠ []) →
    lines.length ≤ (['\n'].intercalate lines).length
  | [], _ => Nat.zero_le _
  | [single], h => by
      rw [List.intercalate_singleton]
      exact List.length_pos_iff.mpr (h single List.mem_cons_self)
  | first :: second :: rest, h => by
      have := length_lines_le_length_intercalate fun line hl => h line (List.mem_cons_of_mem first hl)
      rw [List.intercalate_cons_cons, List.length_append, List.length_append]
      simp only [List.length_cons, List.length_nil] at this ⊢
      omega

lemma length_le_length_declarationLines (members : List Member) :
    members.length ≤ (['\n'].intercalate (members.map fun m => m.declarationLine.toList)).length := by
  have hlines : (members.map fun m => m.declarationLine.toList).length ≤
      (['\n'].intercalate (members.map fun m => m.declarationLine.toList)).length := by
    refine length_lines_le_length_intercalate fun chars hc => ?_
    obtain ⟨m, -, rfl⟩ := List.mem_map.mp hc
    simp [toList_declarationLine]
  rwa [List.length_map] at hlines

/-- **Declaration lines**, one below the other, spell the tokens of the declarations. -/
lemma spelled_declarationLines {members : List Member} (hnames : ∀ m ∈ members, isQuotable m.name.toList)
    (htargets : ∀ m ∈ members, isIdentifier m.target.toList)
    (hbound : (['\n'].intercalate (members.map fun m => m.declarationLine.toList)).length < bound)
    (rest : List Char) :
    Spelled bound (['\n'].intercalate (members.map fun m => m.declarationLine.toList) ++ rest)
      (members.flatMap Grammar.declarationTokens) rest := by
  refine spelled_intercalate _ Grammar.declarationTokens nofun members (fun m hm rest => ?_) rest
  have hlength := length_le_length_intercalate
    (List.mem_map_of_mem (f := fun m : Member => m.declarationLine.toList) hm)
  rw [String.length_toList] at hlength
  exact spelled_declarationLine (hnames m hm) (htargets m hm) (by omega) rest

/-! ## The whole text -/

/-- The registry with given lines. -/
def generated (imports : List (String × String)) (members : List Member) : String :=
  fillTemplate ("\n".intercalate (imports.map importLineOf))
    ("\n".intercalate (members.map Member.declarationLine))

lemma toList_generated (imports : List (String × String)) (members : List Member) :
    (generated imports members).toList =
      ['\n'].intercalate (imports.map fun line => (importLineOf line).toList) ++ (heading.toList ++
        (['\n'].intercalate (members.map fun m => m.declarationLine.toList) ++ closing.toList)) := by
  rw [generated, fillTemplate_eq]
  simp only [String.toList_append, String.toList_intercalate, List.map_map, List.append_assoc]
  rfl

lemma toList_heading : heading.toList = '\n' :: '\n' :: ("export".toList ++ ' ' :: ("default".toList ++
    ' ' :: ("interface".toList ++ ' ' :: ("AddonRegistry".toList ++ [' ', '\x7b', '\n'])))) := by
  decide

/-- The tokens of what stands between the two blocks. -/
def headingTokens : List Token :=
  [.keyword "export", .keyword "default", .keyword "interface", .ofWord "AddonRegistry",
    .mark .openBrace]

lemma spelled_heading {rest last : List Char} {tokens : List Token} (hbound : 14 ≤ bound)
    (h : Spelled bound rest tokens last) (hne : tokens ≠ []) :
    Spelled bound (heading.toList ++ rest) (headingTokens ++ tokens) last := by
  have hexport := begins_keyword "export" (by decide) (by decide)
    (Nat.lt_of_lt_of_le (by decide) hbound)
  have hdefault := begins_keyword "default" (by decide) (by decide)
    (Nat.lt_of_lt_of_le (by decide) hbound)
  have hinterface := begins_keyword "interface" (by decide) (by decide)
    (Nat.lt_of_lt_of_le (by decide) hbound)
  have hname (rest : List Char) := begins_word (by decide : isIdentifier "AddonRegistry".toList)
    (Nat.lt_of_lt_of_le (by decide) hbound) (stopsWord_cons (by decide : stopsWord [' ']) rest)
  simp only [String.ofList_toList] at hname
  rw [toList_heading]
  simp only [List.append_assoc, List.cons_append, List.nil_append]
  exact .cons (hexport _).lineFeed.lineFeed (.cons (hdefault _).space (.cons (hinterface _).space
    (.cons (hname _).space (.cons begins_openBrace.space (h.lineFeed hne)))))

/-- **A registry** spells the tokens of a module. -/
lemma spelled_generated {imports : List (String × String)} {members : List Member}
    (himports : ∀ line ∈ imports, IsPlainImport line) (hmembers : ∀ m ∈ members, m.IsPlain)
    (hbound : (generated imports members).length + 2 = bound) :
    Spelled bound (generated imports members).toList
      (Grammar.moduleTokens imports "AddonRegistry" members) [] := by
  rw [← String.length_toList, toList_generated] at hbound
  simp only [List.length_append] at hbound
  rw [toList_generated]
  have hfront : ∀ line ∈ imports, ∀ rest,
      Spelled bound ((importLineOf line).toList ++ rest) (Grammar.importTokens line) rest := by
    intro line hl
    have hlength := length_le_length_intercalate
      (List.mem_map_of_mem (f := fun line => (importLineOf line).toList) hl)
    rw [String.length_toList] at hlength
    exact spelled_importLine (himports line hl) (by omega)
  have hlines : Spelled bound (['\n'].intercalate (members.map fun m => m.declarationLine.toList) ++
      closing.toList)
      (members.flatMap Grammar.declarationTokens ++ [.mark .closeBrace, .endOfText]) [] :=
    (spelled_declarationLines (fun m hm => (hmembers m hm).name) (fun m hm => (hmembers m hm).target)
      (by omega) closing.toList).append
      (.cons begins_closeBrace.lineFeed (.cons begins_nil.lineFeed (.nil [])))
  have hlength : 14 ≤ heading.toList.length := by decide
  have hheading := spelled_heading (by omega) hlines (by simp)
  have htokens : Grammar.moduleTokens imports "AddonRegistry" members =
      imports.flatMap Grammar.importTokens ++ (headingTokens ++
        (members.flatMap Grammar.declarationTokens ++ [.mark .closeBrace, .endOfText])) := by
    simp [Grammar.moduleTokens, Grammar.exportTokens, Grammar.bodyTokens, headingTokens]
  rw [htokens]
  have hne (line : String × String) : Grammar.importTokens line ≠ [] := List.cons_ne_nil _ _
  exact (spelled_intercalate _ Grammar.importTokens hne imports hfront _).append hheading

/-- No registry starts with a hash, as what would be skipped does. -/
lemma head?_generated (imports : List (String × String)) (members : List Member) :
    (generated imports members).toList.head? ≠ some '#' := by
  rw [toList_generated]
  rcases imports with - | ⟨line, - | ⟨other, rest⟩⟩
  · rw [toList_heading]
    exact nofun
  · rw [List.map_singleton, List.intercalate_singleton, toList_importLineOf]
    simp
  · rw [List.map_cons, List.map_cons, List.intercalate_cons_cons, toList_importLineOf]
    simp

/-- There are fewer lines than characters. -/
lemma length_lt_generated (imports : List (String × String)) (members : List Member) :
    imports.length + members.length + 1 < (generated imports members).length + 2 := by
  have himports : (imports.map fun line => (importLineOf line).toList).length ≤
      (['\n'].intercalate (imports.map fun line => (importLineOf line).toList)).length := by
    refine length_lines_le_length_intercalate fun chars hc => ?_
    obtain ⟨line, -, rfl⟩ := List.mem_map.mp hc
    simp [toList_importLineOf]
  have hmembers := length_le_length_declarationLines members
  rw [List.length_map] at himports
  rw [← String.length_toList, toList_generated, List.length_append, List.length_append,
    List.length_append]
  omega

/-- A text is read as the items that are collected from its start. -/
lemma parse_eq_ok_iff {text : List Char} {markup : Bool} {items : List Phrase} :
    parse text markup = .ok items ↔ ∃ last,
      Reading.collect (do return !(← atEnd)) (Phrase.read (depthBound text.length) .item)
        (.outermost markup) (.start text) = .done items last := by
  rw [parse]
  generalize Reading.collect (do return !(← atEnd)) (Phrase.read (depthBound text.length) .item)
    (.outermost markup) (.start text) = result
  cases result with
  | done found last => simp
  | failed fault last => simp

/-- The members of a text are those of its items. -/
lemma membersOf_eq_ok_iff {code fileName : String} {members : List Member} :
    membersOf code fileName = .ok members ↔ ∃ items,
      parse code.toList (hasMarkup fileName) = .ok items ∧ membersOfItems items = .ok members := by
  rw [membersOf]
  cases parse code.toList (hasMarkup fileName) with
  | error fault => simp
  | ok items => simp

/-- **What a registry is read as** if all that is in it can stand there as it is. -/
lemma parse_generated {imports : List (String × String)} {members : List Member}
    (himports : ∀ line ∈ imports, IsPlainImport line) (hmembers : ∀ m ∈ members, m.IsPlain)
    (markup : Bool) :
    ∃ items, Grammar.IsModule imports "AddonRegistry" members items ∧
      parse (generated imports members).toList markup = .ok items := by
  have hsees := sees_of_spelled (spelled_generated himports hmembers rfl) 1 true
  have hdepth : depthBound (generated imports members).toList.length =
      16 * (generated imports members).toList.length + 61 + 3 := by
    rw [depthBound]
    omega
  obtain ⟨items, last, hmodule, hcollect⟩ := Grammar.collect_items (s := .outermost markup)
    (n := 16 * (generated imports members).toList.length + 61)
    (length_lt_generated imports members) (fun line hl => (himports line hl).unreserved)
    (fun m hm => Token.ne_of_isReserved (hmembers m hm).unreserved (by decide)) hsees
  refine ⟨items, hmodule, parse_eq_ok_iff.mpr ⟨last, ?_⟩⟩
  rw [hdepth, Cursor.start_eq_load (head?_generated imports members), String.length_toList]
  simpa only [String.length_toList] using hcollect

/-! ## What it registers -/

lemma seek_import {line : String × String} {phrase : Phrase} (h : Grammar.IsImport line phrase)
    (gathered : Gathering) : phrase.seek gathered = gathered := by
  obtain ⟨first, second, rfl⟩ := h
  rfl

lemma seek_export {name : String} {members : List Member} {phrase : Phrase}
    (h : Grammar.IsExport name members phrase) (gathered : Gathering) :
    phrase.seek gathered = gathered := by
  obtain ⟨first, second, body, hall, rfl⟩ := h
  change seekInElements body gathered = gathered
  induction hall with
  | nil => rfl
  | cons hdeclaration _ ih =>
      obtain ⟨_, _, _, rfl⟩ := hdeclaration
      exact ih

lemma seekInPhrases_module {imports : List (String × String)} {front : List Phrase}
    (h : List.Forall₂ Grammar.IsImport imports front) (others : List Phrase) (gathered : Gathering) :
    seekInPhrases (front ++ others) gathered = seekInPhrases others gathered := by
  induction h with
  | nil => rfl
  | cons himport _ ih =>
      rw [List.cons_append, seekInPhrases, seek_import himport]
      exact ih

/-- **A registry registers nothing** if all that is in it can stand there as it is. -/
lemma membersOf_generated {imports : List (String × String)} {members : List Member}
    (himports : ∀ line ∈ imports, IsPlainImport line) (hmembers : ∀ m ∈ members, m.IsPlain)
    (fileName : String) : membersOf (generated imports members) fileName = .ok [] := by
  obtain ⟨items, ⟨front, last, rfl, hfront, hlast⟩, hparse⟩ :=
    parse_generated himports hmembers (hasMarkup fileName)
  refine membersOf_eq_ok_iff.mpr ⟨_, hparse, ?_⟩
  rw [membersOfItems, seekInPhrases_module hfront, seekInPhrases, seek_export hlast]
  rfl

/-- An empty registry has no lines that could be read as something else. -/
lemma membersOf_stub (fileName : String) : membersOf stub fileName = .ok [] :=
  @membersOf_generated [] [] nofun nofun fileName

/-! ## The registry of a project -/

/-- That everything a registry needs can stand in its lines as it is. -/
structure Scan.IsPlain (scan : Scan) (root : Path) (package : String) : Prop where
  members : ∀ entry ∈ scan, ∀ m ∈ entry.2, m.IsPlain
  paths : ∀ entry ∈ scan, isQuotable (importPath entry.1 root package).toList

lemma mem_of_mem_distinct {line : String} :
    ∀ {lines : List String}, line ∈ distinct lines → line ∈ lines
  | first :: rest, h => by
      rw [distinct, List.mem_cons] at h
      rcases h with rfl | h
      · exact List.mem_cons_self
      · exact List.mem_cons_of_mem first (mem_of_mem_distinct (List.mem_of_mem_filter h))

lemma exists_map_eq {lines : List String} (h : ∀ text ∈ lines, ∃ line, IsPlainImport line ∧
    importLineOf line = text) :
    ∃ imports : List (String × String), (∀ line ∈ imports, IsPlainImport line) ∧
      imports.map importLineOf = lines := by
  induction lines with
  | nil => exact ⟨[], nofun, rfl⟩
  | cons text rest ih =>
      obtain ⟨line, hline, rfl⟩ := h text List.mem_cons_self
      obtain ⟨imports, himports, rfl⟩ := ih fun other ho => h other (List.mem_cons_of_mem _ ho)
      exact ⟨line :: imports, List.forall_mem_cons.mpr ⟨hline, himports⟩, rfl⟩

/-- **The registry of a project** registers nothing if everything can stand in its lines as it is. -/
lemma membersOf_render {scan : Scan} {root : Path} {package : String}
    (hplain : scan.IsPlain root package) (fileName : String) :
    membersOf (render (Body.ofScan scan root package)) fileName = .ok [] := by
  have himports : ∀ text ∈ (Body.ofScan scan root package).imports,
      ∃ line, IsPlainImport line ∧ importLineOf line = text := by
    intro text ht
    obtain ⟨entry, he, ht⟩ := List.mem_flatMap.mp (mem_of_mem_distinct ht)
    obtain ⟨m, hm, rfl⟩ := List.mem_map.mp ht
    have hm := hplain.members entry he m hm
    exact ⟨(m.target, _), ⟨hm.target, hm.unreserved, hplain.paths entry he⟩, rfl⟩
  obtain ⟨imports, himports, hlines⟩ := exists_map_eq himports
  have hmembers : ∀ m ∈ scan.flatMap Prod.snd, m.IsPlain := by
    intro m hm
    obtain ⟨entry, he, hm⟩ := List.mem_flatMap.mp hm
    exact hplain.members entry he m hm
  have hrender : render (Body.ofScan scan root package) =
      generated imports (scan.flatMap Prod.snd) := by
    rw [generated, hlines, List.map_flatMap]
    rfl
  rw [hrender]
  exact membersOf_generated himports hmembers fileName

end AddonRegistry
