import AddonRegistry.Proofs.Extraction.Generated
import AddonRegistry.Proofs.Extraction.Registries
import AddonRegistry.Proofs.TypeScript.Blocks
import AddonRegistry.Proofs.TypeScript.Keys
import AddonRegistry.Proofs.TypeScript.Quotes

/-!
# Declaration lines, read back

A declaration line puts a name between quotes as it is.  In a registry it says what a source file
said, if it is read as the same name again; and that is so exactly if nothing in the name would have to
be escaped.  The types have to be identifiers other than `import`.  Sources declare no others, unless
they spell them with escape sequences.

* `declaring` — the lines of members as the registry of a source file.
* `spelled_linesOf`, `spelled_front` — the tokens of all lines, and of those in front.
* `memberOfElement_of_membersOfItems` — which element gives which member.
* `membersOf_declaring` — the lines are read back if nothing has to be escaped.
* `isQuotable_of_membersOf_declaring` — and if they are, nothing had to be.
* **`declarations_read_back_iff`** — both together.
* `quoted_name_is_not_read_back` — a name with a quote in it, which is read as no name at all.
-/

namespace AddonRegistry

open TypeScript

variable {bound : Nat} {members : List Member} {m : Member}

/-! ## The text -/

/-- The lines of members as the registry of a source file. -/
def declaring (members : List Member) : String :=
  "declare module '" ++ registryModule ++ "' \x7b\ninterface " ++ registryInterface ++ " \x7b\n" ++
    "\n".intercalate (members.map Member.declarationLine) ++ "\n\x7d\n\x7d\n"

/-- A text that goes on inside an announced module. -/
def inModule (module : String) (inside : List Char) : List Char :=
  "declare".toList ++ ' ' :: ("module".toList ++ ' ' :: '\x27' ::
    (module.toList ++ '\x27' :: ' ' :: '\x7b' :: inside))

/-- A line below that goes on inside an interface. -/
def inInterface (name : String) (inside : List Char) : List Char :=
  '\n' :: ("interface".toList ++ ' ' :: (name.toList ++ ' ' :: '\x7b' :: inside))

/-- The lines of members and the braces below them. -/
def linesOf (members : List Member) : List Char :=
  '\n' :: (['\n'].intercalate (members.map fun m => m.declarationLine.toList) ++
    ['\n', '\x7d', '\n', '\x7d', '\n'])

lemma toList_declaring (members : List Member) : (declaring members).toList =
    inModule registryModule (inInterface registryInterface (linesOf members)) := by
  have hmodule : "declare module '".toList =
      "declare".toList ++ ' ' :: ("module".toList ++ [' ', '\x27']) := by decide
  have hinterface : "' \x7b\ninterface ".toList =
      '\x27' :: ' ' :: '\x7b' :: '\n' :: ("interface".toList ++ [' ']) := by decide
  have hopen : " \x7b\n".toList = [' ', '\x7b', '\n'] := by decide
  have hclose : "\n\x7d\n\x7d\n".toList = ['\n', '\x7d', '\n', '\x7d', '\n'] := by decide
  have hline : "\n".toList = ['\n'] := by decide
  unfold declaring inModule inInterface linesOf
  rw [String.toList_append, String.toList_append, String.toList_append, String.toList_append,
    String.toList_append, String.toList_append, String.toList_intercalate, List.map_map, hmodule,
    hinterface, hopen, hline, hclose]
  simp only [List.append_assoc, List.cons_append, List.nil_append, Function.comp_def]

/-! ## The blocks -/

section Blocks

variable {module name : String} {inside : List Char}

lemma spelled_inModule (hmodule : isQuotable module.toList)
    (hbound : (inModule module inside).length < bound) : Spelled bound (inModule module inside)
      [.keyword "declare", .ofWord "module", .string (some module), .mark .openBrace] inside := by
  unfold inModule at hbound ⊢
  simp only [List.length_append, List.length_cons] at hbound
  have hdeclare := begins_keyword "declare" (by decide) (by decide)
    (by omega : "declare".toList.length < bound)
  have hword (rest : List Char) := begins_word (by decide : isIdentifier "module".toList)
    (by omega : "module".toList.length < bound) (stopsWord_cons (by decide : stopsWord [' ']) rest)
  have hspecifier := begins_quoted hmodule (by omega : module.toList.length < bound)
  simp only [String.ofList_toList] at hword hspecifier
  exact .cons (hdeclare _) (.cons (hword _).space (.cons (hspecifier _).space
    (.cons begins_openBrace.space (.nil inside))))

lemma spelled_inInterface (hname : isIdentifier name.toList)
    (hbound : (inInterface name inside).length < bound) : Spelled bound (inInterface name inside)
      [.keyword "interface", .ofWord name, .mark .openBrace] inside := by
  unfold inInterface at hbound ⊢
  simp only [List.length_append, List.length_cons] at hbound
  have hinterface := begins_keyword "interface" (by decide) (by decide)
    (by omega : "interface".toList.length < bound)
  have hword (rest : List Char) := begins_word hname
    (by omega : name.toList.length < bound) (stopsWord_cons (by decide : stopsWord [' ']) rest)
  simp only [String.ofList_toList] at hword
  exact .cons (hinterface _).lineFeed (.cons (hword _).space
    (.cons begins_openBrace.space (.nil inside)))

lemma length_inInterface_lt (module name : String) (inside : List Char) :
    (inInterface name inside).length < (inModule module (inInterface name inside)).length := by
  unfold inModule
  simp only [List.length_append, List.length_cons]
  omega

/-- A reader in front of these texts sees both blocks opened. -/
lemma opens_inModule (hmodule : isQuotable module.toList) (hname : isIdentifier name.toList)
    (hbound : (inModule module (inInterface name inside)).length < bound) (line : Nat) (broke : Bool) :
    Grammar.Opens module name
      (Cursor.load bound (inModule module (inInterface name inside)) line broke) := by
  have hfront := spelled_inModule hmodule hbound
  have hback := spelled_inInterface hname ((length_inInterface_lt module name inside).trans hbound)
  have hlong : 9 < bound := by
    unfold inModule inInterface at hbound
    simp only [List.length_append, List.length_cons] at hbound
    omega
  refine ⟨sees_of_spelled (hfront.append hback) line broke, ?_, ?_⟩
  · have hdeclare := begins_keyword "declare" (by decide) (by decide)
      (Nat.lt_of_le_of_lt (by decide) hlong)
    exact broke_next_of_begins (hdeclare _) (by decide) line broke
  · have hinterface := begins_keyword "interface" (by decide) (by decide)
      (Nat.lt_of_le_of_lt (by decide) hlong)
    obtain ⟨line', broke', hskip⟩ := skip_of_spelled hfront line broke
    change Cursor.skip 4 _ = _ at hskip
    obtain ⟨c, letters, hletters, hsolid⟩ := exists_cons_of_isIdentifier hname
    rw [hskip]
    unfold inInterface
    rw [hletters]
    exact broke_next_of_begins (hinterface _).lineFeed hsolid line' broke'

end Blocks

/-! ## The lines -/

lemma spelled_linesOf (hnames : ∀ m ∈ members, isQuotable m.name.toList)
    (htargets : ∀ m ∈ members, isIdentifier m.target.toList)
    (hbound : (linesOf members).length < bound) : Spelled bound (linesOf members)
      (members.flatMap Grammar.declarationTokens ++
        [.mark .closeBrace, .mark .closeBrace, .endOfText]) [] := by
  rw [linesOf, List.length_cons, List.length_append] at hbound
  exact ((spelled_declarationLines hnames htargets (by omega) _).append
    (.cons begins_closeBrace.lineFeed (.cons begins_closeBrace.lineFeed
      (.cons begins_nil.lineFeed (.nil []))))).lineFeed (by simp)

/-- The first line stands in front of the others. -/
lemma exists_linesOf_cons (m : Member) (others : List Member) :
    ∃ tail, linesOf (m :: others) = '\n' :: (m.declarationLine.toList ++ tail) ∧
      (others ≠ [] → tail = linesOf others) := by
  cases others with
  | nil =>
      refine ⟨['\n', '\x7d', '\n', '\x7d', '\n'], ?_, fun h => absurd rfl h⟩
      rw [linesOf, List.map_singleton, List.intercalate_singleton]
  | cons other rest =>
      refine ⟨linesOf (other :: rest), ?_, fun _ => rfl⟩
      rw [linesOf, linesOf, List.map_cons, List.map_cons, List.intercalate_cons_cons, List.append_assoc,
        List.append_assoc]
      rfl

/-- The lines in front spell their tokens, whatever is behind them. -/
lemma spelled_front {bad : Member} {others : List Member} : ∀ {good : List Member},
    (∀ m ∈ good, isQuotable m.name.toList) → (∀ m ∈ good, isIdentifier m.target.toList) →
    (linesOf (good ++ bad :: others)).length < bound →
    Spelled bound (linesOf (good ++ bad :: others)) (good.flatMap Grammar.declarationTokens)
      (linesOf (bad :: others))
  | [], _, _, _ => .nil _
  | m :: good, hnames, htargets, hbound => by
      obtain ⟨tail, hlines, hrest⟩ := exists_linesOf_cons m (good ++ bad :: others)
      obtain rfl := hrest (by simp)
      rw [List.cons_append, hlines] at hbound ⊢
      simp only [List.length_cons, List.length_append, String.length_toList] at hbound
      have hfirst := spelled_declarationLine (hnames m List.mem_cons_self)
        (htargets m List.mem_cons_self) (by omega : m.declarationLine.length < bound)
        (linesOf (good ++ bad :: others))
      have hothers := spelled_front (fun g hg => hnames g (List.mem_cons_of_mem _ hg))
        (fun g hg => htargets g (List.mem_cons_of_mem _ hg))
        (by omega : (linesOf (good ++ bad :: others)).length < bound)
      exact (hfirst.lineFeed nofun).append hothers

/-- The first line starts with the name between quotes. -/
lemma exists_leads_linesOf (m : Member) (others : List Member) :
    ∃ tail, Leads (linesOf (m :: others)) ('\x27' :: (m.name.toList ++ '\x27' :: tail)) := by
  obtain ⟨tail, htail, -⟩ := exists_linesOf_cons m others
  rw [htail, toList_declarationLine]
  simp only [List.append_assoc, List.cons_append]
  exact ⟨_, (leads_of_isSolid (by decide) _).lineFeed⟩

/-! ## What is read of them -/

/-- The first registry of a module that starts with one. -/
lemma exists_uncoveredRegistriesOf (first second : Nat) (body : List Element)
    (inside others : List Phrase) : ∃ more, uncoveredRegistriesOf
      (.module first (.specifier (some registryModule))
        (.interface second registryInterface [] body :: inside) :: others) =
      ⟨[.module (.specifier (some registryModule))], registryInterface, body⟩ :: more := by
  rw [uncoveredRegistriesOf, registriesOf, List.filter_filter]
  have hkept : (!hasInterfaceInModule [.module (.specifier (some registryModule))]) &&
      (decide (registryInterface = registryInterface) && decide
        (outermostModule? [.module (.specifier (some registryModule))] =
          some (.specifier (some registryModule)))) := by
    simp [hasInterfaceInModule, outermostModule?]
  exact ⟨_, List.filter_cons_of_pos hkept⟩

/-- Its elements come first, each for one member. -/
lemma memberOfElement_of_membersOfItems {first second : Nat} {front rest : List Element}
    {element : Element} {inside others : List Phrase} {good more : List Member}
    (hfront : good.length = front.length) (h : membersOfItems
      (.module first (.specifier (some registryModule))
        (.interface second registryInterface [] (front ++ element :: rest) :: inside) :: others) =
      .ok (good ++ m :: more)) : memberOfElement element = .ok m := by
  obtain ⟨registries, hregistries⟩ :=
    exists_uncoveredRegistriesOf first second (front ++ element :: rest) inside others
  rw [membersOfItems_eq_readingOf, hregistries, readingOf_eq_ok_iff, ReadAs, List.flatMap_cons] at h
  simp only [List.append_assoc, List.map_append] at h
  obtain ⟨-, h⟩ := List.append_inj h (by rw [List.length_map, List.length_map, hfront])
  exact (List.cons.inj h).1

/-- The items of a module with one registry of declarations give their members. -/
lemma membersOfItems_declarations {first second : Nat} {body : List Element}
    (h : List.Forall₂ Grammar.IsDeclaration members body) : membersOfItems
      [.module first (.specifier (some registryModule)) [.interface second registryInterface [] body]] =
      .ok members := by
  have hbody : body.map memberOfElement = members.map .ok := by
    induction h with
    | nil => rfl
    | cons hdeclaration _ ih =>
        obtain ⟨_, _, _, rfl⟩ := hdeclaration
        exact congrArg (_ :: ·) ih
  have hadd : Gathering.add {} body = { members } := by
    rw [Gathering.add, mapM_eq_ok_iff.mpr hbody]
    rfl
  change Gathering.result (Gathering.add {} body) = _
  rw [hadd]
  rfl

/-! ## Reading the text -/

/-- Where a reader of the text starts. -/
def textStart (members : List Member) : Cursor :=
  .load ((declaring members).length + 2)
    (inModule registryModule (inInterface registryInterface (linesOf members))) 1 true

lemma length_lt_bound (members : List Member) :
    (inModule registryModule (inInterface registryInterface (linesOf members))).length <
      (declaring members).length + 2 := by
  rw [← String.length_toList, toList_declaring]
  exact Nat.lt_add_of_pos_right (Nat.zero_lt_succ 1)

lemma length_linesOf_lt (members : List Member) :
    (linesOf members).length < (declaring members).length + 2 := by
  have hmodule := length_lt_bound members
  have hinside := length_inInterface_lt registryModule registryInterface (linesOf members)
  unfold inInterface at hinside hmodule
  simp only [List.length_append, List.length_cons] at hinside hmodule
  omega

lemma spelled_opening (members : List Member) : Spelled ((declaring members).length + 2)
    (inModule registryModule (inInterface registryInterface (linesOf members)))
    (Grammar.openingTokens registryModule registryInterface ++ [.mark .openBrace])
    (linesOf members) :=
  (spelled_inModule (by decide +kernel) (length_lt_bound members)).append
    (spelled_inInterface (by decide +kernel)
      ((length_inInterface_lt _ _ _).trans (length_lt_bound members)))

lemma opens_textStart (members : List Member) :
    Grammar.Opens registryModule registryInterface (textStart members) :=
  opens_inModule (by decide +kernel) (by decide +kernel) (length_lt_bound members) 1 true

/-- The text is read from its start, down to some depth. -/
lemma parse_declaring (members : List Member) (markup : Bool) : ∃ n, ∀ items,
    parse (declaring members).toList markup = .ok items ↔ ∃ last,
      Reading.collect (do return !(← atEnd)) (Phrase.read (n + 4) .item) (.outermost markup)
        (textStart members) = .done items last := by
  have hdepth : depthBound (declaring members).toList.length =
      16 * (declaring members).length + 60 + 4 := by
    rw [depthBound, String.length_toList]
    omega
  have hhead : (declaring members).toList.head? ≠ some '#' := by
    rw [toList_declaring]
    change some 'd' ≠ some '#'
    decide
  have hstart : Cursor.start (declaring members).toList = textStart members := by
    rw [Cursor.start_eq_load hhead, textStart, String.length_toList, toList_declaring]
  refine ⟨16 * (declaring members).length + 60, fun items => ?_⟩
  rw [parse_eq_ok_iff, hdepth, hstart]

/-! ## Both directions -/

/-- There are fewer lines than characters. -/
lemma length_lt_length_linesOf (members : List Member) :
    members.length + 1 < (linesOf members).length := by
  have hlines := length_le_length_declarationLines members
  rw [linesOf, List.length_cons, List.length_append]
  simp only [List.length_cons]
  omega

/-- **The lines are read back** if nothing in the names has to be escaped. -/
lemma membersOf_declaring (hnames : ∀ m ∈ members, isQuotable m.name.toList)
    (htargets : ∀ m ∈ members, isIdentifier m.target.toList)
    (himports : ∀ m ∈ members, m.target ≠ "import") (fileName : String) :
    membersOf (declaring members) fileName = .ok members := by
  obtain ⟨n, hparse⟩ := parse_declaring members (hasMarkup fileName)
  have htokens : Grammar.blockTokens registryModule registryInterface members =
      Grammar.openingTokens registryModule registryInterface ++ [.mark .openBrace] ++
        (members.flatMap Grammar.declarationTokens ++
          [.mark .closeBrace, .mark .closeBrace, .endOfText]) := by
    simp [Grammar.blockTokens, Grammar.bodyTokens]
  have hspelled := (spelled_opening members).append
    (spelled_linesOf hnames htargets (length_linesOf_lt members))
  have hsees : (textStart members).Sees
      (Grammar.blockTokens registryModule registryInterface members) :=
    htokens ▸ sees_of_spelled hspelled 1 true
  have hbound : members.length + 1 < (textStart members).bound :=
    (length_lt_length_linesOf members).trans (length_linesOf_lt members)
  obtain ⟨first, second, body, last, hall, hcollect⟩ :=
    Grammar.collect_block (n := n) hbound (opens_textStart members) himports hsees
  exact membersOf_eq_ok_iff.mpr ⟨_, (hparse _).mpr ⟨last, hcollect⟩, membersOfItems_declarations hall⟩

/-- Behind the lines in front there is a quote, and the name behind it. -/
lemma exists_sees_front {good : List Member} (bad : Member) (more : List Member)
    (hnames : ∀ m ∈ good, isQuotable m.name.toList)
    (htargets : ∀ m ∈ good, isIdentifier m.target.toList) : ∃ tail fuel line,
      (textStart (good ++ bad :: more)).Sees (Grammar.openingTokens registryModule registryInterface ++
        .mark .openBrace :: (good.flatMap Grammar.declarationTokens ++
          [(Lexeme.scan fuel ('\x27' :: (bad.name.toList ++ '\x27' :: tail)) line).token])) := by
  have hfront := (spelled_opening (good ++ bad :: more)).append
    (spelled_front hnames htargets (length_linesOf_lt _))
  obtain ⟨tail, hleads⟩ := exists_leads_linesOf bad more
  obtain ⟨line, hsees⟩ := exists_sees_of_spelled hfront hleads 1 true
  simp only [List.append_assoc, List.singleton_append] at hsees
  exact ⟨tail, _, line, hsees⟩

/-- **Nothing had to be escaped** in the first name behind such, if the lines are read back. -/
lemma isQuotable_of_membersOf_declaring {good more : List Member} {bad : Member} {fileName : String}
    (hnames : ∀ m ∈ good, isQuotable m.name.toList)
    (htargets : ∀ m ∈ good, isIdentifier m.target.toList)
    (himports : ∀ m ∈ good, m.target ≠ "import")
    (h : membersOf (declaring (good ++ bad :: more)) fileName = .ok (good ++ bad :: more)) :
    isQuotable bad.name.toList := by
  obtain ⟨items, hitems, hmembers⟩ := membersOf_eq_ok_iff.mp h
  obtain ⟨n, hparse⟩ := parse_declaring (good ++ bad :: more) (hasMarkup fileName)
  obtain ⟨last, hcollect⟩ := (hparse items).mp hitems
  obtain ⟨first, second, body, between, inside, others, helements, rfl⟩ :=
    Grammar.exists_elements_of_collect (Nat.zero_lt_succ _) (opens_textStart _) hcollect
  obtain ⟨tail, fuel, line, hsees⟩ := exists_sees_front bad more hnames htargets
  obtain ⟨-, hsees⟩ := Cursor.sees_append.mp hsees
  change ((textStart _).skip 6).Sees _ at hsees
  generalize hscan : (Lexeme.scan fuel ('\x27' :: (bad.name.toList ++ '\x27' :: tail)) line).token =
    token at hsees
  -- what starts with a quote is a string, or else no element starts there
  have hstring : (∃ value, token = .string value) ∨ ∃ fault, token = .bad fault := by
    rw [← hscan]
    exact Lexeme.token_stringTail '\x27' fuel _ line []
  have hclose : token ≠ .mark .closeBrace := by
    rcases hstring with ⟨value, rfl⟩ | ⟨fault, rfl⟩ <;> exact nofun
  obtain ⟨front, element, rest, cursor, behind, rfl, hall, htoken, helement⟩ :=
    Grammar.exists_element_of_elements (Nat.zero_lt_succ _) himports hsees hclose helements
  have hmember := memberOfElement_of_membersOfItems hall.length_eq hmembers
  rcases hstring with ⟨value, rfl⟩ | ⟨fault, rfl⟩
  · obtain rfl := Grammar.name_of_typeElement htoken helement hmember
    exact isQuotable_of_scan (by rw [hscan, String.ofList_toList])
  · exact absurd helement (Grammar.typeElement_bad _ htoken element)

/-- **Which declaration lines are read back.**  If the types of members are identifiers, and none is the
word `import`, then their lines declare exactly these members, in the same order, as the registry of a
source file of any name, if and only if nothing in their names has to be escaped. -/
theorem declarations_read_back_iff (htargets : ∀ m ∈ members, isIdentifier m.target.toList)
    (himports : ∀ m ∈ members, m.target ≠ "import") (fileName : String) :
    membersOf (declaring members) fileName = .ok members ↔
      ∀ m ∈ members, isQuotable m.name.toList := by
  refine ⟨fun h => ?_, fun hnames => membersOf_declaring hnames htargets himports fileName⟩
  by_contra hsome
  -- the first name in which something has to be escaped is not read back
  cases hfirst : members.find? fun m => !isQuotable m.name.toList with
  | none =>
      rw [List.find?_eq_none] at hfirst
      exact hsome fun m hm => by simpa using hfirst m hm
  | some bad =>
      obtain ⟨hbad, good, more, rfl, hgood⟩ := List.find?_eq_some_iff_append.mp hfirst
      have hquotable := isQuotable_of_membersOf_declaring (fun m hm => by simpa using hgood m hm)
        (fun m hm => htargets m (List.mem_append_left _ hm))
        (fun m hm => himports m (List.mem_append_left _ hm)) h
      rw [hquotable] at hbad
      cases hbad

/-- A blank in a name, and a reserved word as a type. -/
theorem spaced_name_is_read_back :
    membersOf (declaring [⟨"x-badge", "Badge"⟩, ⟨"a b", "class"⟩]) "x.ts" =
      .ok [⟨"x-badge", "Badge"⟩, ⟨"a b", "class"⟩] :=
  (declarations_read_back_iff (by decide) (by decide) "x.ts").mpr (by decide)

/-- A name with a quote in it, which sources can have between other quotes.  It is not read back. -/
theorem quoted_name_is_not_read_back :
    membersOf ("declare module '@glint/environment-ember-loose/registry' \x7b\n" ++
      "  interface Registry \x7b \"it's\": typeof X \x7d\n\x7d\n") "a.ts" = .ok [⟨"it's", "X"⟩] ∧
    membersOf (declaring [⟨"it's", "X"⟩]) "b.ts" ≠ .ok [⟨"it's", "X"⟩] := by
  refine ⟨eq_ok_of_toOption (by decide +kernel), fun h => ?_⟩
  have hnone : (membersOf (declaring [⟨"it's", "X"⟩]) "b.ts").toOption = none := by decide +kernel
  rw [h] at hnone
  cases hnone

end AddonRegistry
