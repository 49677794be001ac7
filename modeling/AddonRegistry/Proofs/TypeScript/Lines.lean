import AddonRegistry.Extraction
import AddonRegistry.Proofs.TypeScript.Steps
import Mathlib.Data.List.Forall2

/-!
# Lines that are read in one way

Three forms of text, given as tokens, and what they are read as: the import of a type, the declaration
of a name by the type of another, and an interface of such declarations that a module exports.  What
is imported may not be a reserved word, and what is asked for its type may be any but `import`.

* `importDeclaration_type` — the import of a type.
* `typeElement_declaration` — the declaration of a name.
* `elements_declarations` — a body of declarations.
* `item_export` — an interface that is exported by default.
* **`collect_items`** — a module of imports and such an interface.
-/

namespace AddonRegistry.TypeScript.Grammar

open Reading

variable {s : Setting} {c : Cursor} {n : Nat}

/-- What sees no decorator reads none. -/
lemma decorators_eq_nil (read : Reader) (hbound : 0 < c.bound) {token : Token} (h : c.token = token)
    (ht : token ≠ .mark .at) : decorators read true s c = .done [] c := by
  have hnone : collect (atMark .at) (decorator read) s c = .done [] c :=
    collect_eq_nil (by simp [Cursor.isMark, h, ht]) hbound
  simp [decorators, hnone]

/-! ## The import of a type -/

/-- The tokens of a line that imports a type by its name from a module. -/
def importTokens (line : String × String) : List Token :=
  [.keyword "import", .keyword "type", .ofWord line.1, .keyword "from", .string (some line.2),
    .mark .semicolon]

/-- That a phrase is what is read off such a line. -/
def IsImport (line : String × String) (phrase : Phrase) : Prop :=
  ∃ first second,
    phrase = .node .importDeclaration first [.node (.identifier line.1) second []]

lemma importStart_type (line : Nat) {name : String} {path : Option String}
    (hname : isReserved name = false)
    (h : c.Sees [.keyword "type", .ofWord name, .keyword "from", .string path]) :
    importStart line s c =
      .done (.names [.node (.identifier name) c.next.line []]) c.next.next := by
  obtain ⟨h0, h1, h2, h3, -⟩ := h
  have htype : c.token.isReference := by
    rw [h0]
    decide
  have hfirst := boundName_of_isReference (s := s) h0 htype
  have hsecond := boundName_ofWord (s := s) h1 hname
  rw [h0] at htype
  have hreference := Token.isReference_ofWord hname
  simp [importStart, hfirst, hsecond, h0, h1, h2, h3, htype, atMarkedName, hreference,
    Phrase.identifier?, Cursor.isMark, Cursor.isKeyword, Token.isKeyword]

/-- **The import** of a type. -/
lemma importDeclaration_type (read : Reader) {line : String × String}
    (hname : isReserved line.1 = false) (h : c.Sees (importTokens line)) :
    importDeclaration read s c =
      .done (.node .importDeclaration c.line [.node (.identifier line.1) c.next.next.line []])
        (c.skip 6) := by
  obtain ⟨h0, h1, h2, h3, h4, h5, -⟩ := h
  have hnames : c.next.Sees [.keyword "type", .ofWord line.1, .keyword "from", .string (some line.2)] :=
    ⟨h1, h2, h3, h4, trivial⟩
  have hstart := importStart_type (s := s) c.line hname hnames
  simp [importDeclaration, importStatement?, importAttributes, moduleSpecifier, endStatement, hstart,
    h0, h1, h3, h4, h5, Cursor.isMark, Cursor.isKeyword, Token.isKeyword, Cursor.skip]

lemma item_import (read : Reader) {line : String × String} (hbound : 0 < c.bound)
    (hname : isReserved line.1 = false) (h : c.Sees (importTokens line)) :
    ∃ phrase, IsImport line phrase ∧ item read s c = .done phrase (c.skip 6) := by
  have hdecorators := decorators_eq_nil (s := s) read hbound h.1 nofun
  have himport := importDeclaration_type (s := s) read hname h
  refine ⟨.node .importDeclaration c.line [.node (.identifier line.1) c.next.next.line []],
    ⟨_, _, rfl⟩, ?_⟩
  simp [item, hdecorators, h.1, himport, Cursor.isKeyword, Token.isKeyword]

/-! ## The declaration of a name -/

/-- The tokens of a line that declares a name. -/
def declarationTokens (m : Member) : List Token :=
  [.string (some m.name), .mark .colon, .keyword "typeof", .ofWord m.target, .mark .semicolon]

/-- That an element is what is read off such a line. -/
def IsDeclaration (m : Member) (element : Element) : Prop :=
  ∃ first second third, element = .property first false (.node (.string (some m.name)) second [])
    (some (.node (.typeQuery (.name m.target) false) third []))

lemma construction_string (read : Reader) {value : Option String} (hbound : 0 < c.bound)
    (h : c.Sees [.string value, .mark .colon]) :
    construction read false s c = .done (.node (.string value) c.line []) c.next := by
  obtain ⟨h0, h1, -⟩ := h
  have hlast : subscript read false true (.node (.string value) c.line []) s c.next =
      .done (.node (.string value) c.line [], false) c.next := by
    simp [subscript, h1, atTypeArguments, atTemplate, Phrase.kind?, Cursor.isMark]
  have hsubscripts : subscripts read (.node (.string value) c.line []) false true s c.next =
      .done (.node (.string value) c.line []) c.next :=
    iterate_eq_done hlast hbound
  simp [construction, primary, single, h0, h1, hsubscripts, atTypeArguments, Phrase.isArrow,
    Cursor.isMark, Cursor.isKeyword, Token.isKeyword]

lemma typeQuery_name (read : Reader) {name : String} (hbound : 0 < c.bound)
    (hname : name ≠ "import")
    (h : c.Sees [.keyword "typeof", .ofWord name, .mark .semicolon]) :
    typeQuery read s c = .done (.node (.typeQuery (.name name) false) c.line []) (c.skip 2) := by
  obtain ⟨h0, h1, h2, -⟩ := h
  have hdotted : dottedName true s c.next = .done (name, false) c.next.next := by
    rw [dottedName, bind_of_done (word_ofWord h1)]
    exact bind_of_done (iterate_eq_done (by simp [h2, Cursor.isMark]) hbound)
  have himport : c.next.isKeyword "import" = false := by
    rw [Cursor.isKeyword, h1, Token.isKeyword_ofWord hname]
  simp [typeQuery, himport, hdotted, typeArguments?, atTypeArguments, h2, Cursor.isMark, Cursor.skip]

/-- The readers of types, from the tightest to the loosest, read the type of a name alike. -/
lemma type_typeof {name : String} (hbound : 0 < c.bound) (hname : name ≠ "import")
    (h : c.Sees [.keyword "typeof", .ofWord name, .mark .semicolon]) :
    type (Phrase.read (n + 1)) s c =
      .done (.node (.typeQuery (.name name) false) c.line []) (c.skip 2) := by
  have hquery (s : Setting) := typeQuery_name (s := s) (Phrase.read n) hbound hname h
  obtain ⟨h0, -, h2, -⟩ := h
  have hprimary (s : Setting) : primaryType (Phrase.read n) s c =
      .done (.node (.typeQuery (.name name) false) c.line []) (c.skip 2) := by
    simp [primaryType, h0, hquery, Cursor.isKeyword, Token.isKeyword]
  have harray (s : Setting) : arrayType (Phrase.read n) s c =
      .done (.node (.typeQuery (.name name) false) c.line []) (c.skip 2) := by
    rw [arrayType, bind_of_done (hprimary s)]
    exact iterate_eq_done (by simp [h2, Cursor.isMark, Cursor.skip]) (by simpa using hbound)
  have hoperand (s : Setting) : operandType (Phrase.read n) s c =
      .done (.node (.typeQuery (.name name) false) c.line []) (c.skip 2) := by
    simp [operandType, modifier?, h0, harray, Cursor.isKeyword, Token.isKeyword]
  have hunconditional (s : Setting) : Phrase.read (n + 1) .unconditionalType s c =
      .done (.node (.typeQuery (.name name) false) c.line []) (c.skip 2) := by
    change unconditionalType (Phrase.read n) s c = _
    simp [unconditionalType, startsFunctionType, joinedTypes, hoperand, h0, h2, Cursor.isMark,
      Cursor.isKeyword, Token.isKeyword, Cursor.skip]
  simp [type, hunconditional, h2, Cursor.isKeyword, Token.isKeyword, Cursor.skip]

/-- **The declaration** of a name. -/
lemma typeElement_declaration {m : Member} (hbound : 0 < c.bound)
    (hname : m.target ≠ "import") (h : c.Sees (declarationTokens m)) :
    typeElement (Phrase.read (n + 2)) s c =
      .done (.property c.line false (.node (.string (some m.name)) c.line [])
        (some (.node (.typeQuery (.name m.target) false) c.next.next.line []))) (c.skip 5) := by
  obtain ⟨h0, h1, h2, h3, h4, -⟩ := h
  have hkey : Phrase.read (n + 2) .construction s c =
      .done (.node (.string (some m.name)) c.line []) c.next :=
    construction_string _ hbound ⟨h0, h1, trivial⟩
  have htype : Phrase.read (n + 2) .type s c.next.next =
      .done (.node (.typeQuery (.name m.target) false) c.next.next.line []) (c.next.next.skip 2) :=
    type_typeof hbound hname ⟨h2, h3, h4, trivial⟩
  simp [typeElement, modifier?, indexParts?, accessorSignature, propertySignature, typePropertyName,
    typeBehind?, endElement, endStatement, hkey, htype, h0, h1, h4, Cursor.isMark, Cursor.isKeyword,
    Token.isKeyword, Cursor.skip]

/-! ## Interfaces -/

/-- The tokens of a body of declarations. -/
def bodyTokens (members : List Member) : List Token :=
  .mark .openBrace :: (members.flatMap declarationTokens ++ [.mark .closeBrace])

/-- Each declaration is a round of the loop that reads the elements of a body. -/
lemma rounds_declarations : ∀ {members : List Member} {c : Cursor}, 0 < c.bound →
    (∀ m ∈ members, m.target ≠ "import") →
    c.Sees (members.flatMap declarationTokens ++ [.mark .closeBrace]) →
    ∃ body, List.Forall₂ IsDeclaration members body ∧
      Rounds (do return !(← atMark .closeBrace)) (typeElement (Phrase.read (n + 2))) s c body
        (c.skip (members.flatMap declarationTokens).length)
  | [], c, _, _, h => ⟨[], .nil, .stop (by simp [h.1, Cursor.isMark, Cursor.skip])⟩
  | m :: rest, c, hbound, hnames, h => by
      rw [List.flatMap_cons, List.append_assoc] at h
      obtain ⟨hfirst, hrest⟩ := Cursor.sees_append.mp h
      obtain ⟨body, hall, hrounds⟩ := rounds_declarations (by rwa [Cursor.bound_skip])
        (fun other ho => hnames other (List.mem_cons_of_mem _ ho)) hrest
      have hstep := typeElement_declaration (s := s) (n := n) hbound
        (hnames m List.mem_cons_self) hfirst
      refine ⟨_ :: body, .cons ⟨_, _, _, rfl⟩ hall, .round ?_ hstep ?_⟩
      · simp [hfirst.1, Cursor.isMark]
      · rwa [List.flatMap_cons, List.length_append, Cursor.skip_add]

/-- **A body** of declarations. -/
lemma elements_declarations {members : List Member} (hbound : members.length < c.bound)
    (hnames : ∀ m ∈ members, m.target ≠ "import") (h : c.Sees (bodyTokens members)) :
    ∃ body, List.Forall₂ IsDeclaration members body ∧
      elements (Phrase.read (n + 2)) s c = .done body (c.skip (bodyTokens members).length) := by
  obtain ⟨hopen, h⟩ := h
  obtain ⟨body, hall, hrounds⟩ := rounds_declarations (s := s) (n := n) (c := c.next)
    (Nat.zero_lt_of_lt hbound) hnames h
  have hclose := (Cursor.sees_append.mp h).2.1
  have hcollect := collect_eq_done hrounds (by rw [← hall.length_eq]; exact hbound)
  refine ⟨body, hall, ?_⟩
  rw [elements, bind_of_done (expect_of_token hopen), bind_of_done hcollect,
    bind_of_done (expect_of_token hclose)]
  rw [bodyTokens, List.length_cons, List.length_append, Cursor.skip, Cursor.skip_add]
  rfl

lemma interface_declarations (line : Nat) {name : String} {members : List Member}
    (hbound : members.length < c.bound) (hnames : ∀ m ∈ members, m.target ≠ "import")
    (h : c.Sees (.ofWord name :: bodyTokens members)) :
    ∃ body, List.Forall₂ IsDeclaration members body ∧
      interface (Phrase.read (n + 2)) line s c =
        .done (.interface line name [] body) (c.next.skip (bodyTokens members).length) := by
  obtain ⟨hname, h⟩ := h
  obtain ⟨body, hall, hbody⟩ := elements_declarations (s := s) (n := n) (c := c.next) hbound
    hnames h
  have hopen : c.next.token = .mark .openBrace := h.1
  refine ⟨body, hall, ?_⟩
  simp [interface, word_ofWord hname, typeParameters?, hopen, hbody, Cursor.isMark, Cursor.isKeyword,
    Token.isKeyword]

/-! ## Modules -/

/-- The tokens of an interface that is exported by default. -/
def exportTokens (name : String) (members : List Member) : List Token :=
  .keyword "export" :: .keyword "default" :: .keyword "interface" :: .ofWord name ::
    bodyTokens members

/-- That a phrase is what is read off such an interface. -/
def IsExport (name : String) (members : List Member) (phrase : Phrase) : Prop :=
  ∃ first second body, List.Forall₂ IsDeclaration members body ∧
    phrase = .node .exportDefault first [.interface second name [] body]

/-- **An interface** that is exported by default. -/
lemma item_export {name : String} {members : List Member} (hbound : members.length < c.bound)
    (hnames : ∀ m ∈ members, m.target ≠ "import") (h : c.Sees (exportTokens name members)) :
    ∃ phrase, IsExport name members phrase ∧ item (Phrase.read (n + 2)) s c =
      .done phrase (c.skip (exportTokens name members).length) := by
  obtain ⟨h0, h1, h2, h⟩ := h
  obtain ⟨body, hall, hinterface⟩ := interface_declarations (s := s) (n := n)
    (c := c.next.next.next) c.next.next.line hbound hnames h
  have hdecorators := decorators_eq_nil (s := s) (Phrase.read (n + 2))
    (Nat.zero_lt_of_lt hbound) h0 nofun
  refine ⟨.node .exportDefault c.line [.interface c.next.next.line name [] body],
    ⟨_, _, body, hall, rfl⟩, ?_⟩
  simp [item, exportDeclaration, declarationNamed?, exportedPhrase, exportDefault, hdecorators, h0, h1,
    h2, hinterface, Cursor.isMark, Cursor.isKeyword, Token.isKeyword]
  rfl

/-- The tokens of a module that imports types and exports an interface. -/
def moduleTokens (imports : List (String × String)) (name : String) (members : List Member) :
    List Token :=
  imports.flatMap importTokens ++ exportTokens name members ++ [.endOfText]

/-- That phrases are the items of such a module. -/
def IsModule (imports : List (String × String)) (name : String) (members : List Member)
    (items : List Phrase) : Prop :=
  ∃ front last, items = front ++ [last] ∧ List.Forall₂ IsImport imports front ∧
    IsExport name members last

/-- Each import is a round of the loop that reads the items of a module. -/
lemma rounds_imports {last : Cursor} {others : List Phrase} :
    ∀ {imports : List (String × String)} {c : Cursor}, 0 < c.bound →
      (∀ line ∈ imports, isReserved line.1 = false) → c.Sees (imports.flatMap importTokens) →
      Rounds (do return !(← atEnd)) (Phrase.read (n + 1) .item) s
        (c.skip (imports.flatMap importTokens).length) others last →
      ∃ front, List.Forall₂ IsImport imports front ∧
        Rounds (do return !(← atEnd)) (Phrase.read (n + 1) .item) s c (front ++ others) last
  | [], c, _, _, _, hothers => ⟨[], .nil, hothers⟩
  | line :: rest, c, hbound, hnames, h, hothers => by
      rw [List.flatMap_cons] at h hothers
      obtain ⟨hline, hrest⟩ := Cursor.sees_append.mp h
      rw [List.length_append, Cursor.skip_add] at hothers
      obtain ⟨front, hall, hrounds⟩ := rounds_imports (by rwa [Cursor.bound_skip])
        (fun other ho => hnames other (List.mem_cons_of_mem _ ho)) hrest hothers
      obtain ⟨phrase, himport, hitem⟩ := item_import (s := s) (Phrase.read n) hbound
        (hnames line List.mem_cons_self) hline
      exact ⟨phrase :: front, .cons himport hall,
        .round (notAtEnd_of_token hline.1 nofun) hitem hrounds⟩

/-- **A module** that imports types and exports an interface. -/
lemma collect_items {imports : List (String × String)} {name : String} {members : List Member}
    (hbound : imports.length + members.length + 1 < c.bound)
    (himports : ∀ line ∈ imports, isReserved line.1 = false)
    (hnames : ∀ m ∈ members, m.target ≠ "import")
    (h : c.Sees (moduleTokens imports name members)) :
    ∃ items last, IsModule imports name members items ∧
      collect (do return !(← atEnd)) (Phrase.read (n + 3) .item) s c = .done items last := by
  obtain ⟨hfront, hend, -⟩ := Cursor.sees_append.mp h
  obtain ⟨hfront, hexport⟩ := Cursor.sees_append.mp hfront
  rw [List.length_append, Cursor.skip_add] at hend
  obtain ⟨exported, he, hitem⟩ := item_export (s := s) (n := n)
    (by rw [Cursor.bound_skip]; omega) hnames hexport
  obtain ⟨front, hall, hrounds⟩ := rounds_imports (n := n + 2) (by omega) himports hfront
    (.round (notAtEnd_of_token hexport.1 nofun) hitem (.stop (notAtEnd_of_end hend)))
  refine ⟨front ++ [exported], _, ⟨front, exported, rfl, hall, he⟩, collect_eq_done hrounds ?_⟩
  rw [List.length_append, ← hall.length_eq, List.length_singleton]
  omega

end AddonRegistry.TypeScript.Grammar
