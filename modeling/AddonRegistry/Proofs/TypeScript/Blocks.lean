import AddonRegistry.Proofs.TypeScript.Lines

/-!
# Announced modules

A module that is announced by `declare` starts like an expression, since the word can be a variable.
Once the words behind it are known, it is read as a block of items, and an interface in it as a body of
elements, whatever these are.  So what is in the block can be found out in both directions: what is
read there if all of it is known, and what must have been read there if the whole was.

* `expression_declare` — the word `declare` alone.
* **`item_declareModule`**, **`item_interface`** — the two blocks.
* `collect_block` — an announced module with an interface of declarations.
* `exists_element_of_elements` — the element that was read in such an interface behind declarations.
-/

namespace AddonRegistry.TypeScript.Grammar

open Reading

variable {s : Setting} {c : Cursor} {n : Nat}

/-! ## The word in front -/

/-- Looking ahead goes back. -/
lemma lookAhead_eq_done (question : Reading Bool) (s : Setting) (c : Cursor) :
    ∃ answer, lookAhead question s c = .done answer c := by
  rw [lookAhead]
  cases question s c <;> exact ⟨_, rfl⟩

lemma construction_declare (read : Reader) (hbound : 0 < c.bound)
    (h : c.Sees [.keyword "declare", .ofWord "module"]) :
    construction read true s c = .done (.node (.identifier "declare") c.line []) c.next := by
  obtain ⟨h0, h1, -⟩ := h
  have href : c.token.isReference := by
    rw [h0]
    decide
  have hname := boundName_of_isReference (s := s) h0 href
  rw [show Token.ofWord "module" = .word "module" none by decide] at h1
  have hprimary : primary read true s c = .done (.node (.identifier "declare") c.line []) c.next := by
    rw [h0] at href
    simp [primary, reference, hname, h0, h1, href, Cursor.isMark, Cursor.isKeyword, Token.isKeyword]
  have hlast : subscript read false true (.node (.identifier "declare") c.line []) s c.next =
      .done (.node (.identifier "declare") c.line [], false) c.next := by
    simp [subscript, h1, atTypeArguments, atTemplate, Phrase.kind?, Cursor.isMark]
  have hsubscripts : subscripts read (.node (.identifier "declare") c.line []) false true s c.next =
      .done (.node (.identifier "declare") c.line []) c.next :=
    iterate_eq_done hlast hbound
  simp [construction, hprimary, hsubscripts, h0, h1, atTypeArguments, Phrase.isArrow,
    Cursor.isMark, Cursor.isKeyword, Token.isKeyword]

lemma unary_declare (read : Reader) (hbound : 0 < c.bound)
    (h : c.Sees [.keyword "declare", .ofWord "module"]) :
    unary read true s c = .done (.node (.identifier "declare") c.line []) c.next := by
  have hconstruction := construction_declare (s := s) read hbound h
  obtain ⟨h0, h1, -⟩ := h
  rw [show Token.ofWord "module" = .word "module" none by decide] at h1
  have hleft : leftHand read true s c = .done (.node (.identifier "declare") c.line []) c.next := by
    simp [leftHand, hconstruction, h0, h1, atTypeArguments, Phrase.isArrow, Phrase.kind?,
      Cursor.isMark, Cursor.isKeyword, Token.isKeyword]
  cases hbroke : c.next.broke <;>
    simp [unary, hleft, hbroke, h0, h1, Phrase.isArrow, Cursor.isMark, Cursor.isKeyword, Token.isKeyword]

lemma expression_declare (hbound : 0 < c.bound)
    (h : c.Sees [.keyword "declare", .ofWord "module"]) :
    expression (Phrase.read (n + 2)) s c = .done (.node (.identifier "declare") c.line []) c.next := by
  have hunary (s : Setting) : Phrase.read (n + 1) (.unary true) s c =
      .done (.node (.identifier "declare") c.line []) c.next :=
    unary_declare (s := s) (Phrase.read n) hbound h
  obtain ⟨h0, h1, -⟩ := h
  have href : c.token.isReference := by
    rw [h0]
    decide
  rw [show Token.ofWord "module" = .word "module" none by decide] at h1
  have hoperations (s : Setting) :
      Phrase.read (n + 1) (.operations (.node (.identifier "declare") c.line []) 0) s c.next =
        .done (.node (.identifier "declare") c.line []) c.next := by
    refine iterate_eq_done ?_ hbound
    simp [operation, h1, Cursor.isKeyword, Token.isKeyword, move, Cursor.joinGreater]
  have hbinary (s : Setting) : binary (Phrase.read (n + 1)) true s c =
      .done (.node (.identifier "declare") c.line []) c.next := by
    rw [binary, bind_of_done (cursor_apply s c)]
    refine (bind_of_done (by rw [hunary])).trans ?_
    simp [hoperations, Phrase.isArrow]
  have hassignment (s : Setting) : Phrase.read (n + 2) .assignment s c =
      .done (.node (.identifier "declare") c.line []) c.next := by
    change assignment (Phrase.read (n + 1)) s c = _
    obtain ⟨answer, hstarts⟩ : ∃ answer, startsTypeParameters s c = .done answer c :=
      lookAhead_eq_done _ s c
    rw [h0] at href
    simp [assignment, plainAssignment, conditional, finishAssignment, hbinary, hstarts, href, h0, h1,
      Phrase.isArrow, Phrase.kind?, Cursor.isMark, Cursor.isKeyword, Token.isKeyword]
  simp [expression, hassignment, h1, Cursor.isMark]

/-- **A module** that is announced is read as its body, whatever that is. -/
lemma item_declareModule {value : Option String} (hbound : 0 < c.bound) (hbroke : c.next.broke = false)
    (h : c.Sees [.keyword "declare", .ofWord "module", .string value, .mark .openBrace]) :
    item (Phrase.read (n + 3)) s c =
      (Phrase.module c.line (.specifier value) <$> moduleBody (Phrase.read (n + 3)))
        { s with ambient := true } (c.skip 3) := by
  obtain ⟨h0, h1, h2, h3, -⟩ := h
  have hdecorators := decorators_eq_nil (s := s) (Phrase.read (n + 3)) hbound h0 nofun
  have hexpression (s : Setting) : Phrase.read (n + 3) .expression s c =
      .done (.node (.identifier "declare") c.line []) c.next :=
    expression_declare hbound ⟨h0, h1, trivial⟩
  rw [show Token.ofWord "module" = .word "module" none by decide] at h1
  have hmodule : ambientModule (Phrase.read (n + 3)) c.line { s with ambient := true } c.next.next =
      (Phrase.module c.line (.specifier value) <$> moduleBody (Phrase.read (n + 3)))
        { s with ambient := true } (c.skip 3) := by
    simp [ambientModule, h2, h3, Cursor.isMark, Cursor.skip]
  have hannouncement : announcement? (Phrase.read (n + 3)) c.line [] s c.next =
      (some <$> ambientModule (Phrase.read (n + 3)) c.line) { s with ambient := true } c.next.next := by
    simp [announcement?, declarationNamed?, hbroke, h1, h2, Cursor.isKeyword, Token.isKeyword]
  simp only [item, statementBehind, expressionStatement, declarationBehind?]
  simp [hdecorators, hexpression, hannouncement, hmodule, h0, h1, withMembership, Phrase.identifier?,
    Cursor.isKeyword, Cursor.isMark, Token.isKeyword]
  cases moduleBody (Phrase.read (n + 3)) { s with ambient := true } (c.skip 3) <;> simp

/-- **An interface** is read as its elements, whatever these are. -/
lemma item_interface (read : Reader) {name : String} (hbound : 0 < c.bound)
    (hbroke : c.next.broke = false) (h : c.Sees [.keyword "interface", .ofWord name, .mark .openBrace]) :
    item read s c = (Phrase.interface c.line name [] <$> elements read) s (c.skip 2) := by
  obtain ⟨h0, h1, h2, -⟩ := h
  have hdecorators := decorators_eq_nil (s := s) read hbound h0 nofun
  have hword := word_ofWord (s := s) h1
  have hinterface : interface read c.line s c.next =
      (Phrase.interface c.line name [] <$> elements read) s (c.skip 2) := by
    simp [interface, hword, typeParameters?, h2, Cursor.isMark, Cursor.isKeyword, Token.isKeyword,
      Cursor.skip]
  have hisWord : c.next.token.isWord := by
    rw [h1]
    rfl
  simp [item, statementBehind, hdecorators, hinterface, hisWord, hbroke, h0, Cursor.isKeyword,
    Token.isKeyword]

/-! ## Both blocks -/

/-- The tokens in front of the body of an interface in an announced module. -/
def openingTokens (module name : String) : List Token :=
  [.keyword "declare", .ofWord "module", .string (some module), .mark .openBrace,
    .keyword "interface", .ofWord name]

/-- That these tokens stand in front of a reader, and a body behind them.  No line may end behind the
first word of either block. -/
structure Opens (module name : String) (c : Cursor) : Prop where
  sees : c.Sees (openingTokens module name ++ [.mark .openBrace])
  unbroken : c.next.broke = false
  unbrokenInside : (c.skip 4).next.broke = false

variable {module name : String} {members : List Member}

lemma Opens.item_declareModule (h : Opens module name c) (hbound : 0 < c.bound) :
    item (Phrase.read (n + 3)) s c =
      (Phrase.module c.line (.specifier (some module)) <$> moduleBody (Phrase.read (n + 3)))
        { s with ambient := true } (c.skip 3) := by
  obtain ⟨h0, h1, h2, h3, -⟩ := h.sees
  exact Grammar.item_declareModule hbound h.unbroken ⟨h0, h1, h2, h3, trivial⟩

lemma Opens.item_interface (h : Opens module name c) (read : Reader) (hbound : 0 < c.bound) :
    item read s (c.skip 4) =
      (Phrase.interface (c.skip 4).line name [] <$> elements read) s (c.skip 6) := by
  obtain ⟨-, -, -, -, h4, h5, h6, -⟩ := h.sees
  exact Grammar.item_interface read (by rwa [Cursor.bound_skip]) h.unbrokenInside
    ⟨h4, h5, h6, trivial⟩

/-- The text does not end in front of the module. -/
lemma Opens.notAtEnd (h : Opens module name c) :
    (do return !(← atEnd) : Reading Bool) s c = .done true c :=
  notAtEnd_of_token h.sees.1 nofun

/-- The brace behind the name of the module opens it. -/
lemma Opens.expect_openBrace (h : Opens module name c) :
    expect .openBrace s (c.skip 3) = .done () (c.skip 4) := by
  obtain ⟨-, -, -, h3, -⟩ := h.sees
  exact expect_of_token h3

/-- There is an item in the module. -/
lemma Opens.more_inside (h : Opens module name c) :
    (do return !(← atEnd) && !(← atMark .closeBrace) : Reading Bool) s (c.skip 4) =
      .done true (c.skip 4) := by
  obtain ⟨-, -, -, -, h4, -⟩ := h.sees
  have htoken : (c.skip 4).token = .keyword "interface" := h4
  simp [htoken, Cursor.isMark]

/-- The tokens of an announced module with an interface of declarations. -/
def blockTokens (module name : String) (members : List Member) : List Token :=
  openingTokens module name ++ (bodyTokens members ++ [.mark .closeBrace, .endOfText])

/-- **An announced module** with an interface of declarations is read as such. -/
lemma collect_block (hbound : members.length + 1 < c.bound) (hopens : Opens module name c)
    (hnames : ∀ m ∈ members, m.target ≠ "import") (h : c.Sees (blockTokens module name members)) :
    ∃ first second body last, List.Forall₂ IsDeclaration members body ∧
      collect (do return !(← atEnd)) (Phrase.read (n + 4) .item) s c =
        .done [.module first (.specifier (some module)) [.interface second name [] body]] last := by
  obtain ⟨-, h⟩ := Cursor.sees_append.mp h
  change (c.skip 6).Sees _ at h
  obtain ⟨hbody, hclose, hend, -⟩ := Cursor.sees_append.mp h
  obtain ⟨body, hall, helements⟩ := elements_declarations (s := { s with ambient := true }) (n := n)
    (c := c.skip 6) (by rw [Cursor.bound_skip]; omega) hnames hbody
  generalize hlast : (c.skip 6).skip (bodyTokens members).length = last at hclose hend helements
  have hinterface : Phrase.read (n + 3) .item { s with ambient := true } (c.skip 4) =
      .done (.interface (c.skip 4).line name [] body) last := by
    change item (Phrase.read (n + 2)) _ _ = _
    rw [hopens.item_interface _ (by omega), map_apply, helements]
  have hstop : (do return !(← atEnd) && !(← atMark .closeBrace) : Reading Bool)
      { s with ambient := true } last = .done false last := by
    simp [hclose, Cursor.isMark]
  have hinside := collect_eq_done (.round hopens.more_inside hinterface (.stop hstop))
    (by rw [Cursor.bound_skip]; simp only [List.length_singleton]; omega)
  have hmodule : Phrase.read (n + 4) .item s c =
      .done (.module c.line (.specifier (some module))
        [.interface (c.skip 4).line name [] body]) last.next := by
    change item (Phrase.read (n + 3)) s c = _
    rw [hopens.item_declareModule (by omega), map_apply, moduleBody,
      bind_of_done hopens.expect_openBrace, bind_of_done hinside]
    simp [hclose, Cursor.isMark]
  refine ⟨_, _, body, last.next, hall, collect_eq_done
    (.round hopens.notAtEnd hmodule (.stop (notAtEnd_of_end hend))) ?_⟩
  simp only [List.length_singleton]
  omega

/-- **What was read** of an announced module with an interface in it: a body of elements. -/
lemma exists_elements_of_collect {items : List Phrase} {last : Cursor} (hbound : 0 < c.bound)
    (hopens : Opens module name c)
    (h : collect (do return !(← atEnd)) (Phrase.read (n + 4) .item) s c = .done items last) :
    ∃ first second body between inside others,
      elements (Phrase.read (n + 2)) { s with ambient := true } (c.skip 6) = .done body between ∧
        items = .module first (.specifier (some module)) (.interface second name [] body :: inside) ::
          others := by
  obtain ⟨phrase, behind, others, rfl, hmodule, -⟩ :=
    (rounds_of_collect h).first hopens.notAtEnd
  change item (Phrase.read (n + 3)) s c = _ at hmodule
  rw [hopens.item_declareModule hbound] at hmodule
  obtain ⟨found, hbody, rfl⟩ := map_eq_done.mp hmodule
  rw [moduleBody, bind_of_done hopens.expect_openBrace] at hbody
  obtain ⟨inner, between, hcollect, hrest⟩ := bind_eq_done.mp hbody
  obtain ⟨closed, final, -, hpure⟩ := bind_eq_done.mp hrest
  cases hpure
  obtain ⟨phrase, after, inside, rfl, hinterface, -⟩ :=
    (rounds_of_collect hcollect).first hopens.more_inside
  change item (Phrase.read (n + 2)) _ _ = _ at hinterface
  rw [hopens.item_interface _ hbound] at hinterface
  obtain ⟨body, helements, rfl⟩ := map_eq_done.mp hinterface
  exact ⟨_, _, body, after, inside, others, helements, rfl⟩

/-! ## The elements behind declarations -/

/-- Behind declarations, the rounds of the loop go on with whatever is read there. -/
lemma exists_rest_of_rounds : ∀ {members : List Member} {c last : Cursor} {body : List Element},
    0 < c.bound → (∀ m ∈ members, m.target ≠ "import") →
    c.Sees (members.flatMap declarationTokens) →
    Rounds (do return !(← atMark .closeBrace)) (typeElement (Phrase.read (n + 2))) s c body last →
    ∃ front rest, body = front ++ rest ∧ List.Forall₂ IsDeclaration members front ∧
      Rounds (do return !(← atMark .closeBrace)) (typeElement (Phrase.read (n + 2))) s
        (c.skip (members.flatMap declarationTokens).length) rest last
  | [], c, last, body, _, _, _, hrounds => ⟨[], body, rfl, .nil, hrounds⟩
  | m :: members, c, last, body, hbound, hnames, h, hrounds => by
      rw [List.flatMap_cons] at h
      obtain ⟨hfirst, hrest⟩ := Cursor.sees_append.mp h
      have hmore : (do return !(← atMark .closeBrace) : Reading Bool) s c = .done true c := by
        simp [hfirst.1, Cursor.isMark]
      obtain ⟨element, second, others, rfl, hstep, hothers⟩ := hrounds.first hmore
      have hdeclaration := typeElement_declaration (s := s) (n := n) hbound
        (hnames m List.mem_cons_self) hfirst
      cases hdeclaration.symm.trans hstep
      obtain ⟨front, rest, rfl, hall, hbehind⟩ := exists_rest_of_rounds (by rwa [Cursor.bound_skip])
        (fun other ho => hnames other (List.mem_cons_of_mem _ ho)) hrest hothers
      refine ⟨_ :: front, rest, rfl, .cons ⟨_, _, _, rfl⟩ hall, ?_⟩
      rwa [List.flatMap_cons, List.length_append, Cursor.skip_add]

/-- **The element behind declarations**, in a body that was read. -/
lemma exists_element_of_elements {last : Cursor} {body : List Element} {token : Token}
    (hbound : 0 < c.bound) (hnames : ∀ m ∈ members, m.target ≠ "import")
    (h : c.Sees (.mark .openBrace :: (members.flatMap declarationTokens ++ [token])))
    (hclose : token ≠ .mark .closeBrace)
    (hdone : elements (Phrase.read (n + 2)) s c = .done body last) :
    ∃ front element rest first second, body = front ++ element :: rest ∧
      List.Forall₂ IsDeclaration members front ∧ first.token = token ∧
        typeElement (Phrase.read (n + 2)) s first = .done element second := by
  obtain ⟨hopen, h⟩ := h
  obtain ⟨hsees, htoken, -⟩ := Cursor.sees_append.mp h
  rw [elements, bind_of_done (expect_of_token hopen)] at hdone
  obtain ⟨found, between, hcollect, hrest⟩ := bind_eq_done.mp hdone
  obtain ⟨closed, final, -, hpure⟩ := bind_eq_done.mp hrest
  cases hpure
  obtain ⟨front, rest, rfl, hall, hrounds⟩ := exists_rest_of_rounds (c := c.next)
    hbound hnames hsees (rounds_of_collect hcollect)
  generalize c.next.skip (members.flatMap declarationTokens).length = first at htoken hrounds
  have hmore : (do return !(← atMark .closeBrace) : Reading Bool) s first = .done true first := by
    simp [htoken, hclose, Cursor.isMark]
  obtain ⟨element, second, others, rfl, hstep, -⟩ := hrounds.first hmore
  exact ⟨front, element, others, _, second, rfl, hall, htoken, hstep⟩

end AddonRegistry.TypeScript.Grammar
