import AddonRegistry.Proofs.TypeScript.Lexemes

/-!
# How tokens are spelled

A text spells tokens if a reader sees them on it, wherever in a module it stands.

* `Begins` — that a token is what a text begins with, and which text is behind it.
* `Spelled` — that a text spells tokens, and which text is behind them.
* `begins_word`, `begins_quoted`, `begins_mark` — tokens of each form.
* `spelled_intercalate` — lines, one below the other.
* **`sees_of_spelled`** — a reader on a text sees the tokens that it spells.
-/

namespace AddonRegistry.TypeScript

/-! ## One token -/

/-- That there are only blanks in front of a text. -/
def Leads (text solid : List Char) : Prop :=
  ∀ line broke, ∃ line' broke', Trivia.skip .blanks text line broke none = ⟨solid, line', broke', none⟩

lemma leads_nil : Leads [] [] := fun line broke => ⟨line, broke, Trivia.skip_nil line broke none⟩

lemma leads_of_isSolid {c : Char} (h : isSolid c) (rest : List Char) : Leads (c :: rest) (c :: rest) :=
  fun line broke => ⟨line, broke, Trivia.skip_cons_of_isSolid rest line broke none h⟩

lemma Leads.space {text solid : List Char} (h : Leads text solid) : Leads (' ' :: text) solid := by
  intro line broke
  rw [Trivia.skip_space]
  exact h line broke

lemma Leads.lineFeed {text solid : List Char} (h : Leads text solid) : Leads ('\n' :: text) solid := by
  intro line broke
  rw [Trivia.skip_lineFeed]
  exact h (line + 1) true

/-- That a text begins with a token, wherever it stands, and that `rest` is behind the token. -/
def Begins (bound : Nat) (text : List Char) (token : Token) (rest : List Char) : Prop :=
  ∃ solid, Leads text solid ∧ ∀ line, ∃ line', Lexeme.scan bound solid line = ⟨token, rest, line'⟩

variable {bound : Nat} {text rest last : List Char} {token : Token} {tokens : List Token}

lemma begins_nil : Begins bound [] .endOfText [] := ⟨[], leads_nil, fun line => ⟨line, rfl⟩⟩

lemma Begins.space (h : Begins bound text token rest) : Begins bound (' ' :: text) token rest :=
  h.imp fun _ hs => ⟨hs.1.space, hs.2⟩

lemma Begins.lineFeed (h : Begins bound text token rest) : Begins bound ('\n' :: text) token rest :=
  h.imp fun _ hs => ⟨hs.1.lineFeed, hs.2⟩

/-- Whether a word ends depends on the next character. -/
lemma stopsWord_cons {c : Char} (h : stopsWord [c]) (rest : List Char) : stopsWord (c :: rest) := h

lemma exists_cons_of_isIdentifier {name : List Char} (h : isIdentifier name) :
    ∃ c letters, name = c :: letters ∧ isSolid c := by
  cases name with
  | nil => cases h
  | cons c letters =>
      rw [isIdentifier, Bool.and_eq_true] at h
      exact ⟨c, letters, rfl, isSolid_of_isIdentifierStart h.1⟩

/-- A word. -/
lemma begins_word {name : List Char} (hname : isIdentifier name) (hbound : name.length < bound)
    (hstop : stopsWord rest) : Begins bound (name ++ rest) (.ofWord (String.ofList name)) rest := by
  refine ⟨name ++ rest, ?_, fun line => ⟨line, Lexeme.scan_identifier hname hstop hbound line⟩⟩
  obtain ⟨c, letters, rfl, hsolid⟩ := exists_cons_of_isIdentifier hname
  exact leads_of_isSolid hsolid (letters ++ rest)

/-- A keyword and a space. -/
lemma begins_keyword (name : String) (hname : isIdentifier name.toList)
    (hkeyword : isReserved name || isContextual name) (hbound : name.toList.length < bound)
    (rest : List Char) : Begins bound (name.toList ++ ' ' :: rest) (.keyword name) (' ' :: rest) := by
  have h := begins_word hname hbound (stopsWord_cons (by decide : stopsWord [' ']) rest)
  rwa [String.ofList_toList, Token.ofWord, if_pos hkeyword] at h

/-- A string in single quotes. -/
lemma begins_quoted (htext : isQuotable text) (hbound : text.length < bound) (rest : List Char) :
    Begins bound ('\x27' :: (text ++ '\x27' :: rest)) (.string (some (String.ofList text))) rest :=
  ⟨_, leads_of_isSolid (by decide) _, fun line => ⟨line, Lexeme.scan_quoted htext hbound line⟩⟩

/-- A mark that is a single character and begins no other. -/
lemma begins_mark {c : Char} {mark : Mark} (hsolid : isSolid c)
    (hscan : ∀ rest line, Lexeme.scan bound (c :: rest) line = ⟨.mark mark, rest, line⟩) :
    Begins bound (c :: rest) (.mark mark) rest :=
  ⟨_, leads_of_isSolid hsolid rest, fun line => ⟨line, hscan rest line⟩⟩

lemma begins_semicolon : Begins bound (';' :: rest) (.mark .semicolon) rest :=
  begins_mark (by decide) fun _ _ => rfl

lemma begins_colon : Begins bound (':' :: rest) (.mark .colon) rest :=
  begins_mark (by decide) fun _ _ => rfl

lemma begins_openBrace : Begins bound ('\x7b' :: rest) (.mark .openBrace) rest :=
  begins_mark (by decide) fun _ _ => rfl

lemma begins_closeBrace : Begins bound ('\x7d' :: rest) (.mark .closeBrace) rest :=
  begins_mark (by decide) fun _ _ => rfl

/-! ## Many tokens -/

/-- That a text spells tokens, and that `last` is behind them. -/
inductive Spelled (bound : Nat) : List Char → List Token → List Char → Prop where
  | nil (text : List Char) : Spelled bound text [] text
  | cons {text rest last : List Char} {token : Token} {tokens : List Token}
      (h : Begins bound text token rest) (hrest : Spelled bound rest tokens last) :
      Spelled bound text (token :: tokens) last

lemma Spelled.append {front back : List Token} {middle : List Char}
    (hfront : Spelled bound text front middle) (hback : Spelled bound middle back last) :
    Spelled bound text (front ++ back) last := by
  induction hfront with
  | nil => exact hback
  | cons h _ ih => exact .cons h (ih hback)

lemma Spelled.lineFeed (h : Spelled bound text tokens last) (hne : tokens ≠ []) :
    Spelled bound ('\n' :: text) tokens last := by
  cases h with
  | nil => exact absurd rfl hne
  | cons h hrest => exact .cons h.lineFeed hrest

/-- Lines that spell tokens, one below the other. -/
lemma spelled_intercalate {α : Type} (chars : α → List Char) (spells : α → List Token)
    (hne : ∀ line, spells line ≠ []) : ∀ lines : List α,
      (∀ line ∈ lines, ∀ rest, Spelled bound (chars line ++ rest) (spells line) rest) →
      ∀ rest, Spelled bound (['\n'].intercalate (lines.map chars) ++ rest) (lines.flatMap spells) rest
  | [], _, rest => .nil rest
  | [line], h, rest => by
      rw [List.map_singleton, List.intercalate_singleton, List.flatMap_singleton]
      exact h line List.mem_cons_self rest
  | line :: other :: more, h, rest => by
      have hrest := spelled_intercalate chars spells hne (other :: more)
        (fun l hl => h l (List.mem_cons_of_mem _ hl)) rest
      have hnonempty : (other :: more).flatMap spells ≠ [] := by
        rw [List.flatMap_cons]
        exact List.append_ne_nil_of_left_ne_nil (hne other) _
      rw [List.map_cons, List.map_cons, List.intercalate_cons_cons, ← List.map_cons, List.flatMap_cons,
        List.append_assoc, List.append_assoc]
      exact (h line List.mem_cons_self _).append (hrest.lineFeed hnonempty)

/-! ## Readers -/

/-- Where a reader starts, unless what it starts with may have to be skipped. -/
lemma Cursor.start_eq_load {text : List Char} (h : text.head? ≠ some '#') :
    Cursor.start text = Cursor.load (text.length + 2) text 1 true := by
  unfold start
  split
  · exact absurd rfl h
  · rfl

/-- The cursor on a text that begins with a token. -/
lemma load_of_begins (h : Begins bound text token rest) (line : Nat) (broke : Bool) :
    (Cursor.load bound text line broke).token = token ∧
      (Cursor.load bound text line broke).rest = rest := by
  obtain ⟨solid, hleads, hscan⟩ := h
  obtain ⟨line', broke', hskip⟩ := hleads line broke
  obtain ⟨line'', hscan⟩ := hscan line'
  simp [Cursor.load, hskip, hscan]

/-- **A reader** on a text sees the tokens that it spells. -/
lemma sees_of_spelled (h : Spelled bound text tokens last) :
    ∀ line broke, (Cursor.load bound text line broke).Sees tokens := by
  induction h with
  | nil => exact fun _ _ => trivial
  | cons h _ ih =>
      intro line broke
      obtain ⟨htoken, hrest⟩ := load_of_begins h line broke
      refine ⟨htoken, ?_⟩
      rw [Cursor.next, hrest]
      exact ih _ false

/-- Behind a token, the next one is looked for in the text behind it. -/
lemma next_of_begins (h : Begins bound text token rest) (line : Nat) (broke : Bool) :
    ∃ line', (Cursor.load bound text line broke).next = Cursor.load bound rest line' false := by
  refine ⟨(Cursor.load bound text line broke).restLine, ?_⟩
  rw [Cursor.next, (load_of_begins h line broke).2]
  rfl

/-- Behind the tokens that a text spells, a reader goes on with the text behind them. -/
lemma skip_of_spelled (h : Spelled bound text tokens last) : ∀ line broke, ∃ line' broke',
    (Cursor.load bound text line broke).skip tokens.length = Cursor.load bound last line' broke' := by
  induction h with
  | nil => exact fun line broke => ⟨line, broke, rfl⟩
  | cons h _ ih =>
      intro line broke
      obtain ⟨line', hnext⟩ := next_of_begins h line broke
      rw [List.length_cons, Cursor.skip, hnext]
      exact ih line' false

/-- No line ends between a token and one that only a space is in front of. -/
lemma broke_next_of_begins {c : Char} (h : Begins bound text token (' ' :: c :: rest))
    (hsolid : isSolid c) (line : Nat) (broke : Bool) :
    (Cursor.load bound text line broke).next.broke = false := by
  obtain ⟨line', hnext⟩ := next_of_begins h line broke
  rw [hnext, Cursor.load, Trivia.skip_space, Trivia.skip_cons_of_isSolid rest line' false none hsolid]

/-- The token of a reader is scanned behind the blanks. -/
lemma token_of_leads {solid : List Char} (h : Leads text solid) (line : Nat) (broke : Bool) :
    ∃ line', (Cursor.load bound text line broke).token = (Lexeme.scan bound solid line').token := by
  obtain ⟨line', broke', hskip⟩ := h line broke
  exact ⟨line', by simp [Cursor.load, hskip]⟩

/-- Behind the tokens that a text spells, a reader sees what is scanned behind the blanks. -/
lemma exists_sees_of_spelled {solid : List Char} (h : Spelled bound text tokens last)
    (hleads : Leads last solid) (line : Nat) (broke : Bool) : ∃ line',
      (Cursor.load bound text line broke).Sees (tokens ++ [(Lexeme.scan bound solid line').token]) := by
  obtain ⟨between, broke', hskip⟩ := skip_of_spelled h line broke
  obtain ⟨line', htoken⟩ : ∃ line', (Cursor.load bound last between broke').token =
      (Lexeme.scan bound solid line').token := token_of_leads hleads between broke'
  refine ⟨line', Cursor.sees_append.mpr ⟨sees_of_spelled h line broke, ?_⟩⟩
  rw [hskip]
  exact ⟨htoken, trivial⟩

end AddonRegistry.TypeScript
