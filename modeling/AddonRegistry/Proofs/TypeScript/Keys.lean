import AddonRegistry.Proofs.TypeScript.Lines

/-!
# Elements that start with a string

An element of an interface whose first token is a string has no other name than that string.  Its key
is read like an expression, so that more can belong to it than the string; but then the key is no name
at all.

* `IsKeyOf` — that a key names nothing but a string.
* `isKeyOf_subscript`, `isKeyOf_construction` — what is read of a key that starts with a string.
* **`name_of_typeElement`** — the name of an element that starts with a string.
-/

namespace AddonRegistry.TypeScript.Grammar

open Reading

variable {s : Setting} {c last : Cursor} {value : Option String} {base : Phrase}

/-! ## Keys -/

/-- That a key gives the name that a string has as its value, or none. -/
def IsKeyOf (value : Option String) (key : Phrase) : Prop :=
  ∀ name, nameOfKey? false key = some name → value = some name

lemma isKeyOf_string (line : Nat) (parts : List Phrase) :
    IsKeyOf value (.node (.string value) line parts) := fun _ h => h

/-- What is neither a string nor an identifier gives no name. -/
lemma isKeyOf_node {kind : Kind} {line : Nat} {parts : List Phrase} (hstring : ∀ v, kind ≠ .string v)
    (hname : ∀ name, kind ≠ .identifier name) : IsKeyOf value (.node kind line parts) := by
  intro name h
  cases kind <;> simp_all [nameOfKey?, Phrase.kind?]

lemma isKeyOf_call (read : Reader) (base : Phrase) (types : List Phrase) (optional : Bool) :
    Yields (call read base types optional) (IsKeyOf value) := by
  refine .bind fun values => ?_
  split
  · split
    · exact .bind fun _ => .pure (isKeyOf_node nofun nofun)
    · exact .pure (isKeyOf_node nofun nofun)
  · exact .pure (isKeyOf_node nofun nofun)

lemma isKeyOf_taggedTemplate (read : Reader) (tag : Phrase) (types : List Phrase) :
    Yields (taggedTemplate read tag types) (IsKeyOf value) :=
  .bind fun _ => .pure (isKeyOf_node nofun nofun)

lemma isKeyOf_genericSubscript (read : Reader) (base : Phrase) (calls : Bool) :
    Yields (genericSubscript read base calls) fun found => ∀ result ∈ found, IsKeyOf value result.1 := by
  refine .bind fun types => .bind fun c => ?_
  split
  · exact .bind_of (isKeyOf_call read base types false) fun phrase h => .pure (by simpa using h)
  · refine .bind fun template => ?_
    split
    · exact .bind_of (isKeyOf_taggedTemplate read base types) fun phrase h => .pure (by simpa using h)
    · split
      · refine .pure fun result hresult => ?_
        cases hresult
        exact isKeyOf_node nofun nofun
      · exact .pure (by simp)

/-- **What stands behind a key** makes it no other name. -/
lemma isKeyOf_subscript (read : Reader) (calls brackets : Bool) (hbase : IsKeyOf value base) :
    Yields (subscript read calls brackets base) fun found => IsKeyOf value found.1 := by
  refine .bind fun c => ?_
  extract_lets isExpression chained optional plain behind
  have hplain : ∀ done, Yields (plain done) fun found => IsKeyOf value found.1 := by
    refine fun _ => .bind fun atBracket => ?_
    split
    · exact .bind fun _ => .bind fun _ => .bind fun _ => .pure (isKeyOf_node nofun nofun)
    refine .bind fun atParen => ?_
    split
    · exact .bind_of (isKeyOf_call read base [] chained) fun phrase h => .pure h
    refine .bind fun atDot => ?_
    split
    · exact .bind fun _ => .pure (isKeyOf_node nofun nofun)
    split
    · split <;> exact .fail
    split
    · exact .fail
    refine .bind fun template => ?_
    split
    · exact .bind_of (isKeyOf_taggedTemplate read base []) fun phrase h => .pure h
    · exact .pure hbase
  have hbehind : ∀ generic, (∀ result ∈ generic, IsKeyOf value result.1) →
      Yields (behind generic) fun found => IsKeyOf value found.1 := by
    intro generic hgeneric
    cases generic with
    | some result => exact .pure (hgeneric result rfl)
    | none =>
        dsimp only [behind]
        split
        · exact .bind fun _ => .bind hplain
        · exact hplain ()
  split
  · exact .bind fun _ => .pure (isKeyOf_node nofun nofun)
  · refine .bind fun types => ?_
    split
    · exact .bind_of (.attempt (isKeyOf_genericSubscript read base calls)) hbehind
    · exact .bind_of (.pure (by simp)) hbehind

lemma isKeyOf_subscripts (read : Reader) (calls brackets : Bool) (hbase : IsKeyOf value base) :
    Yields (subscripts read base calls brackets) (IsKeyOf value) :=
  .iterate hbase fun _ h => isKeyOf_subscript read calls brackets h

/-- **A key that starts with a string** names nothing else. -/
lemma isKeyOf_construction (read : Reader) {key : Phrase} (h : c.token = .string value)
    (hdone : construction read false s c = .done key last) : IsKeyOf value key := by
  have hprimary : primary read false s c = .done (.node (.string value) c.line []) c.next := by
    simp [primary, single, h]
  rw [construction, bind_of_done (cursor_apply s c)] at hdone
  simp only [Cursor.isKeyword, h, Token.isKeyword, Bool.false_eq_true, if_false] at hdone
  rw [bind_of_done hprimary] at hdone
  rw [if_neg (by simp [Phrase.isArrow])] at hdone
  have hstring : IsKeyOf value (.node (.string value) c.line []) := isKeyOf_string c.line []
  have hplain := isKeyOf_subscripts read false true hstring
  refine Yields.bind (fun typed => ?_) hdone
  split <;> refine .bind fun types => ?_ <;> cases types with
  | none => exact hplain
  | some types => exact isKeyOf_subscripts read false true (isKeyOf_node (by simp) (by simp))

/-! ## Elements -/

/-- That an element is a property with a key that is not in brackets, if it is a property. -/
def HasKey (key : Phrase) : Element → Prop
  | .property _ computed other _ => computed = false ∧ other = key
  | .signature _ _ _ => True

lemma hasKey_propertySignature (read : Reader) (line : Nat) (readonly : Bool) {element : Element}
    (h : c.token = .string value) (hdone : propertySignature read line readonly s c = .done element last) :
    ∃ key between, read .construction s c = .done key between ∧ HasKey key element := by
  have hname : typePropertyName read s c = (Prod.mk false <$> read .construction) s c := by
    rw [typePropertyName, bind_of_done (cursor_apply s c)]
    simp only [h]
    rfl
  obtain ⟨⟨computed, key⟩, between, hfirst, hdone⟩ := bind_eq_done.mp hdone
  rw [hname] at hfirst
  obtain ⟨found, hkey, hfound⟩ := map_eq_done.mp hfirst
  cases hfound
  refine ⟨key, between, hkey, ?_⟩
  refine Yields.bind (fun optional => .bind fun atParen => .bind fun atLess => ?_) hdone
  split
  · extract_lets behind
    have hbehind : ∀ done, Yields (behind done) (HasKey key) := fun _ =>
      .bind fun _ => .bind fun _ => .bind fun _ => .bind fun _ => .bind fun _ => .pure trivial
    split
    · exact .bind hbehind
    · exact hbehind ()
  · exact .bind fun _ => .bind fun _ => .pure ⟨rfl, rfl⟩

/-- At a string there is neither a modifier, nor an accessor, nor any other signature. -/
lemma typeElement_string (read : Reader) (h : c.token = .string value) :
    typeElement read s c = propertySignature read c.line false s c := by
  simp [typeElement, modifier?, indexParts?, accessorSignature, h, Cursor.isMark, Cursor.isKeyword,
    Token.isKeyword]

/-- **The name** of an element that starts with a string. -/
theorem name_of_typeElement {n : Nat} {element : Element} {m : Member} (h : c.token = .string value)
    (hdone : typeElement (Phrase.read (n + 1)) s c = .done element last)
    (hmember : memberOfElement element = .ok m) : value = some m.name := by
  rw [typeElement_string _ h] at hdone
  obtain ⟨key, between, hkey, hhas⟩ := hasKey_propertySignature _ c.line false h hdone
  have hnames : IsKeyOf value key := isKeyOf_construction (Phrase.read n) h hkey
  cases element with
  | signature kind line parts => cases hmember
  | property line computed other type =>
      obtain ⟨rfl, rfl⟩ := hhas
      rw [memberOfElement] at hmember
      split at hmember
      · cases hmember
      · next name hname =>
          split at hmember <;> cases hmember
          exact hnames _ hname

/-- No element starts with what is no token. -/
lemma typeElement_bad (read : Reader) {fault : Fault} (h : c.token = .bad fault) (element : Element) :
    typeElement read s c ≠ .done element last := by
  simp [typeElement, modifier?, h, Cursor.isMark, Cursor.isKeyword, Token.isKeyword, Reading.failWith]

end AddonRegistry.TypeScript.Grammar
