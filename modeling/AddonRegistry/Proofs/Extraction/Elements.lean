import AddonRegistry.Proofs.Extraction.Registries
import AddonRegistry.Proofs.TypeScript.Steps
import Mathlib.Data.List.Forall2

/-!
# Which elements a registry accepts

A registry is meant to declare a name by a property whose key is a string or an identifier and whose type
is that of one named variable.  `Declares` is that grammar.  One more form passes: a string counts as a key
even in brackets, where an identifier does not.

* `nameOfKey?_eq_some_iff`, `targetOfType_eq_ok_iff` — what a key names and what a type asks for.
* `memberOfElement_eq_ok_iff` — the accepted elements, `Declares` and `DeclaresInBrackets`.
* `unexpectedShape_of_not_accepted` — every other element is rejected at its own line.
* `line_of_typeElement` — the line of an element is the one of its first token.
* **`accepted_elements`** — all of it, with what it comes to for the elements of a whole interface.
* `bracketed_string_is_accepted` — a string in brackets.
-/

namespace AddonRegistry

open TypeScript

/-! ## The grammar of elements -/

/-- That a type is that of one named variable, `typeof x`. -/
def IsTypeOf (target : String) (type : Phrase) : Prop :=
  type.kind? = some (.typeQuery (.name target) false)

/-- The elements that declare a name: `'key': typeof Target` and `key: typeof Target`. -/
inductive Declares : Element → Member → Prop where
  | string {line : Nat} {key type : Phrase} {name target : String}
      (hkey : key.kind? = some (.string (some name))) (htype : IsTypeOf target type) :
      Declares (.property line false key (some type)) ⟨name, target⟩
  | identifier {line : Nat} {key type : Phrase} {name target : String}
      (hkey : key.kind? = some (.identifier name)) (htype : IsTypeOf target type) :
      Declares (.property line false key (some type)) ⟨name, target⟩

/-- The elements whose name is a string in brackets: `['key']: typeof Target`. -/
inductive DeclaresInBrackets : Element → Member → Prop where
  | string {line : Nat} {key type : Phrase} {name target : String}
      (hkey : key.kind? = some (.string (some name))) (htype : IsTypeOf target type) :
      DeclaresInBrackets (.property line true key (some type)) ⟨name, target⟩

/-- Whether an element is a property whose key is in brackets. -/
def TypeScript.Element.inBrackets : Element → Bool
  | .property _ computed _ _ => computed
  | .signature _ _ _ => false

lemma not_declares_of_inBrackets {element : Element} {m : Member} (h : element.inBrackets = true) :
    ¬ Declares element m := by
  intro hdeclares
  cases hdeclares <;> cases h

/-! ## Keys and types -/

section

variable {computed : Bool} {key type : Phrase} {asked : Option Phrase} {name target : String}
  {element : Element} {m : Member} {line : Nat}

lemma nameOfKey?_eq_some_iff :
    nameOfKey? computed key = some name ↔
      key.kind? = some (.string (some name)) ∨
        computed = false ∧ key.kind? = some (.identifier name) := by
  rw [nameOfKey?]
  split
  · next value h => simp [h]
  · next found h => cases computed <;> simp [h]
  · next hstring hname =>
      refine ⟨nofun, ?_⟩
      rintro (h | ⟨-, h⟩)
      · exact absurd h (hstring _)
      · exact absurd h (hname _)

lemma targetOfType_eq_ok_iff :
    targetOfType asked = .ok target ↔ ∃ type, asked = some type ∧ IsTypeOf target type := by
  cases asked with
  | none => simp [targetOfType]
  | some type =>
      rw [targetOfType]
      simp only [IsTypeOf, Option.some.injEq, exists_eq_left']
      split <;> simp_all

/-! ## Elements -/

lemma memberOfElement_property_eq_ok_iff :
    memberOfElement (.property line computed key asked) = .ok m ↔
      nameOfKey? computed key = some m.name ∧ targetOfType asked = .ok m.target := by
  obtain ⟨name, target⟩ := m
  rw [memberOfElement]
  cases hname : nameOfKey? computed key with
  | none => simp
  | some found =>
      cases htarget : targetOfType asked with
      | error form => simp
      | ok asked => simp

/-- **The accepted elements**, and what they declare. -/
lemma memberOfElement_eq_ok_iff :
    memberOfElement element = .ok m ↔ Declares element m ∨ DeclaresInBrackets element m := by
  obtain ⟨name, target⟩ := m
  constructor
  · intro h
    cases element with
    | signature kind line parts => cases h
    | property line computed key asked =>
        obtain ⟨hname, htarget⟩ := memberOfElement_property_eq_ok_iff.mp h
        obtain ⟨type, rfl, htype⟩ := targetOfType_eq_ok_iff.mp htarget
        rcases nameOfKey?_eq_some_iff.mp hname with hkey | ⟨rfl, hkey⟩
        · cases computed with
          | false => exact .inl (.string hkey htype)
          | true => exact .inr (.string hkey htype)
        · exact .inl (.identifier hkey htype)
  · rintro ((⟨hkey, htype⟩ | ⟨hkey, htype⟩) | ⟨hkey, htype⟩)
    · exact memberOfElement_property_eq_ok_iff.mpr
        ⟨nameOfKey?_eq_some_iff.mpr (.inl hkey), targetOfType_eq_ok_iff.mpr ⟨_, rfl, htype⟩⟩
    · exact memberOfElement_property_eq_ok_iff.mpr
        ⟨nameOfKey?_eq_some_iff.mpr (.inr ⟨rfl, hkey⟩), targetOfType_eq_ok_iff.mpr ⟨_, rfl, htype⟩⟩
    · exact memberOfElement_property_eq_ok_iff.mpr
        ⟨nameOfKey?_eq_some_iff.mpr (.inl hkey), targetOfType_eq_ok_iff.mpr ⟨_, rfl, htype⟩⟩

/-- Whatever an element is rejected for, it is at the line of the element. -/
lemma exists_misfit_of_error {error : ExtractionError} (h : memberOfElement element = .error error) :
    ∃ misfit, error = .unexpectedShape element.line misfit := by
  cases element with
  | signature kind line parts =>
      cases h
      exact ⟨_, rfl⟩
  | property line computed key asked =>
      rw [memberOfElement] at h
      split at h
      · cases h
        exact ⟨_, rfl⟩
      · split at h <;> cases h
        exact ⟨_, rfl⟩

/-- **Every other element** is rejected at its own line. -/
lemma unexpectedShape_of_not_accepted (h : ∀ m, ¬ Declares element m ∧ ¬ DeclaresInBrackets element m) :
    ∃ misfit, memberOfElement element = .error (.unexpectedShape element.line misfit) := by
  cases hm : memberOfElement element with
  | error error =>
      obtain ⟨misfit, rfl⟩ := exists_misfit_of_error hm
      exact ⟨misfit, rfl⟩
  | ok m => exact absurd (memberOfElement_eq_ok_iff.mp hm) (not_or.mpr (h m))

/-- In brackets nothing but a string is a key. -/
lemma memberOfElement_of_computed (hkey : ∀ name, key.kind? ≠ some (.string (some name))) :
    memberOfElement (.property line true key asked) = .error (.unexpectedShape line .key) := by
  have hname : nameOfKey? true key = none := by
    refine Option.eq_none_iff_forall_ne_some.mpr fun name h => ?_
    rcases nameOfKey?_eq_some_iff.mp h with h | ⟨h, -⟩
    · exact hkey name h
    · cases h
  rw [memberOfElement, hname]

end

/-! ## The line of an element -/

namespace TypeScript.Grammar

open Reading

section

variable {α β : Type} {step : Reading β} {next : β → Reading (Option α)}

/-- That a step only looks at what follows. -/
def Looks (step : Reading β) : Prop := ∀ ⦃s c value last⦄, step s c = .done value last → last = c

/-- That a step that finds nothing reads nothing. -/
def StaysAtNothing (step : Reading (Option α)) : Prop :=
  ∀ ⦃s c last⦄, step s c = .done none last → last = c

lemma StaysAtNothing.pure {value : Option α} : StaysAtNothing (pure value) := by
  intro s c last h
  cases h
  rfl

lemma StaysAtNothing.of_yields {step : Reading (Option α)}
    (h : Yields step fun found => found.isSome) : StaysAtNothing step := by
  intro s c last hdone
  cases h hdone

lemma StaysAtNothing.bind (hstep : Looks step) (h : ∀ value, StaysAtNothing (next value)) :
    StaysAtNothing (step >>= next) := by
  intro s c last hdone
  obtain ⟨value, between, hfirst, hnext⟩ := bind_eq_done.mp hdone
  rw [h value hnext, hstep hfirst]

lemma looks_cursor : Looks cursor := by
  intro s c value last h
  cases h
  rfl

lemma looks_atMark (mark : Mark) : Looks (atMark mark) := by
  intro s c value last h
  cases h
  rfl

lemma looks_lookAhead (question : Reading Bool) : Looks (lookAhead question) := by
  intro s c value last h
  rw [lookAhead] at h
  split at h <;> cases h <;> rfl

lemma staysAtNothing_modifier? (allowed : List String) : StaysAtNothing (modifier? allowed) := by
  refine .bind looks_cursor fun c => ?_
  split
  · exact .of_yields .failWith
  · exact .of_yields .fail
  · extract_lets isCandidate n canFollow
    split
    · exact .of_yields (.bind fun _ => .pure rfl)
    · exact .pure
  · exact .pure

lemma staysAtNothing_indexParts? (read : Reader) : StaysAtNothing (indexParts? read) := by
  refine .bind (looks_atMark _) fun atBracket => ?_
  split
  · exact .pure
  · refine .bind (looks_lookAhead _) fun starts => ?_
    split
    · exact .pure
    · -- from here on the parts are read to their end
      refine .of_yields (.bind fun _ => .bind fun _ => .bind fun atComma => ?_)
      extract_lets behind
      have hbehind : ∀ done, Yields (behind done) fun found => found.isSome := fun _ =>
        .bind fun _ => .bind fun _ => .bind fun _ => .bind fun _ => .pure rfl
      split
      · exact .bind hbehind
      · exact hbehind ()

end

variable {s : Setting} {c last : Cursor} {element : Element}

lemma done_of_attempt {α : Type} {step : Reading α} {value : α}
    (h : attempt (some <$> step) s c = .done (some value) last) : step s c = .done value last := by
  rw [attempt_apply, map_apply] at h
  cases hstep : step s c with
  | done found behind =>
      rw [hstep] at h
      cases h
      rfl
  | failed fault behind =>
      rw [hstep] at h
      cases h

/-- That an element is on a line. -/
def OnLine (n : Nat) (element : Element) : Prop := element.line = n

lemma onLine_signature (read : Reader) (kind : SignatureKind)
    (hdone : signature read kind s c = .done element last) : OnLine c.line element := by
  rw [signature, bind_of_done (currentLine_apply s c)] at hdone
  have hbehind (n : Nat) : Yields
      (do let types ← typeParameters? read
          expect .openParen
          let values ← signatureParameters read
          let result ← returnType? read
          endElement
          return .signature kind n (values ++ result ++ types)) (OnLine n) :=
    .bind fun _ => .bind fun _ => .bind fun _ => .bind fun _ => .bind fun _ => .pure rfl
  refine (?_ : Yields _ (OnLine c.line)) hdone
  split
  · exact .bind fun _ => hbehind c.line
  · exact hbehind c.line

lemma onLine_accessorSignature (read : Reader)
    (hdone : accessorSignature read s c = .done element last) : OnLine c.line element := by
  rw [accessorSignature, bind_of_done (currentLine_apply s c)] at hdone
  refine Yields.bind (fun gets => ?_) hdone
  split
  · exact .bind fun _ => .bind fun _ => .bind fun _ => .bind fun _ => .bind fun _ => .pure rfl
  · refine .bind fun _ => .bind fun _ => .bind fun _ => .bind fun values => ?_
    extract_lets behind
    have hbehind : ∀ done, Yields (behind done) (OnLine c.line) := fun _ => .bind fun _ => .pure rfl
    split
    · exact .bind hbehind
    · exact hbehind ()

lemma onLine_propertySignature (read : Reader) (n : Nat) (readonly : Bool) :
    Yields (propertySignature read n readonly) (OnLine n) := by
  refine .bind fun _ => .bind fun _ => .bind fun atParen => .bind fun atLess => ?_
  split
  · extract_lets behind
    have hbehind : ∀ done, Yields (behind done) (OnLine n) := fun _ =>
      .bind fun _ => .bind fun _ => .bind fun _ => .bind fun _ => .bind fun _ => .pure rfl
    split
    · exact .bind hbehind
    · exact hbehind ()
  · exact .bind fun _ => .bind fun _ => .pure rfl

/-- **The line of an element** is the one of its first token. -/
lemma line_of_typeElement (read : Reader) (hdone : typeElement read s c = .done element last) :
    element.line = c.line := by
  rw [typeElement, bind_of_done (cursor_apply s c)] at hdone
  split_ifs at hdone
  · exact onLine_signature read .call hdone
  · exact onLine_signature read .construct hdone
  · obtain ⟨modifier, c', hmodifier, hdone⟩ := bind_eq_done.mp hdone
    obtain ⟨parts, c'', hparts, hdone⟩ := bind_eq_done.mp hdone
    cases parts with
    | some parts =>
        cases hdone
        rfl
    | none =>
        obtain ⟨accessor, between, haccessor, hdone⟩ := bind_eq_done.mp hdone
        cases accessor with
        | none => exact onLine_propertySignature read c.line modifier.isSome hdone
        | some accessor =>
            cases hdone
            cases modifier with
            | some name => cases haccessor
            | none =>
                -- nothing has been read in front of the accessor
                rw [staysAtNothing_indexParts? read hparts, staysAtNothing_modifier? _ hmodifier]
                  at haccessor
                exact onLine_accessorSignature read (done_of_attempt haccessor)

end TypeScript.Grammar

/-! ## The statement -/

/-- **The elements that a registry accepts** are the properties whose key is a string or an identifier and
whose type is that of one named variable; the key can be a string in brackets as well, but nothing else in
brackets.  So an element whose key is no such string is accepted if and only if it declares a name.  Every
other element is rejected at its own line, which is the one of its first token.  The elements of an interface
are accepted together, or rejected for the first one that is not. -/
theorem accepted_elements (element : Element) (body : List Element) :
    (∀ m, memberOfElement element = .ok m ↔ Declares element m ∨ DeclaresInBrackets element m) ∧
    ((∀ m, ¬ DeclaresInBrackets element m) →
      (∀ m, memberOfElement element = .ok m ↔ Declares element m) ∧
      ((∀ m, ¬ Declares element m) →
        ∃ misfit, memberOfElement element = .error (.unexpectedShape element.line misfit))) ∧
    (∀ line key asked, element = .property line true key asked →
      (∀ name, key.kind? ≠ some (.string (some name))) →
      memberOfElement element = .error (.unexpectedShape line .key)) ∧
    (∀ read s c last, Grammar.typeElement read s c = .done element last → element.line = c.line) ∧
    (∀ members, body.mapM memberOfElement = .ok members ↔
      List.Forall₂ (fun element m => Declares element m ∨ DeclaresInBrackets element m) body members) ∧
    ∀ error, body.mapM memberOfElement = .error error ↔
      ∃ before first after, body = before ++ first :: after ∧
        (∀ other ∈ before, ∃ m, Declares other m ∨ DeclaresInBrackets other m) ∧
        memberOfElement first = .error error := by
  refine ⟨fun _ => memberOfElement_eq_ok_iff, fun hkey => ⟨fun m => ?_, fun hdeclares => ?_⟩, ?_,
    fun read _ _ _ => Grammar.line_of_typeElement read, fun members => ?_, fun error => ?_⟩
  · rw [memberOfElement_eq_ok_iff, or_iff_left (hkey m)]
  · exact unexpectedShape_of_not_accepted fun m => ⟨hdeclares m, hkey m⟩
  · rintro line key asked rfl hkind
    exact memberOfElement_of_computed hkind
  · simp only [← memberOfElement_eq_ok_iff]
    rw [mapM_eq_ok_iff, ← List.forall₂_eq_eq_eq, List.forall₂_map_left_iff, List.forall₂_map_right_iff]
  · simp only [← memberOfElement_eq_ok_iff]
    exact mapM_eq_error_iff

/-- A registry with a string in brackets. -/
def bracketedString : String :=
  "declare module '@glint/environment-ember-loose/registry' \x7b\n" ++
  "  interface Registry \x7b\n" ++
  "    ['a']: typeof A\n" ++
  "  \x7d\n" ++
  "\x7d\n"

/-- **A string in brackets** is accepted as the key of an element, though a registry is not meant to have
keys in brackets. -/
theorem bracketed_string_is_accepted :
    ∃ items element, parse bracketedString.toList false = .ok items ∧
      (registriesOf items).flatMap Occurrence.body = [element] ∧ (∀ m, ¬ Declares element m) ∧
      membersOfItems items = .ok [⟨"a", "A"⟩] := by
  have hread : (parse bracketedString.toList false).toOption.map (fun items =>
      ((membersOfItems items).toOption,
        ((registriesOf items).flatMap Occurrence.body).map Element.inBrackets)) =
      some (some [⟨"a", "A"⟩], [true]) := by
    decide +kernel
  obtain ⟨items, hitems, hboth⟩ := Option.map_eq_some_iff.mp hread
  obtain ⟨hmembers, hbody⟩ := Prod.mk.inj hboth
  obtain ⟨element, hbody, hbrackets⟩ := List.map_eq_singleton_iff.mp hbody
  exact ⟨items, element, eq_ok_of_toOption hitems, hbody, fun m => not_declares_of_inBrackets hbrackets,
    eq_ok_of_toOption hmembers⟩

end AddonRegistry
