import AddonRegistry.Proofs.Json.Values

/-!
# A text spells one value

What a JSON text says does not depend on how its spelling is taken apart.  A spelling that stands at the
beginning of a text can be cancelled there, with its value, as soon as what follows cannot belong to it:
`Decides` says so for all spellings that are shorter than a bound, and each lemma goes from what stands
inside to what is around it.

* `IsNumber.append_inj`, `Characters.append_inj` — numbers and strings.
* `Separated.append_inj`, `decides_element`, `decides_member` — the insides of lists and objects.
* `Begun` — the first character tells what kind of value is spelled.
* **`SpellsElement.unique`** — there is at most one value; `Says` — the value of a text.
-/

namespace AddonRegistry.Json

variable {text other rest more before behind digits : List Char} {units others : List Nat}
  {value : Value} {c d : Char} {unit n : Nat}

/-! ## Blanks and numbers -/

lemma IsBlank.append_inj (h : IsBlank before) (hbehind : IsBlank behind)
    (hrest : ∀ c ∈ rest.head?, c ∉ blanks) (hmore : ∀ c ∈ more.head?, c ∉ blanks)
    (he : before ++ rest = behind ++ more) : before = behind ∧ rest = more := by
  have hdrop := congrArg (List.dropWhile (· ∈ blanks)) he
  rw [dropWhile_of_append (fun c hc => decide_eq_true (h c hc)) (fun c hc => by simpa using hrest c hc),
    dropWhile_of_append (fun c hc => decide_eq_true (hbehind c hc)) (fun c hc => by simpa using hmore c hc)]
    at hdrop
  rw [hdrop] at he
  exact ⟨List.append_cancel_right he, hdrop⟩

lemma IsUnsigned.append_inj (h : IsUnsigned text) (hother : IsUnsigned other) (hrest : EndsNumber rest)
    (hmore : EndsNumber more) (he : text ++ rest = other ++ more) : text = other := by
  have hcur : (Cursor.mk (text ++ rest) 1 0).rest = text ++ rest := rfl
  obtain ⟨last, hlast, rfl⟩ := stops_skipNumber h hrest hcur
  obtain ⟨last', hlast', rfl⟩ := stops_skipNumber hother hmore (hcur.trans he)
  cases hlast.symm.trans hlast'
  exact List.append_cancel_right he

lemma IsUnsigned.ne_minus (h : IsUnsigned text) : text ++ rest ≠ '-' :: more := by
  obtain ⟨c, text, rfl, hc⟩ := h.exists_digit
  rintro ⟨⟩
  exact absurd hc (by decide)

lemma IsNumber.append_inj (h : IsNumber text) (hother : IsNumber other) (hrest : EndsNumber rest)
    (hmore : EndsNumber more) (he : text ++ rest = other ++ more) : text = other := by
  rcases h with h | ⟨text, rfl, h⟩ <;> rcases hother with hother | ⟨other, rfl, hother⟩
  · exact h.append_inj hother hrest hmore he
  · exact absurd he h.ne_minus
  · exact absurd he.symm hother.ne_minus
  · rw [h.append_inj hother hrest hmore (List.cons.inj he).2]

/-! ## Strings -/

lemma FourDigits.unique {unit' : Nat} (h : FourDigits digits unit) (h' : FourDigits digits unit') :
    unit = unit' := by
  obtain ⟨a, b, d, e, rfl⟩ := h.exists_eq
  exact Option.some.inj ((hexValue?_eq_some_iff.mpr h).symm.trans (hexValue?_eq_some_iff.mpr h'))

lemma FourDigits.append_inj {digits' : List Char} {unit' : Nat} (h : FourDigits digits unit)
    (h' : FourDigits digits' unit') (he : digits ++ rest = digits' ++ more) :
    digits = digits' ∧ unit = unit' := by
  obtain ⟨a, b, d, e, rfl⟩ := h.exists_eq
  obtain ⟨a', b', d', e', rfl⟩ := h'.exists_eq
  obtain ⟨hdigits, -⟩ := List.append_inj he rfl
  rw [← hdigits] at h'
  exact ⟨hdigits, h.unique h'⟩

/-- The first character or escape sequence is told by the text. -/
lemma Character.append_inj (h : Character text units) (hother : Character other others)
    (he : text ++ rest = other ++ more) : text = other ∧ units = others := by
  cases h with
  | plain hcontrol hquote hescape =>
      cases hother with
      | plain =>
          obtain ⟨rfl, -⟩ := List.cons.inj he
          exact ⟨rfl, rfl⟩
      | escape | unit => exact absurd (List.cons.inj he).1 hescape
  | escape hletter =>
      cases hother with
      | plain hcontrol hquote hescape => exact absurd (List.cons.inj he).1.symm hescape
      | escape hletter' =>
          obtain ⟨rfl, -⟩ := List.cons.inj (List.cons.inj he).2
          cases (simpleEscape?_eq_some_iff.mpr hletter).symm.trans (simpleEscape?_eq_some_iff.mpr hletter')
          exact ⟨rfl, rfl⟩
      | unit => exact absurd (List.cons.inj (List.cons.inj he).2).1 (ne_u_of_mem_escapes hletter)
  | unit hdigits =>
      cases hother with
      | plain hcontrol hquote hescape => exact absurd (List.cons.inj he).1.symm hescape
      | escape hletter =>
          exact absurd (List.cons.inj (List.cons.inj he).2).1.symm (ne_u_of_mem_escapes hletter)
      | unit hdigits' =>
          obtain ⟨rfl, rfl⟩ := hdigits.append_inj hdigits' (List.cons.inj (List.cons.inj he).2).2
          exact ⟨rfl, rfl⟩

lemma Character.ne_quote (h : Character text units) : text ++ rest ≠ '"' :: more := by
  rcases h.plain_or_escape with ⟨c, -, hquote, -, rfl⟩ | ⟨escape, rfl⟩
  · rintro ⟨⟩
    exact hquote rfl
  · rintro ⟨⟩

/-- The inside of a string goes as far as the first quote that is not escaped. -/
lemma Characters.append_inj (h : Characters text units) : ∀ {other : List Char} {others : List Nat},
    Characters other others → text ++ '"' :: rest = other ++ '"' :: more →
      text = other ∧ units = others := by
  induction h with
  | nil =>
      intro other others hother he
      cases hother with
      | nil => exact ⟨rfl, rfl⟩
      | cons hfirst hothers =>
          rw [List.append_assoc] at he
          exact absurd he.symm hfirst.ne_quote
  | cons hfirst hrest ih =>
      intro other others hother he
      rw [List.append_assoc] at he
      cases hother with
      | nil => exact absurd he hfirst.ne_quote
      | cons hfirst' hothers =>
          rw [List.append_assoc] at he
          obtain ⟨rfl, rfl⟩ := hfirst.append_inj hfirst' he
          obtain ⟨rfl, rfl⟩ := ih hothers (List.append_cancel_left he)
          exact ⟨rfl, rfl⟩

/-! ## Parts -/

/-- That spellings are told by their text, if they are shorter than a bound: one that stands at the beginning
of a text, in front of an end, is the only one there. -/
def Decides {α : Type} (n : Nat) (IsPart : List Char → α → Prop) (IsEnd : List Char → Prop) : Prop :=
  ∀ ⦃text other rest more : List Char⦄ ⦃x y : α⦄, text.length < n → IsPart text x → IsPart other y →
    IsEnd rest → IsEnd more → text ++ rest = other ++ more → text = other ∧ x = y

section

variable {α : Type} {IsPart : List Char → α → Prop} {xs ys : List α} {close : Char}

lemma Separated.append_inj (hpart : Decides n IsPart EndsValue) (hclose : close ∈ [']', '\x7d'])
    (h : Separated IsPart text xs) : ∀ {other : List Char} {ys : List α}, text.length < n →
      Separated IsPart other ys → text ++ close :: rest = other ++ close :: more →
        text = other ∧ xs = ys := by
  have hcomma : close ≠ ',' := by
    rintro rfl
    exact absurd hclose (by decide)
  have hend (rest : List Char) : EndsValue (close :: rest) :=
    endsValue_cons.mpr (List.mem_cons_of_mem _ hclose)
  have hnext (rest : List Char) : EndsValue (',' :: rest) := endsValue_cons.mpr List.mem_cons_self
  induction h with
  | one h =>
      intro other ys hn hother he
      cases hother with
      | one h' =>
          obtain ⟨rfl, rfl⟩ := hpart hn h h' (hend _) (hend _) he
          exact ⟨rfl, rfl⟩
      | more h' hothers =>
          -- the same part would be followed by the end and by a comma
          rw [List.append_assoc] at he
          obtain ⟨rfl, -⟩ := hpart hn h h' (hend _) (hnext _) he
          exact absurd (List.cons.inj (List.append_cancel_left he)).1 hcomma
  | more h hrest ih =>
      intro other ys hn hother he
      rw [List.append_assoc] at he
      rw [List.length_append, List.length_cons] at hn
      cases hother with
      | one h' =>
          obtain ⟨rfl, -⟩ := hpart (by omega) h h' (hnext _) (hend _) he
          exact absurd (List.cons.inj (List.append_cancel_left he)).1.symm hcomma
      | more h' hothers =>
          rw [List.append_assoc] at he
          obtain ⟨rfl, rfl⟩ := hpart (by omega) h h' (hnext _) (hnext _) he
          obtain ⟨rfl, rfl⟩ := ih (by omega) hothers (List.cons.inj (List.append_cancel_left he)).2
          exact ⟨rfl, rfl⟩

end

lemma Spells.not_mem_blanks (h : Spells text value) : ∀ c ∈ (text ++ rest).head?, c ∉ blanks := by
  obtain ⟨c, text, rfl, hc, -⟩ := h.exists_first
  rintro d ⟨⟩
  exact hc

lemma EndsValue.not_mem_blanks (h : EndsValue rest) : ∀ c ∈ rest.head?, c ∉ blanks := by
  have hall : ∀ c ∈ [',', ']', '\x7d'], c ∉ blanks := forall_mem_of_all (by decide)
  exact fun c hc => hall c (h c hc)

lemma not_mem_blanks_of_cons (hc : c ∉ blanks) : ∀ d ∈ (c :: rest).head?, d ∉ blanks := by
  rintro d ⟨⟩
  exact hc

/-- Blanks around a value are told by the text, too. -/
lemma decides_element (h : Decides n Spells EndsNumber) : Decides n SpellsElement EndsValue := by
  intro text other rest more value value' hn helement helement' hrest hmore he
  obtain ⟨before, inside, behind, hbefore, hvalue, hbehind, rfl⟩ := helement.exists_parts
  obtain ⟨before', inside', behind', hbefore', hvalue', hbehind', rfl⟩ := helement'.exists_parts
  simp only [List.length_append] at hn
  simp only [List.append_assoc] at he
  obtain ⟨rfl, hvalues⟩ := hbefore.append_inj hbefore' hvalue.not_mem_blanks hvalue'.not_mem_blanks he
  obtain ⟨rfl, rfl⟩ :=
    h (by omega) hvalue hvalue' (hrest.endsNumber hbehind) (hmore.endsNumber hbehind') hvalues
  obtain ⟨rfl, -⟩ := hbehind.append_inj hbehind' hrest.not_mem_blanks hmore.not_mem_blanks
    (List.append_cancel_left hvalues)
  exact ⟨rfl, rfl⟩

lemma decides_member (h : Decides n SpellsElement EndsValue) : Decides n SpellsMember EndsValue := by
  rintro _ _ rest more _ _ hn ⟨hbefore, hkey, hspace, hvalue⟩ ⟨hbefore', hkey', hspace', hvalue'⟩ hrest
    hmore he
  have hquote : '"' ∉ blanks := by decide
  have hcolon : ':' ∉ blanks := by decide
  simp only [List.length_append, List.length_cons] at hn
  simp only [List.append_assoc, List.cons_append] at he
  obtain ⟨rfl, hkeys⟩ :=
    hbefore.append_inj hbefore' (not_mem_blanks_of_cons hquote) (not_mem_blanks_of_cons hquote) he
  obtain ⟨rfl, rfl⟩ := hkey.append_inj hkey' (List.cons.inj hkeys).2
  obtain ⟨-, hspaces⟩ := List.cons.inj (List.append_cancel_left (List.cons.inj hkeys).2)
  obtain ⟨rfl, hvalues⟩ :=
    hspace.append_inj hspace' (not_mem_blanks_of_cons hcolon) (not_mem_blanks_of_cons hcolon) hspaces
  obtain ⟨rfl, rfl⟩ := h (by omega) hvalue hvalue' hrest hmore (List.cons.inj hvalues).2
  exact ⟨rfl, rfl⟩

/-! ## Values -/

section

variable {α : Type} {IsPart : List Char → α → Prop} {xs ys : List α} {close : Char}

/-- That a text is the inside of a list or an object, in which there may be nothing. -/
def Listed (IsPart : List Char → α → Prop) (text : List Char) (xs : List α) : Prop :=
  IsBlank text ∧ xs = [] ∨ Separated IsPart text xs

lemma Separated.append_ne {IsFirst : Char → Prop} (h : Separated IsPart text xs)
    (hpart : ∀ text x, IsPart text x → ∃ before c rest, IsBlank before ∧ text = before ++ c :: rest ∧
      IsFirst c ∧ IsPart (c :: rest) x) (hfirst : ∀ c, IsFirst c → c ∉ blanks ∧ c ≠ close)
    (hclose : close ∉ blanks) (hbehind : IsBlank behind) :
    text ++ rest ≠ behind ++ close :: more := by
  obtain ⟨before, c, text, hbefore, rfl, hc, -⟩ := h.exists_first hpart
  rw [List.append_assoc, List.cons_append]
  intro he
  obtain ⟨-, he⟩ := hbefore.append_inj hbehind (not_mem_blanks_of_cons (hfirst c hc).1)
    (not_mem_blanks_of_cons hclose) he
  exact (hfirst c hc).2 (List.cons.inj he).1

lemma Listed.append_inj {IsFirst : Char → Prop} (close : Char) (hdecides : Decides n IsPart EndsValue)
    (hpart : ∀ text x, IsPart text x → ∃ before c rest, IsBlank before ∧ text = before ++ c :: rest ∧
      IsFirst c ∧ IsPart (c :: rest) x) (hclose : close ∈ [']', '\x7d'])
    (hfirst : ∀ c, IsFirst c → c ∉ blanks ∧ c ≠ close) (hn : text.length < n)
    (h : Listed IsPart text xs) (hother : Listed IsPart other ys)
    (he : text ++ close :: rest = other ++ close :: more) : text = other ∧ xs = ys := by
  have hblank : close ∉ blanks := by
    have hall : ∀ c ∈ [']', '\x7d'], c ∉ blanks := forall_mem_of_all (by decide)
    exact hall close hclose
  rcases h with ⟨h, rfl⟩ | h <;> rcases hother with ⟨hother, rfl⟩ | hother
  · obtain ⟨rfl, -⟩ :=
      h.append_inj hother (not_mem_blanks_of_cons hblank) (not_mem_blanks_of_cons hblank) he
    exact ⟨rfl, rfl⟩
  · exact absurd he.symm (hother.append_ne hpart hfirst hblank h)
  · exact absurd he (h.append_ne hpart hfirst hblank hother)
  · exact h.append_inj hdecides hclose hn hother he

end

/-- What the spelling of a value is, by its first character. -/
def Begun (c : Char) (rest : List Char) (value : Value) : Prop :=
  match c with
  | 'n' => rest = "ull".toList ∧ value = .null
  | 't' => rest = "rue".toList ∧ value = .boolean true
  | 'f' => rest = "alse".toList ∧ value = .boolean false
  | '"' => ∃ inside units, rest = inside ++ ['"'] ∧ Characters inside units ∧ value = .string units
  | '[' => ∃ inside elements, rest = inside ++ [']'] ∧ Listed SpellsElement inside elements ∧
      value = .list elements
  | '\x7b' => ∃ inside members, rest = inside ++ ['\x7d'] ∧ Listed SpellsMember inside members ∧
      value = .object members
  | c => IsNumber (c :: rest) ∧ value = .number (c :: rest)

lemma begun_of_isNumber (h : IsNumber (c :: rest)) : Begun c rest (.number (c :: rest)) := by
  have hc : c ∉ ['n', 't', 'f', '"', '[', '\x7b'] := by
    have hall : ∀ c ∈ ['n', 't', 'f', '"', '[', '\x7b'], ¬ c.isDigit ∧ c ≠ '-' :=
      forall_mem_of_all (by decide)
    intro hmem
    rcases h with h | ⟨rest, he, -⟩
    · obtain ⟨d, rest, he, hd⟩ := h.exists_digit
      exact (hall c hmem).1 ((List.cons.inj he).1 ▸ hd)
    · exact (hall c hmem).2 (List.cons.inj he).1
  unfold Begun
  split
  case h_7 => exact ⟨h, rfl⟩
  all_goals exact absurd hc (by decide)

lemma Spells.begun (h : Spells (c :: rest) value) : Begun c rest value := by
  generalize he : c :: rest = text at h
  cases h with
  | number h =>
      subst he
      exact begun_of_isNumber h
  | null | true | false =>
      cases he
      exact ⟨rfl, rfl⟩
  | string h =>
      cases he
      exact ⟨_, _, rfl, h, rfl⟩
  | emptyList h | emptyObject h =>
      cases he
      exact ⟨_, _, rfl, .inl ⟨h, rfl⟩, rfl⟩
  | list h | object h =>
      cases he
      exact ⟨_, _, rfl, .inr h, rfl⟩

lemma decides_spells (h : Decides n Spells EndsNumber) : Decides (n + 1) Spells EndsNumber := by
  intro text other rest more value value' hn hvalue hvalue' hrest hmore he
  obtain ⟨c, text, rfl, -⟩ := hvalue.exists_first
  obtain ⟨d, other, rfl, -⟩ := hvalue'.exists_first
  obtain ⟨rfl, hbehind⟩ := List.cons.inj he
  have hbegun := hvalue.begun
  have hbegun' := hvalue'.begun
  unfold Begun at hbegun hbegun'
  split at hbegun
  case h_1 | h_2 | h_3 =>
    obtain ⟨⟨rfl, rfl⟩, rfl, rfl⟩ := And.intro hbegun hbegun'
    exact ⟨rfl, rfl⟩
  · obtain ⟨inside, units, rfl, hinside, rfl⟩ := hbegun
    obtain ⟨inside', units', rfl, hinside', rfl⟩ := hbegun'
    obtain ⟨rfl, rfl⟩ := hinside.append_inj hinside' (by simpa using hbehind)
    exact ⟨rfl, rfl⟩
  · obtain ⟨inside, elements, rfl, hinside, rfl⟩ := hbegun
    obtain ⟨inside', elements', rfl, hinside', rfl⟩ := hbegun'
    simp only [List.length_cons, List.length_append] at hn
    obtain ⟨rfl, rfl⟩ := Listed.append_inj ']' (decides_element h)
      (fun _ _ => SpellsElement.exists_first) (by decide) (fun _ => id) (by omega) hinside hinside'
      (by simpa using hbehind)
    exact ⟨rfl, rfl⟩
  · obtain ⟨inside, members, rfl, hinside, rfl⟩ := hbegun
    obtain ⟨inside', members', rfl, hinside', rfl⟩ := hbegun'
    simp only [List.length_cons, List.length_append] at hn
    obtain ⟨rfl, rfl⟩ := Listed.append_inj '\x7d' (decides_member (decides_element h))
      (fun _ _ => SpellsMember.exists_first) (by decide) (by rintro c rfl; decide) (by omega) hinside
      hinside' (by simpa using hbehind)
    exact ⟨rfl, rfl⟩
  · split at hbegun'
    case h_7 =>
      obtain ⟨⟨hnumber, rfl⟩, hnumber', rfl⟩ := And.intro hbegun hbegun'
      have htext := hnumber.append_inj hnumber' hrest hmore he
      exact ⟨htext, congrArg Value.number htext⟩
    all_goals contradiction

lemma decides_all : ∀ n, Decides n Spells EndsNumber
  | 0 => fun _ _ _ _ _ _ hn => absurd hn (Nat.not_lt_zero _)
  | n + 1 => decides_spells (decides_all n)

/-- That a text is JSON, and what it says: all its spellings are of this value. -/
def Says (text : String) (value : Value) : Prop :=
  SpellsElement text.toList value ∧ ∀ other, SpellsElement text.toList other → other = value

/-- **A JSON text** spells one value. -/
lemma SpellsElement.unique {value' : Value} (h : SpellsElement text value)
    (h' : SpellsElement text value') : value = value' := by
  have hend : EndsValue [] := nofun
  exact (decides_element (decides_all (text.length + 1)) (Nat.lt_succ_self _) h h' hend hend rfl).2

lemma says_iff {text : String} : Says text value ↔ SpellsElement text.toList value :=
  ⟨And.left, fun h => ⟨h, fun _ hother => hother.unique h⟩⟩

end AddonRegistry.Json
