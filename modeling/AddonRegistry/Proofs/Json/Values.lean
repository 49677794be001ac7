import AddonRegistry.Proofs.Json.Strings

/-!
# Values that are skipped

A value that nobody reads is skipped exactly if it is one.  The readers call each other, so what they find
is told by one induction on the fuel, and so is that they find the end of what is spelled: a text has at
least as many characters as steps are needed to skip it.

* `Separated.exists_cut` — the parts of a list or an object are read one after the other.
* **`exists_value_of_stops`** — what is skipped is the spelling of a value.
* **`stops_skipValue`** — the spelling of a value is skipped, if a number in it cannot go on.
-/

namespace AddonRegistry.Json

variable {cur : Cursor} {text rest before behind : List Char} {value : Value} {c : Char}

/-! ## Blanks in front -/

lemma isBlank_nil : IsBlank [] := nofun

lemma IsBlank.append (h : IsBlank before) (hbehind : IsBlank behind) : IsBlank (before ++ behind) :=
  fun c hc => (List.mem_append.mp hc).elim (h c) (hbehind c)

lemma SpellsElement.exists_parts (h : SpellsElement text value) :
    ∃ before inside behind, IsBlank before ∧ Spells inside value ∧ IsBlank behind ∧
      text = before ++ (inside ++ behind) := by
  obtain ⟨hbefore, hvalue, hbehind⟩ := h
  exact ⟨_, _, _, hbefore, hvalue, hbehind, rfl⟩

lemma SpellsElement.padded_left (hbefore : IsBlank before) (h : SpellsElement text value) :
    SpellsElement (before ++ text) value := by
  obtain ⟨hinside, hvalue, hbehind⟩ := h
  rw [← List.append_assoc]
  exact .padded (hbefore.append hinside) hvalue hbehind

lemma SpellsMember.exists_parts {member : List Nat × Value} (h : SpellsMember text member) :
    ∃ before key space blank inside behind, IsBlank before ∧ Characters key member.1 ∧ IsBlank space ∧
      IsBlank blank ∧ Spells inside member.2 ∧ IsBlank behind ∧
      text = before ++ '"' :: (key ++ '"' :: (space ++ ':' :: (blank ++ (inside ++ behind)))) := by
  obtain ⟨hbefore, hkey, hspace, helement⟩ := h
  obtain ⟨blank, inside, behind, hblank, hvalue, hbehind, rfl⟩ := helement.exists_parts
  exact ⟨_, _, _, _, _, _, hbefore, hkey, hspace, hblank, hvalue, hbehind, rfl⟩

lemma SpellsMember.padded_left {member : List Nat × Value} (hbefore : IsBlank before)
    (h : SpellsMember text member) : SpellsMember (before ++ text) member := by
  obtain ⟨hinside, hkey, hbehind, hvalue⟩ := h
  rw [← List.append_assoc]
  exact .pair (hbefore.append hinside) hkey hbehind hvalue

section

variable {α : Type} {IsPart : List Char → α → Prop} {xs : List α}

lemma Separated.padded_left (h : Separated IsPart text xs)
    (hpart : ∀ text x, IsPart text x → IsPart (before ++ text) x) : Separated IsPart (before ++ text) xs := by
  cases h with
  | one h => exact .one (hpart _ _ h)
  | more h hrest =>
      rw [← List.append_assoc]
      exact .more (hpart _ _ h) hrest

/-- Blanks in front of the first part do not matter. -/
lemma Separated.exists_first {IsFirst : Char → Prop} (h : Separated IsPart text xs)
    (hpart : ∀ text x, IsPart text x → ∃ before c rest, IsBlank before ∧ text = before ++ c :: rest ∧
      IsFirst c ∧ IsPart (c :: rest) x) : ∃ before c rest, IsBlank before ∧ text = before ++ c :: rest ∧
      IsFirst c ∧ Separated IsPart (c :: rest) xs := by
  cases h with
  | one h =>
      obtain ⟨before, c, rest, hbefore, rfl, hc, h⟩ := hpart _ _ h
      exact ⟨before, c, rest, hbefore, rfl, hc, .one h⟩
  | more h hrest =>
      obtain ⟨before, c, rest, hbefore, rfl, hc, h⟩ := hpart _ _ h
      exact ⟨before, c, _, hbefore, List.append_assoc _ _ _, hc, .more h hrest⟩

/-- **The first of several parts** ends with a comma in front of the others, or where all of them end. -/
lemma Separated.exists_cut (h : Separated IsPart text xs) (close : Char) (rest : List Char) :
    ∃ part x c tail, IsPart part x ∧ text ++ close :: rest = part ++ c :: tail ∧
      part.length ≤ text.length ∧
      (c = close ∧ tail = rest ∧ xs = [x] ∨
        c = ',' ∧ ∃ more others, tail = more ++ close :: rest ∧ xs = x :: others ∧
          Separated IsPart more others ∧ more.length < text.length) := by
  cases h with
  | @one _ x h => exact ⟨text, x, close, rest, h, rfl, le_rfl, .inl ⟨rfl, rfl, rfl⟩⟩
  | @more part more x others h hrest =>
      refine ⟨part, x, ',', more ++ close :: rest, h, by simp, by simp,
        .inr ⟨rfl, more, others, rfl, rfl, hrest, ?_⟩⟩
      rw [List.length_append, List.length_cons]
      omega

end

/-! ## What is skipped is a value -/

mutual

lemma exists_value_of_stops {rest : List Char} : ∀ {fuel : Nat} {cur : Cursor},
    Stops (skipValue fuel cur) rest → ∃ before text value, IsBlank before ∧ Spells text value ∧
      cur.rest = before ++ (text ++ rest)
  | 0, cur, h => by
      rw [skipValue] at h
      exact absurd h not_stops_fault
  | fuel + 1, cur, h => by
      obtain ⟨before, hbefore, hcur⟩ := exists_blanks cur
      rw [skipValue] at h
      rw [hcur]
      refine ⟨before, ?_⟩
      dsimp only at h
      split at h
      · exact absurd h not_stops_fault
      · next hnext =>
          rw [stops_readWord, rest_next hnext] at h
          exact ⟨_, _, hbefore, .null, by rw [hnext, h]; rfl⟩
      · next hnext =>
          rw [stops_readWord, rest_next hnext] at h
          exact ⟨_, _, hbefore, .true, by rw [hnext, h]; rfl⟩
      · next hnext =>
          rw [stops_readWord, rest_next hnext] at h
          exact ⟨_, _, hbefore, .false, by rw [hnext, h]; rfl⟩
      · next hnext =>
          obtain ⟨text, htext, hrest⟩ := exists_unsigned_of_stops h
          exact ⟨_, _, hbefore, .number (.inr ⟨text, rfl, htext⟩), by
            rw [hnext, ← rest_next hnext, hrest, List.cons_append]⟩
      · next hnext =>
          obtain ⟨text, units, htext, hrest⟩ := stops_skipString.mp h
          exact ⟨_, _, hbefore, .string htext, by rw [hnext, ← rest_next hnext, hrest]; simp⟩
      · next hnext =>
          obtain ⟨inside, hinside, hbehind⟩ := exists_blanks cur.skipBlanks.next
          rw [rest_next hnext] at hbehind
          split at h
          · exact absurd h not_stops_fault
          · next hclose =>
              refine ⟨_, _, hbefore, .emptyList hinside, ?_⟩
              rw [hnext, hbehind, hclose, ← stops_ok.mp h, rest_next hclose]
              simp
          · obtain ⟨text, values, htext, hrest⟩ := exists_elements_of_stops h
            refine ⟨_, _, hbefore, .list (htext.padded_left fun _ _ => .padded_left hinside), ?_⟩
            rw [hnext, hbehind, hrest]
            simp
      · next hnext =>
          obtain ⟨inside, hinside, hbehind⟩ := exists_blanks cur.skipBlanks.next
          rw [rest_next hnext] at hbehind
          split at h
          · exact absurd h not_stops_fault
          · next hclose =>
              refine ⟨_, _, hbefore, .emptyObject hinside, ?_⟩
              rw [hnext, hbehind, hclose, ← stops_ok.mp h, rest_next hclose]
              simp
          · obtain ⟨text, members, htext, hrest⟩ := exists_members_of_stops h
            refine ⟨_, _, hbefore, .object (htext.padded_left fun _ _ => .padded_left hinside), ?_⟩
            rw [hnext, hbehind, hrest]
            simp
      · split_ifs at h with hdigit
        · obtain ⟨text, htext, hrest⟩ := exists_unsigned_of_stops h
          exact ⟨_, _, hbefore, .number (.inl htext), by rw [hrest]⟩
        · exact absurd h not_stops_faultAhead

lemma exists_elements_of_stops {rest : List Char} : ∀ {fuel : Nat} {cur : Cursor},
    Stops (skipElements fuel cur) rest → ∃ text values, Separated SpellsElement text values ∧
      cur.rest = text ++ ']' :: rest
  | 0, cur, h => by
      rw [skipElements] at h
      exact absurd h not_stops_fault
  | fuel + 1, cur, h => by
      rw [skipElements] at h
      obtain ⟨last, hlast, h⟩ := stops_bind.mp h
      obtain ⟨before, text, value, hbefore, htext, hcur⟩ := exists_value_of_stops ⟨last, hlast, rfl⟩
      obtain ⟨behind, hbehind, hrest⟩ := exists_blanks last
      dsimp only at h
      split at h
      · exact absurd h not_stops_fault
      · next more hcomma =>
          obtain ⟨elements, values, helements, hmore⟩ := exists_elements_of_stops h
          refine ⟨_, _, .more (.padded hbefore htext hbehind) helements, ?_⟩
          rw [hcur, hrest, hcomma, ← rest_next hcomma, hmore]
          simp
      · next more hclose =>
          refine ⟨_, _, .one (.padded hbefore htext hbehind), ?_⟩
          rw [hcur, hrest, hclose, ← stops_ok.mp h, rest_next hclose]
          simp
      · exact absurd h not_stops_faultAhead

lemma exists_members_of_stops {rest : List Char} : ∀ {fuel : Nat} {cur : Cursor},
    Stops (skipMembers fuel cur) rest → ∃ text members, Separated SpellsMember text members ∧
      cur.rest = text ++ '\x7d' :: rest
  | 0, cur, h => by
      rw [skipMembers] at h
      exact absurd h not_stops_fault
  | fuel + 1, cur, h => by
      rw [skipMembers] at h
      obtain ⟨before, hbefore, hcur⟩ := exists_blanks cur
      dsimp only at h
      split at h
      · exact absurd h not_stops_fault
      · next hquote =>
          obtain ⟨mid, hmid, h⟩ := stops_bind.mp h
          obtain ⟨key, units, hkey, hmember⟩ := stops_skipString.mp ⟨mid, hmid, rfl⟩
          obtain ⟨inside, hinside, hcolon⟩ := exists_blanks mid
          rw [rest_next hquote] at hmember
          split at h
          · exact absurd h not_stops_fault
          · next hvalue =>
              obtain ⟨last, hlast, h⟩ := stops_bind.mp h
              obtain ⟨blank, text, value, hblank, htext, hmore⟩ :=
                exists_value_of_stops ⟨last, hlast, rfl⟩
              obtain ⟨behind, hbehind, hrest⟩ := exists_blanks last
              have hpair := SpellsMember.pair hbefore hkey hinside (.padded hblank htext hbehind)
              rw [rest_next hvalue] at hmore
              split at h
              · exact absurd h not_stops_fault
              · next hcomma =>
                  obtain ⟨members, values, hmembers, hall⟩ := exists_members_of_stops h
                  refine ⟨_, _, .more hpair hmembers, ?_⟩
                  rw [hcur, hquote, hmember, hcolon, hvalue, hmore, hrest, hcomma, ← rest_next hcomma, hall]
                  simp
              · next hclose =>
                  refine ⟨_, _, .one hpair, ?_⟩
                  rw [hcur, hquote, hmember, hcolon, hvalue, hmore, hrest, hclose, ← stops_ok.mp h,
                    rest_next hclose]
                  simp
              · exact absurd h not_stops_faultAhead
          · exact absurd h not_stops_faultAhead
      · exact absurd h not_stops_faultAhead

end

/-! ## A value is skipped -/

/-- Whether a value and the blanks behind it end in front of a text. -/
def EndsValue (rest : List Char) : Prop := ∀ c ∈ rest.head?, c ∈ [',', ']', '\x7d']

lemma endsValue_cons : EndsValue (c :: rest) ↔ c ∈ [',', ']', '\x7d'] :=
  ⟨fun h => h c rfl, by rintro h d ⟨⟩; exact h⟩

/-- A number ends in front of what follows a value. -/
lemma EndsValue.endsNumber (h : EndsValue rest) (hbehind : IsBlank behind) : EndsNumber (behind ++ rest) := by
  have hall : ∀ d ∈ blanks ++ [',', ']', '\x7d'], ¬ d.isDigit ∧ d ≠ '.' ∧ d ≠ 'e' ∧ d ≠ 'E' :=
    forall_mem_of_all (by decide)
  cases behind with
  | nil => exact fun d hd => hall d (List.mem_append_right _ (h d hd))
  | cons d behind =>
      rintro e ⟨⟩
      exact hall _ (List.mem_append_left _ (hbehind _ List.mem_cons_self))

lemma IsUnsigned.exists_digit (h : IsUnsigned text) : ∃ c rest, text = c :: rest ∧ c.isDigit := by
  obtain ⟨whole, fraction, exponent, rfl, ⟨⟨hne, hdigits⟩, -⟩, -, -⟩ := h
  cases whole with
  | nil => exact absurd rfl hne
  | cons c whole => exact ⟨c, _, rfl, hdigits c List.mem_cons_self⟩

/-- The first character of a value is no blank and closes nothing. -/
lemma Spells.exists_first (h : Spells text value) :
    ∃ c rest, text = c :: rest ∧ c ∉ blanks ∧ c ≠ ']' := by
  have hdigit {c : Char} (hc : c.isDigit) : c ∉ blanks ∧ c ≠ ']' := by
    have hall : ∀ d ∈ ']' :: blanks, ¬ d.isDigit := forall_mem_of_all (by decide)
    refine ⟨fun hmem => hall c (List.mem_cons_of_mem _ hmem) hc, ?_⟩
    rintro rfl
    exact absurd hc (by decide)
  cases h with
  | number h =>
      rcases h with h | ⟨rest, rfl, -⟩
      · obtain ⟨c, rest, rfl, hc⟩ := h.exists_digit
        exact ⟨c, rest, rfl, hdigit hc⟩
      · exact ⟨_, _, rfl, by decide, by decide⟩
  | _ => exact ⟨_, _, rfl, by decide, by decide⟩

lemma SpellsElement.exists_first (h : SpellsElement text value) :
    ∃ before c rest, IsBlank before ∧ text = before ++ c :: rest ∧ (c ∉ blanks ∧ c ≠ ']') ∧
      SpellsElement (c :: rest) value := by
  obtain ⟨hbefore, hvalue, hbehind⟩ := h
  obtain ⟨c, rest, rfl, hc⟩ := hvalue.exists_first
  exact ⟨_, c, _, hbefore, rfl, hc, .padded isBlank_nil hvalue hbehind⟩

lemma SpellsMember.exists_first {member : List Nat × Value} (h : SpellsMember text member) :
    ∃ before c rest, IsBlank before ∧ text = before ++ c :: rest ∧ c = '"' ∧
      SpellsMember (c :: rest) member := by
  obtain ⟨hbefore, hkey, hbehind, hvalue⟩ := h
  exact ⟨_, _, _, hbefore, rfl, rfl, .pair isBlank_nil hkey hbehind hvalue⟩

lemma skipValue_of_isDigit {fuel : Nat} (h : cur.skipBlanks.rest = c :: rest) (hc : c.isDigit) :
    skipValue (fuel + 1) cur = skipNumber cur.skipBlanks := by
  rw [skipValue]
  simp only [h]
  -- no other kind of value starts with a digit
  split
  case h_9 he =>
    cases he
    exact if_pos hc
  all_goals
    next he =>
    cases he <;> exact absurd hc (by decide)

mutual

lemma stops_skipValue {rest before : List Char} : ∀ {fuel : Nat} {cur : Cursor} {text : List Char}
    {value : Value}, Spells text value → IsBlank before → EndsNumber rest → text.length ≤ fuel →
      cur.rest = before ++ (text ++ rest) → Stops (skipValue fuel cur) rest
  -- no value is spelled by nothing, so that there is fuel left
  | 0, cur, text, value, htext, hbefore, hrest, hfuel, h => by
      obtain ⟨c, rest, rfl, -, -⟩ := htext.exists_first
      cases hfuel
  | fuel + 1, cur, text, value, htext, hbefore, hrest, hfuel, h => by
      obtain ⟨c, inside, hc, hblank, -⟩ := htext.exists_first
      have hnext : cur.skipBlanks.rest = text ++ rest := by
        rw [hc] at h ⊢
        exact rest_skipBlanks hbefore hblank h
      cases htext with
      | null | true | false =>
          rw [skipValue]
          simp only [hnext]
          exact stops_readWord.mpr (rest_next hnext)
      | number hnumber =>
          rcases hnumber with hnumber | ⟨digits, rfl, hnumber⟩
          · obtain ⟨d, more, rfl, hd⟩ := hnumber.exists_digit
            rw [skipValue_of_isDigit hnext hd]
            exact stops_skipNumber hnumber hrest hnext
          · rw [List.cons_append] at hnext
            rw [skipValue]
            simp only [hnext]
            exact stops_skipNumber hnumber hrest (rest_next hnext)
      | string hstring =>
          rw [List.cons_append, List.append_assoc] at hnext
          rw [skipValue]
          simp only [hnext]
          exact stops_skipString.mpr ⟨_, _, hstring, rest_next hnext⟩
      | emptyList hinside | emptyObject hinside =>
          rw [List.cons_append, List.append_assoc] at hnext
          have hclose := rest_skipBlanks hinside (by decide) (rest_next hnext)
          rw [skipValue]
          simp only [hnext, hclose]
          exact stops_ok.mpr (rest_next hclose)
      | list helements =>
          obtain ⟨blank, d, more, hspace, rfl, ⟨hd, hclose⟩, hmore⟩ :=
            helements.exists_first fun _ _ => SpellsElement.exists_first
          rw [List.cons_append, List.append_assoc, List.append_assoc] at hnext
          have hfirst := rest_skipBlanks hspace hd (rest_next hnext)
          simp only [List.length_cons, List.length_append, List.length_nil] at hfuel
          rw [skipValue]
          simp only [hnext, hfirst]
          split
          · next he => cases he
          · next he =>
              cases he
              exact absurd rfl hclose
          · refine stops_skipElements hmore ?_ (hfirst.trans (by simp))
            rw [List.length_cons]
            omega
      | object hmembers =>
          obtain ⟨blank, d, more, hspace, rfl, rfl, hmore⟩ :=
            hmembers.exists_first fun _ _ => SpellsMember.exists_first
          rw [List.cons_append, List.append_assoc, List.append_assoc] at hnext
          have hfirst := rest_skipBlanks hspace (by decide) (rest_next hnext)
          simp only [List.length_cons, List.length_append, List.length_nil] at hfuel
          rw [skipValue]
          simp only [hnext, hfirst]
          refine stops_skipMembers hmore ?_ (hfirst.trans (by simp))
          rw [List.length_cons]
          omega

lemma stops_skipElements {rest : List Char} : ∀ {fuel : Nat} {cur : Cursor} {text : List Char}
    {values : List Value}, Separated SpellsElement text values → text.length < fuel →
      cur.rest = text ++ ']' :: rest → Stops (skipElements fuel cur) rest
  | fuel + 1, cur, text, values, htext, hfuel, h => by
      obtain ⟨part, value, c, tail, hpart, hcut, hlength, hmore⟩ := htext.exists_cut ']' rest
      obtain ⟨before, inside, behind, hbefore, hvalue, hbehind, rfl⟩ := hpart.exists_parts
      have hc : c ∈ [',', ']', '\x7d'] ∧ c ∉ blanks := by
        rcases hmore with ⟨rfl, -⟩ | ⟨rfl, -⟩ <;> decide
      rw [hcut, List.append_assoc, List.append_assoc] at h
      simp only [List.length_append] at hlength
      obtain ⟨last, hlast, hrest⟩ : Stops (skipValue fuel cur) (behind ++ c :: tail) :=
        stops_skipValue hvalue hbefore ((endsValue_cons.mpr hc.1).endsNumber hbehind) (by omega) h
      have hnext := rest_skipBlanks hbehind hc.2 hrest
      rw [skipElements]
      refine stops_bind.mpr ⟨last, hlast, ?_⟩
      rcases hmore with ⟨rfl, rfl, -⟩ | ⟨rfl, more, others, rfl, -, hothers, hshort⟩
      · simp only [hnext]
        exact stops_ok.mpr (rest_next hnext)
      · simp only [hnext]
        exact stops_skipElements hothers (by omega) (rest_next hnext)

lemma stops_skipMembers {rest : List Char} : ∀ {fuel : Nat} {cur : Cursor} {text : List Char}
    {members : List (List Nat × Value)}, Separated SpellsMember text members → text.length < fuel →
      cur.rest = text ++ '\x7d' :: rest → Stops (skipMembers fuel cur) rest
  | fuel + 1, cur, text, members, htext, hfuel, h => by
      obtain ⟨part, member, c, tail, hpart, hcut, hlength, hmore⟩ := htext.exists_cut '\x7d' rest
      have hc : c ∈ [',', ']', '\x7d'] ∧ c ∉ blanks := by
        rcases hmore with ⟨rfl, -⟩ | ⟨rfl, -⟩ <;> decide
      obtain ⟨before, key, space, blank, inside, behind, hbefore, hkey, hspace, hblank, hvalue, hbehind,
        rfl⟩ := hpart.exists_parts
      rw [hcut] at h
      simp only [List.length_append, List.length_cons] at hlength
      simp only [List.append_assoc, List.cons_append] at h
      have hquote := rest_skipBlanks hbefore (by decide) h
      obtain ⟨mid, hmid, hcolon⟩ := stops_skipString.mpr ⟨key, _, hkey, rest_next hquote⟩
      have hcolon := rest_skipBlanks hspace (by decide) hcolon
      obtain ⟨last, hlast, hrest⟩ : Stops (skipValue fuel mid.skipBlanks.next) (behind ++ c :: tail) :=
        stops_skipValue hvalue hblank ((endsValue_cons.mpr hc.1).endsNumber hbehind) (by omega)
          (rest_next hcolon)
      have hnext := rest_skipBlanks hbehind hc.2 hrest
      rw [skipMembers]
      simp only [hquote]
      refine stops_bind.mpr ⟨mid, hmid, ?_⟩
      simp only [hcolon]
      refine stops_bind.mpr ⟨last, hlast, ?_⟩
      rcases hmore with ⟨rfl, rfl, -⟩ | ⟨rfl, more, others, rfl, -, hothers, hshort⟩
      · simp only [hnext]
        exact stops_ok.mpr (rest_next hnext)
      · simp only [hnext]
        exact stops_skipMembers hothers (by omega) (rest_next hnext)

end

end AddonRegistry.Json
