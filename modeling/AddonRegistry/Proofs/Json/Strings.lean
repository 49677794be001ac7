import AddonRegistry.Proofs.Json.Steps

/-!
# Strings that are read and strings that are skipped

A string that nobody reads only has to end: its escape sequences are looked at one by one, and stand for any
units.  A string that is read has to be a text as well.  There two escape sequences may be one character, so
that it is taken apart by characters (`SpellsCharacter`) and not by units.

* `yields_readUnit` — four digits.
* `stops_skipEscape`, **`stops_skipString`** — an escape sequence and a string are skipped.
* `SpellsCharacter.characters`, `Characters.exists_first` — the spellings of a character are those of its
  units.
* `yields_readEscape`, **`yields_readString`** — an escape sequence and a string are read.
-/

namespace AddonRegistry.Json

variable {cur : Cursor} {text rest digits : List Char} {c : Char} {unit value : Nat}

/-! ## Four digits -/

lemma hexDigit?_eq_some_iff : hexDigit? c = some value ↔ IsHexDigit c value := by
  constructor
  · have hdigits : ∀ i < 10, IsHexDigit (Char.ofNat (0x30 + i)) i := by unfold IsHexDigit; decide
    have hlowers : ∀ i < 6, IsHexDigit (Char.ofNat (0x61 + i)) (i + 10) := by unfold IsHexDigit; decide
    have huppers : ∀ i < 6, IsHexDigit (Char.ofNat (0x41 + i)) (i + 10) := by unfold IsHexDigit; decide
    intro h
    rw [hexDigit?] at h
    split_ifs at h with hdigit hlower hupper <;> cases h
    · rw [Char.isDigit, Bool.and_eq_true, decide_eq_true_eq, decide_eq_true_eq] at hdigit
      have hlow : 0x30 ≤ c.toNat := hdigit.1
      have hhigh : c.toNat ≤ 0x39 := hdigit.2
      have hc := hdigits (c.toNat - 0x30) (by omega)
      rwa [Nat.add_sub_cancel' hlow, Char.ofNat_toNat] at hc
    · have hlow : 0x61 ≤ c.toNat := hlower.1
      have hhigh : c.toNat ≤ 0x66 := hlower.2
      have hc := hlowers (c.toNat - 0x61) (by omega)
      rwa [Nat.add_sub_cancel' hlow, Char.ofNat_toNat] at hc
    · have hlow : 0x41 ≤ c.toNat := hupper.1
      have hhigh : c.toNat ≤ 0x46 := hupper.2
      have hc := huppers (c.toNat - 0x41) (by omega)
      rwa [Nat.add_sub_cancel' hlow, Char.ofNat_toNat] at hc
  · have hlowers : ∀ i (hi : i < 16), hexDigit? ("0123456789abcdef".toList[i]) = some i := by decide
    have huppers : ∀ i (hi : i < 16), hexDigit? ("0123456789ABCDEF".toList[i]) = some i := by decide
    rintro (h | h) <;> obtain ⟨hi, rfl⟩ := List.getElem?_eq_some_iff.mp h
    · exact hlowers value hi
    · exact huppers value hi

lemma hexValue?_eq_some_iff {a b d e : Char} :
    hexValue? [a, b, d, e] = some unit ↔ FourDigits [a, b, d, e] unit := by
  simp only [hexValue?, List.foldlM_cons, List.foldlM_nil, Option.bind_eq_bind, Option.bind_eq_some_iff,
    Option.map_eq_some_iff, Option.pure_def, Option.some.injEq, hexDigit?_eq_some_iff]
  constructor
  · rintro ⟨_, ⟨p, hp, rfl⟩, _, ⟨q, hq, rfl⟩, _, ⟨r, hr, rfl⟩, _, ⟨s, hs, rfl⟩, rfl⟩
    rw [Nat.zero_mul, Nat.zero_add]
    exact .digits hp hq hr hs
  · rintro ⟨hp, hq, hr, hs⟩
    exact ⟨_, ⟨_, hp, rfl⟩, _, ⟨_, hq, rfl⟩, _, ⟨_, hr, rfl⟩, _, ⟨_, hs, rfl⟩, by simp⟩

lemma lt_of_isHexDigit (h : IsHexDigit c value) : value < 16 := by
  rcases h with h | h <;> exact (List.getElem?_eq_some_iff.mp h).1

lemma FourDigits.lt (h : FourDigits digits unit) : unit < 0x10000 := by
  obtain ⟨hp, hq, hr, hs⟩ := h
  have := lt_of_isHexDigit hp
  have := lt_of_isHexDigit hq
  have := lt_of_isHexDigit hr
  have := lt_of_isHexDigit hs
  omega

lemma FourDigits.exists_eq (h : FourDigits digits unit) : ∃ a b d e, digits = [a, b, d, e] := by
  cases h
  exact ⟨_, _, _, _, rfl⟩

lemma four_le_byteCount (a b d e : Char) : 4 ≤ byteCount [a, b, d, e] := by
  have := a.utf8Size_pos
  have := b.utf8Size_pos
  have := d.utf8Size_pos
  have := e.utf8Size_pos
  simp only [byteCount, List.foldl_cons, List.foldl_nil]
  omega

/-- **A code unit** is read where four digits come next. -/
lemma yields_readUnit :
    Yields (readUnit cur) unit rest ↔ ∃ digits, FourDigits digits unit ∧ cur.rest = digits ++ rest := by
  rw [readUnit]
  constructor
  · intro h
    split_ifs at h
    · exact absurd h not_yields_fault
    split at h
    · next a b d e behind hcur =>
        split at h
        · next found hfound =>
            obtain ⟨rfl, hrest⟩ := yields_ok.mp h
            refine ⟨_, hexValue?_eq_some_iff.mp hfound, ?_⟩
            rw [← hrest, rest_skip, hcur]
            rfl
        · exact absurd h not_yields_faultBehind
    · exact absurd h not_yields_faultBehind
  · rintro ⟨digits, hdigits, h⟩
    obtain ⟨a, b, d, e, rfl⟩ := hdigits.exists_eq
    have hfour := four_le_byteCount a b d e
    have hcur : cur.rest = a :: b :: d :: e :: rest := h
    have htake : cur.rest.take 4 = [a, b, d, e] := by rw [hcur]; rfl
    rw [htake, if_neg (by omega)]
    simp only [hcur, hexValue?_eq_some_iff.mpr hdigits, yields_ok, rest_skip, true_and]
    rfl

/-! ## Escape sequences -/

lemma simpleEscape?_eq_some_iff {letter : Char} :
    simpleEscape? letter = some c ↔ (letter, c) ∈ escapes := by
  unfold simpleEscape?
  split <;> simp_all [escapes, eq_comm]

lemma Character.escape_cases {units : List Nat} (h : Character ('\\' :: text) units) :
    (∃ letter c, (letter, c) ∈ escapes ∧ text = [letter] ∧ units = [c.toNat]) ∨
      ∃ digits unit, FourDigits digits unit ∧ text = 'u' :: digits ∧ units = [unit] := by
  cases h with
  | plain hcontrol hquote hescape => exact absurd rfl hescape
  | escape h => exact .inl ⟨_, _, h, rfl, rfl⟩
  | unit h => exact .inr ⟨_, _, h, rfl, rfl⟩

lemma Character.plain_or_escape {units : List Nat} (h : Character text units) :
    (∃ c, 0x20 ≤ c.toNat ∧ c ≠ '"' ∧ c ≠ '\\' ∧ text = [c]) ∨ ∃ escape, text = '\\' :: escape := by
  cases h with
  | plain hcontrol hquote hescape => exact .inl ⟨_, hcontrol, hquote, hescape, rfl⟩
  | escape h => exact .inr ⟨_, rfl⟩
  | unit h => exact .inr ⟨_, rfl⟩

lemma Character.units_ne_nil {units : List Nat} (h : Character text units) : units ≠ [] := by
  cases h with
  | plain hcontrol hquote hescape => exact unitsOf_ne_nil _
  | escape h => exact List.cons_ne_nil _ _
  | unit h => exact List.cons_ne_nil _ _

lemma ne_u_of_mem_escapes {letter : Char} (h : (letter, c) ∈ escapes) : letter ≠ 'u' := by
  rintro rfl
  cases simpleEscape?_eq_some_iff.mpr h

/-- The end of an escape sequence is found where one comes next. -/
lemma stops_skipEscape :
    Stops (skipEscape cur) rest ↔
      ∃ text units, Character ('\\' :: text) units ∧ cur.rest = text ++ rest := by
  rw [skipEscape]
  constructor
  · intro h
    split at h
    · exact absurd h not_stops_fault
    · next behind hcur =>
        obtain ⟨unit, hunit⟩ := stops_map.mp h
        obtain ⟨digits, hdigits, hnext⟩ := yields_readUnit.mp hunit
        refine ⟨'u' :: digits, _, .unit hdigits, ?_⟩
        rw [hcur, ← rest_next hcur, hnext, List.cons_append]
    · next c behind hu hcur =>
        split_ifs at h with hsome
        · obtain ⟨d, hd⟩ := Option.isSome_iff_exists.mp hsome
          refine ⟨[c], _, .escape (simpleEscape?_eq_some_iff.mp hd), ?_⟩
          rw [hcur, ← stops_ok.mp h, rest_next hcur, List.singleton_append]
        · exact absurd h not_stops_faultAhead
  · rintro ⟨text, units, hcharacter, h⟩
    rcases hcharacter.escape_cases with ⟨letter, c, hescape, rfl, -⟩ | ⟨digits, unit, hdigits, rfl, -⟩
    · have hu := ne_u_of_mem_escapes hescape
      rw [List.singleton_append] at h
      simp only [h]
      rw [if_pos (Option.isSome_iff_exists.mpr ⟨c, simpleEscape?_eq_some_iff.mpr hescape⟩), stops_ok]
      exact rest_next h
    · rw [List.cons_append] at h
      simp only [h]
      exact stops_map.mpr ⟨unit, yields_readUnit.mpr ⟨digits, hdigits, rest_next h⟩⟩

/-! ## Strings that are skipped -/

lemma isControl_eq_false_iff : isControl c = false ↔ 0x20 ≤ c.toNat := by
  rw [isControl, decide_eq_false_iff_not, Nat.not_lt]

lemma exists_characters_of_stops : ∀ {fuel : Nat} {cur : Cursor}, Stops (skipChars fuel cur) rest →
    ∃ text units, Characters text units ∧ cur.rest = text ++ '"' :: rest
  | 0, cur, h => absurd h not_stops_fault
  | fuel + 1, cur, h => by
      rw [skipChars] at h
      split at h
      · exact absurd h not_stops_fault
      · next behind hcur =>
          refine ⟨[], [], .nil, ?_⟩
          rw [hcur, ← stops_ok.mp h, rest_next hcur, List.nil_append]
      · next behind hcur =>
          obtain ⟨last, hlast, hmore⟩ := stops_bind.mp h
          obtain ⟨first, units, hfirst, hbehind⟩ := stops_skipEscape.mp ⟨last, hlast, rfl⟩
          obtain ⟨text, more, htext, hrest⟩ := exists_characters_of_stops hmore
          refine ⟨'\\' :: first ++ text, _, .cons hfirst htext, ?_⟩
          rw [hcur, ← rest_next hcur, hbehind, hrest]
          simp
      · next c behind hquote hescape hcur =>
          split_ifs at h with hcontrol
          · exact absurd h not_stops_fault
          · rw [Bool.not_eq_true, isControl_eq_false_iff] at hcontrol
            obtain ⟨text, more, htext, hrest⟩ := exists_characters_of_stops h
            refine ⟨[c] ++ text, _, .cons (.plain hcontrol ?_ ?_) htext, ?_⟩
            · rintro rfl
              exact hquote rfl
            · rintro rfl
              exact hescape rfl
            · rw [hcur, ← rest_next hcur, hrest]
              rfl

lemma stops_skipChars : ∀ {fuel : Nat} {text : List Char} {units : List Nat} {cur : Cursor},
    Characters text units → text.length < fuel → cur.rest = text ++ '"' :: rest →
      Stops (skipChars fuel cur) rest
  | fuel + 1, _, _, cur, .nil, _, h => by
      rw [List.nil_append] at h
      rw [skipChars]
      simp only [h]
      exact stops_ok.mpr (rest_next h)
  | fuel + 1, _, _, cur, @Characters.cons first text _ _ hfirst htext, hfuel, h => by
      rw [List.length_append] at hfuel
      rw [List.append_assoc] at h
      rw [skipChars]
      rcases hfirst.plain_or_escape with ⟨c, hcontrol, hquote, hescape, rfl⟩ | ⟨escape, rfl⟩
      · rw [List.singleton_append] at h
        rw [List.length_singleton] at hfuel
        simp only [h]
        rw [if_neg (by rw [isControl_eq_false_iff.mpr hcontrol]; decide)]
        exact stops_skipChars htext (by omega) (rest_next h)
      · rw [List.cons_append] at h
        rw [List.length_cons] at hfuel
        obtain ⟨last, hlast, hrest⟩ := stops_skipEscape.mpr ⟨escape, _, hfirst, rest_next h⟩
        simp only [h]
        exact stops_bind.mpr ⟨last, hlast, stops_skipChars htext (by omega) hrest⟩

/-- **The end of a string** that nobody reads. -/
lemma stops_skipString :
    Stops (skipString cur) rest ↔
      ∃ text units, Characters text units ∧ cur.rest = text ++ '"' :: rest := by
  refine ⟨exists_characters_of_stops, ?_⟩
  rintro ⟨text, units, htext, h⟩
  refine stops_skipChars htext ?_ h
  rw [h, List.length_append]
  omega

/-! ## The characters of a text -/

/-- That a text is the spelling of a character, for which two escape sequences may be needed. -/
inductive SpellsCharacter : List Char → Char → Prop where
  | plain {c : Char} (hcontrol : 0x20 ≤ c.toNat) (hquote : c ≠ '"') (hescape : c ≠ '\\') :
      SpellsCharacter [c] c
  | escape {letter c : Char} (h : (letter, c) ∈ escapes) : SpellsCharacter ['\\', letter] c
  | unit {digits : List Char} {c : Char} (h : FourDigits digits c.toNat) :
      SpellsCharacter ('\\' :: 'u' :: digits) c
  | pair {first second : List Char} {c : Char} {high low : Nat} (hfirst : FourDigits first (0xD800 + high))
      (hsecond : FourDigits second (0xDC00 + low)) (hhigh : high < 0x400) (hlow : low < 0x400)
      (h : c.toNat = 0x10000 + high * 0x400 + low) :
      SpellsCharacter ('\\' :: 'u' :: (first ++ '\\' :: 'u' :: second)) c

lemma SpellsCharacter.plain_or_escape (h : SpellsCharacter text c) :
    (0x20 ≤ c.toNat ∧ c ≠ '"' ∧ c ≠ '\\' ∧ text = [c]) ∨ ∃ escape, text = '\\' :: escape := by
  cases h with
  | plain hcontrol hquote hescape => exact .inl ⟨hcontrol, hquote, hescape, rfl⟩
  | escape h => exact .inr ⟨_, rfl⟩
  | unit h => exact .inr ⟨_, rfl⟩
  | pair hfirst hsecond hhigh hlow h => exact .inr ⟨_, rfl⟩

lemma unitsOf_of_lt (h : c.toNat < 0x10000) : unitsOf c = [c.toNat] := if_pos h

lemma unitsOf_of_mem_escapes {letter : Char} (h : (letter, c) ∈ escapes) : unitsOf c = [c.toNat] := by
  have hlow : ∀ p ∈ escapes, p.2.toNat < 0x10000 := by decide
  exact unitsOf_of_lt (hlow _ h)

/-- The spellings of a character are those of its units. -/
lemma SpellsCharacter.characters (h : SpellsCharacter text c) : Characters text (unitsOf c) := by
  cases h with
  | plain hcontrol hquote hescape => simpa using Characters.cons (.plain hcontrol hquote hescape) .nil
  | escape hescape =>
      rw [unitsOf_of_mem_escapes hescape]
      simpa using Characters.cons (.escape hescape) .nil
  | unit hdigits =>
      rw [unitsOf_of_lt hdigits.lt]
      simpa using Characters.cons (.unit hdigits) .nil
  | @pair first second _ high low hfirst hsecond hhigh hlow hc =>
      have hunits : unitsOf c = [0xD800 + high, 0xDC00 + low] := by
        rcases unitsOf_cases c with ⟨-, hsmall⟩ | ⟨high', low', hunits, hhigh', hlow', hc'⟩
        · omega
        · rw [hunits, show high' = high by omega, show low' = low by omega]
      rw [hunits]
      simpa using Characters.cons (.unit hfirst) (.cons (.unit hsecond) .nil)

/-- The second half of a pair can only be spelled by its digits. -/
lemma Characters.exists_low {units : List Nat} {low : Nat} (hlow : low < 0x400)
    (h : Characters text ((0xDC00 + low) :: units)) :
    ∃ digits rest, text = '\\' :: 'u' :: (digits ++ rest) ∧ FourDigits digits (0xDC00 + low) ∧
      Characters rest units := by
  have hne (c : Char) (more : List Nat) : (0xDC00 + low) :: units ≠ unitsOf c ++ more := by
    intro he
    rcases unitsOf_cases c with ⟨hc, hsmall⟩ | ⟨high, low', hc, hhigh, -⟩ <;> rw [hc] at he <;>
      simp only [List.cons_append, List.nil_append, List.cons.injEq] at he <;> omega
  generalize he : (0xDC00 + low) :: units = all at h
  cases h with
  | nil => cases he
  | cons hfirst hbehind =>
      cases hfirst with
      | plain hcontrol hquote hescape => exact absurd he (hne _ _)
      | escape hescape => exact absurd he (unitsOf_of_mem_escapes hescape ▸ hne _ _)
      | unit hdigits =>
          cases he
          exact ⟨_, _, rfl, hdigits, hbehind⟩

/-- A string that starts with the units of a character starts with a spelling of it. -/
lemma Characters.exists_first {units : List Nat} (h : Characters text (unitsOf c ++ units)) :
    ∃ first rest, text = first ++ rest ∧ SpellsCharacter first c ∧ Characters rest units := by
  generalize he : unitsOf c ++ units = all at h
  cases h with
  | nil => exact absurd (List.append_eq_nil_iff.mp he).1 (unitsOf_ne_nil c)
  | @cons first behind _ more hfirst hbehind =>
      cases hfirst with
      | plain hcontrol hquote hescape =>
          obtain ⟨rfl, rfl⟩ := unitsOf_append_inj he
          exact ⟨_, _, rfl, .plain hcontrol hquote hescape, hbehind⟩
      | escape hescape =>
          rw [← unitsOf_of_mem_escapes hescape] at he
          obtain ⟨rfl, rfl⟩ := unitsOf_append_inj he
          exact ⟨_, _, rfl, .escape hescape, hbehind⟩
      | unit hdigits =>
          rcases unitsOf_cases c with ⟨hc, -⟩ | ⟨high, low, hc, hhigh, hlow, hvalue⟩
          · rw [hc] at he
            cases he
            exact ⟨_, _, rfl, .unit hdigits, hbehind⟩
          · -- the first half of a pair: the next escape sequence is the other half
            rw [hc] at he
            cases he
            obtain ⟨second, rest, rfl, hsecond, hrest⟩ := hbehind.exists_low hlow
            exact ⟨_, rest, by simp, .pair hdigits hsecond hhigh hlow hvalue, hrest⟩

/-! ## Strings that are read -/

lemma toNat_ofNat {n : Nat} (h : n < 0xD800 ∨ 0xDFFF < n ∧ n < 0x110000) : (Char.ofNat n).toNat = n := by
  have hvalid : n.isValidChar := h
  rw [Char.ofNat, dif_pos hvalid]
  rfl

lemma isHighSurrogate_iff : isHighSurrogate unit = true ↔ 0xD800 ≤ unit ∧ unit ≤ 0xDBFF := by
  simp [isHighSurrogate]

lemma isLowSurrogate_iff : isLowSurrogate unit = true ↔ 0xDC00 ≤ unit ∧ unit ≤ 0xDFFF := by
  simp [isLowSurrogate]

/-- What stands behind the letter of an escape sequence of digits. -/
lemma exists_of_yields_readUnits (h : Yields (readUnits cur) c rest) :
    ∃ text, SpellsCharacter ('\\' :: 'u' :: text) c ∧ cur.rest = text ++ rest := by
  rw [readUnits] at h
  obtain ⟨⟨unit, mid⟩, hunit, h⟩ := yields_bind.mp h
  obtain ⟨first, hfirst, hcur⟩ := yields_readUnit.mp ⟨mid, hunit, rfl⟩
  have hbound := hfirst.lt
  dsimp only at h
  split_ifs at h with hlow hhigh
  · exact absurd h not_yields_fault
  · split at h
    · exact absurd h not_yields_fault
    · next behind hmid =>
        split at h
        · exact absurd h not_yields_fault
        · next more hnext =>
            obtain ⟨⟨second, last⟩, hsecond, h⟩ := yields_bind.mp h
            obtain ⟨digits, hdigits, hbehind⟩ := yields_readUnit.mp ⟨last, hsecond, rfl⟩
            dsimp only at h
            split_ifs at h with hlow'
            · rw [isHighSurrogate_iff] at hhigh
              rw [isLowSurrogate_iff] at hlow'
              obtain ⟨rfl, rfl⟩ := yields_ok.mp h
              rw [← Nat.add_sub_cancel' hhigh.1] at hfirst
              rw [← Nat.add_sub_cancel' hlow'.1] at hdigits
              refine ⟨first ++ '\\' :: 'u' :: digits,
                .pair hfirst hdigits (by omega) (by omega) (toNat_ofNat (by omega)), ?_⟩
              · rw [hcur, hmid, ← rest_next hmid, hnext, ← rest_next hnext, hbehind]
                simp
            · exact absurd h not_yields_fault
        · exact absurd h not_yields_faultAhead
    · exact absurd h not_yields_faultAhead
  · rw [isLowSurrogate_iff] at hlow
    rw [isHighSurrogate_iff] at hhigh
    obtain ⟨rfl, rfl⟩ := yields_ok.mp h
    refine ⟨first, .unit ?_, hcur⟩
    rwa [toNat_ofNat (by omega)]

lemma yields_readUnits_of_unit (hdigits : FourDigits digits c.toNat) (h : cur.rest = digits ++ rest) :
    Yields (readUnits cur) c rest := by
  obtain ⟨last, hlast, hrest⟩ := yields_readUnit.mpr ⟨digits, hdigits, h⟩
  have hrange := toNat_range c
  rw [readUnits]
  refine yields_bind.mpr ⟨_, hlast, ?_⟩
  dsimp only
  rw [if_neg (by rw [isLowSurrogate_iff]; omega), if_neg (by rw [isHighSurrogate_iff]; omega),
    Char.ofNat_toNat]
  exact yields_ok.mpr ⟨rfl, hrest⟩

lemma yields_readUnits_of_pair {first second : List Char} {high low : Nat}
    (hfirst : FourDigits first (0xD800 + high)) (hsecond : FourDigits second (0xDC00 + low))
    (hhigh : high < 0x400) (hlow : low < 0x400) (hc : c.toNat = 0x10000 + high * 0x400 + low)
    (h : cur.rest = first ++ '\\' :: 'u' :: (second ++ rest)) : Yields (readUnits cur) c rest := by
  obtain ⟨mid, hmid, hbehind⟩ := yields_readUnit.mpr ⟨first, hfirst, h⟩
  obtain ⟨last, hlast, hrest⟩ :=
    yields_readUnit.mpr ⟨second, hsecond, rest_next (rest_next hbehind)⟩
  have hvalue : 0x10000 + (0xD800 + high - 0xD800) * 0x400 + (0xDC00 + low - 0xDC00) = c.toNat := by omega
  rw [readUnits]
  refine yields_bind.mpr ⟨_, hmid, ?_⟩
  dsimp only
  rw [if_neg (by rw [isLowSurrogate_iff]; omega), if_pos (by rw [isHighSurrogate_iff]; omega)]
  simp only [hbehind, rest_next hbehind]
  refine yields_bind.mpr ⟨_, hlast, ?_⟩
  dsimp only
  rw [if_pos (by rw [isLowSurrogate_iff]; omega), hvalue, Char.ofNat_toNat]
  exact yields_ok.mpr ⟨rfl, hrest⟩

/-- **An escape sequence**, or two of them, is read as the character that it spells. -/
lemma yields_readEscape :
    Yields (readEscape cur) c rest ↔
      ∃ text, SpellsCharacter ('\\' :: text) c ∧ cur.rest = text ++ rest := by
  rw [readEscape]
  constructor
  · intro h
    split at h
    · exact absurd h not_yields_fault
    · next behind hcur =>
        obtain ⟨text, htext, hnext⟩ := exists_of_yields_readUnits h
        exact ⟨'u' :: text, htext, by rw [hcur, ← rest_next hcur, hnext, List.cons_append]⟩
    · next letter behind hu hcur =>
        split at h
        · next d hd =>
            obtain ⟨rfl, hrest⟩ := yields_ok.mp h
            refine ⟨[letter], .escape (simpleEscape?_eq_some_iff.mp hd), ?_⟩
            rw [hcur, ← hrest, rest_next hcur, List.singleton_append]
        · exact absurd h not_yields_faultAhead
  · rintro ⟨text, htext, h⟩
    cases htext with
    | plain hcontrol hquote hescape => exact absurd rfl hescape
    | escape hescape =>
        have hu := ne_u_of_mem_escapes hescape
        rw [List.singleton_append] at h
        simp only [h, simpleEscape?_eq_some_iff.mpr hescape]
        exact yields_ok.mpr ⟨rfl, rest_next h⟩
    | unit hdigits =>
        rw [List.cons_append] at h
        simp only [h]
        exact yields_readUnits_of_unit hdigits (rest_next h)
    | pair hfirst hsecond hhigh hlow hc =>
        rw [List.cons_append, List.append_assoc] at h
        simp only [h]
        exact yields_readUnits_of_pair hfirst hsecond hhigh hlow hc (rest_next h)

lemma Characters.append {first second : List Char} {units more : List Nat} (h : Characters first units)
    (hsecond : Characters second more) : Characters (first ++ second) (units ++ more) := by
  induction h with
  | nil => exact hsecond
  | cons hfirst _ ih =>
      rw [List.append_assoc, List.append_assoc]
      exact .cons hfirst ih

lemma Characters.eq_nil (h : Characters text []) : text = [] := by
  generalize he : [] = units at h
  cases h with
  | nil => rfl
  | cons hfirst hrest =>
      obtain ⟨rfl, -⟩ := List.append_eq_nil_iff.mp he.symm
      exact absurd rfl hfirst.units_ne_nil

lemma exists_text_of_yields {found : List Char} : ∀ {fuel : Nat} {read : List Char} {cur : Cursor},
    Yields (readChars fuel read cur) found rest →
      ∃ text chars, Characters text (utf16 chars) ∧ found = read.reverse ++ chars ∧
        cur.rest = text ++ '"' :: rest
  | 0, read, cur, h => absurd h not_yields_fault
  | fuel + 1, read, cur, h => by
      rw [readChars] at h
      split at h
      · exact absurd h not_yields_fault
      · next behind hcur =>
          obtain ⟨rfl, hrest⟩ := yields_ok.mp h
          refine ⟨[], [], .nil, (List.append_nil _).symm, ?_⟩
          rw [hcur, ← hrest, rest_next hcur, List.nil_append]
      · next behind hcur =>
          obtain ⟨⟨c, mid⟩, hmid, hmore⟩ := yields_bind.mp h
          obtain ⟨escape, hescape, hbehind⟩ := yields_readEscape.mp ⟨mid, hmid, rfl⟩
          obtain ⟨text, chars, htext, rfl, hrest⟩ := exists_text_of_yields hmore
          refine ⟨_, c :: chars, hescape.characters.append htext, by simp, ?_⟩
          rw [hcur, ← rest_next hcur, hbehind, hrest]
          simp
      · next c behind hquote hescape hcur =>
          split_ifs at h with hcontrol
          · exact absurd h not_yields_faultAhead
          · rw [Bool.not_eq_true, isControl_eq_false_iff] at hcontrol
            obtain ⟨text, chars, htext, rfl, hrest⟩ := exists_text_of_yields h
            refine ⟨_, c :: chars, .cons (.plain hcontrol ?_ ?_) htext, by simp, ?_⟩
            · rintro rfl
              exact hquote rfl
            · rintro rfl
              exact hescape rfl
            · rw [hcur, ← rest_next hcur, hrest]
              rfl

lemma yields_readChars : ∀ {chars : List Char} {fuel : Nat} {text read : List Char} {cur : Cursor},
    Characters text (utf16 chars) → text.length < fuel → cur.rest = text ++ '"' :: rest →
      Yields (readChars fuel read cur) (read.reverse ++ chars) rest
  | [], fuel + 1, text, read, cur, htext, hfuel, h => by
      rw [htext.eq_nil, List.nil_append] at h
      rw [readChars]
      simp only [h]
      exact yields_ok.mpr ⟨(List.append_nil _).symm, rest_next h⟩
  | c :: chars, fuel + 1, text, read, cur, htext, hfuel, h => by
      rw [utf16_cons] at htext
      obtain ⟨first, behind, rfl, hfirst, hbehind⟩ := htext.exists_first
      have hread : read.reverse ++ c :: chars = (c :: read).reverse ++ chars := by simp
      rw [List.length_append] at hfuel
      rw [List.append_assoc] at h
      rw [readChars, hread]
      rcases hfirst.plain_or_escape with ⟨hcontrol, hquote, hescape, rfl⟩ | ⟨escape, rfl⟩
      · rw [List.singleton_append] at h
        rw [List.length_singleton] at hfuel
        simp only [h]
        rw [if_neg (by rw [isControl_eq_false_iff.mpr hcontrol]; decide)]
        exact yields_readChars hbehind (by omega) (rest_next h)
      · rw [List.cons_append] at h
        rw [List.length_cons] at hfuel
        obtain ⟨last, hlast, hrest⟩ := yields_readEscape.mpr ⟨escape, hfirst, rest_next h⟩
        simp only [h]
        exact yields_bind.mpr ⟨_, hlast, yields_readChars hbehind (by omega) hrest⟩

/-- **A string** is read as a text if it stands for its units. -/
lemma yields_readString {found : String} :
    Yields (readString cur) found rest ↔
      ∃ text, Characters text (utf16 found.toList) ∧ cur.rest = text ++ '"' :: rest := by
  rw [readString]
  constructor
  · intro h
    obtain ⟨⟨chars, last⟩, hlast, h⟩ := yields_bind.mp h
    obtain ⟨rfl, rfl⟩ := yields_ok.mp h
    obtain ⟨text, more, htext, rfl, hcur⟩ := exists_text_of_yields ⟨last, hlast, rfl⟩
    exact ⟨text, by simpa using htext, hcur⟩
  · rintro ⟨text, htext, h⟩
    have hfuel : text.length < cur.rest.length + 1 := by
      rw [h, List.length_append]
      omega
    obtain ⟨last, hlast, hrest⟩ :
        Yields (readChars (cur.rest.length + 1) [] cur) ([].reverse ++ found.toList) rest :=
      yields_readChars htext hfuel h
    exact yields_bind.mpr ⟨_, hlast, yields_ok.mpr ⟨String.ofList_toList, hrest⟩⟩

end AddonRegistry.Json
