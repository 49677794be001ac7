import AddonRegistry.Proofs.TypeScript.Steps

/-!
# Texts that are cut into known tokens

What the tokens of a text are does not depend on where the text stands, only on the characters that
follow.  The lemmas here take a text apart that begins with a token of a known form, whatever comes
behind it.

* `Trivia.skip_cons_of_isSolid` — nothing is skipped in front of a character that starts a token.
* `isIdentifier`, `Lexeme.scan_identifier` — a word.
* `isQuotable`, `Lexeme.scan_quoted` — a string in single quotes that needs no escape sequence.
-/

namespace AddonRegistry.TypeScript

/-! ## Blanks -/

/-- Characters that no blank and no comment starts with. -/
def isSolid (c : Char) : Bool :=
  !(c = '/' || c = '<' || c = '-' || isLineEnd c || isBlank c)

namespace Trivia

variable {c : Char} (r : List Char) (line : Nat) (broke : Bool) (legacy : Option (List Char × Nat))

lemma skip_cons_of_isSolid (h : isSolid c) :
    skip .blanks (c :: r) line broke legacy = ⟨c :: r, line, broke, legacy⟩ := by
  simp only [isSolid, isLineEnd, Bool.not_eq_true', Bool.or_eq_false_iff,
    decide_eq_false_iff_not] at h
  unfold skip
  split <;> simp_all [isLineEnd]

lemma skip_nil : skip .blanks [] line broke legacy = ⟨[], line, broke, legacy⟩ := by
  rw [skip]

lemma skip_space :
    skip .blanks (' ' :: r) line broke legacy = skip .blanks r line broke legacy := by
  simp [skip, isLineEnd, isBlank]

lemma skip_lineFeed :
    skip .blanks ('\n' :: r) line broke legacy = skip .blanks r (line + 1) true legacy := by
  simp [skip]

end Trivia

/-! ## Words -/

/-- Whether a text is an identifier, or a word that could be one. -/
def isIdentifier : List Char → Bool
  | [] => false
  | c :: rest => Unicode.isIdentifierStart c && rest.all Unicode.isIdentifierPart

/-- Whether a word ends in front of a text. -/
def stopsWord : List Char → Bool
  | [] => true
  | c :: _ => !Unicode.isIdentifierPart c && c ≠ '\\'

lemma ne_of_isIdentifierPart {c d : Char} (hc : Unicode.isIdentifierPart c)
    (hd : Unicode.isIdentifierPart d = false) : c ≠ d := by
  rintro rfl
  rw [hc] at hd
  cases hd

lemma isDigit_eq_false_of_isIdentifierStart {c : Char} (h : Unicode.isIdentifierStart c) :
    c.isDigit = false := by
  by_contra hdigit
  rw [Bool.not_eq_false, Char.isDigit, Bool.and_eq_true, decide_eq_true_eq, decide_eq_true_eq] at hdigit
  have hnone : ∀ i < 10, Unicode.isIdentifierStart (Char.ofNat (0x30 + i)) = false := by decide +kernel
  have hlow : 0x30 ≤ c.toNat := hdigit.1
  have hhigh : c.toNat ≤ 0x39 := hdigit.2
  have hc := hnone (c.toNat - 0x30) (by omega)
  rw [Nat.add_sub_cancel' hlow, Char.ofNat_toNat, h] at hc
  cases hc

/-- The characters that blanks and comments start with. -/
def softCharacters : List Char :=
  ['/', '<', '-', '\n', '\r', '\u2028', '\u2029', ' ', '\t', '\x0b', '\x0c', '\x85', '\xa0', '\u1680',
    '\u202f', '\u205f', '\u3000', '\ufeff'] ++ (List.range 12).map fun i => Char.ofNat (0x2000 + i)

lemma mem_softCharacters {c : Char} (h : ¬ isSolid c) : c ∈ softCharacters := by
  rw [softCharacters, List.mem_append]
  by_cases hspace : '\u2000' ≤ c ∧ c ≤ '\u200b'
  · right
    obtain ⟨hlow, hhigh⟩ := hspace
    have hlow' : 0x2000 ≤ c.toNat := hlow
    have hhigh' : c.toNat ≤ 0x200b := hhigh
    refine List.mem_map.mpr ⟨c.toNat - 0x2000, List.mem_range.mpr (by omega), ?_⟩
    rw [Nat.add_sub_cancel' hlow', Char.ofNat_toNat]
  · left
    simp only [isSolid, isLineEnd, isBlank, Bool.not_eq_true, Bool.not_eq_false', Bool.or_eq_true,
      Bool.and_eq_true, decide_eq_true_eq, hspace, or_false] at h
    simp only [List.mem_cons]
    tauto

/-- Neither a blank nor a comment starts like an identifier. -/
lemma isSolid_of_isIdentifierStart {c : Char} (h : Unicode.isIdentifierStart c) : isSolid c := by
  by_contra hs
  have hsoft : softCharacters.all fun d => !Unicode.isIdentifierStart d := by decide +kernel
  have hc := List.all_eq_true.mp hsoft c (mem_softCharacters hs)
  rw [h] at hc
  cases hc

namespace Lexeme

lemma wordTail_append (rest : List Char) (hstop : stopsWord rest) :
    ∀ (name : List Char) (fuel : Nat) (read : List Char) (plain : Bool),
      name.all Unicode.isIdentifierPart → name.length < fuel →
      wordTail fuel (name ++ rest) read plain = .ok (name.reverse ++ read, plain, rest)
  | [], fuel + 1, read, plain, _, _ => by
      cases rest with
      | nil => rfl
      | cons c r =>
          simp only [stopsWord, Bool.and_eq_true, Bool.not_eq_true', decide_eq_true_eq] at hstop
          rw [List.nil_append, wordTail, if_neg (by rw [hstop.1]; exact Bool.false_ne_true)]
          · rfl
          · exact fun he => absurd he hstop.2
  | c :: name, fuel + 1, read, plain, hname, hfuel => by
      rw [List.all_cons, Bool.and_eq_true] at hname
      have hback : c ≠ '\\' := ne_of_isIdentifierPart hname.1 (by decide +kernel)
      rw [List.cons_append, wordTail, if_pos hname.1,
        wordTail_append rest hstop name fuel (c :: read) plain hname.2 (Nat.lt_of_succ_lt_succ hfuel)]
      · simp only [List.reverse_cons, List.append_assoc, List.singleton_append]
      · exact fun he => absurd he hback

/-- **A word** in front of something that does not continue it. -/
lemma scan_identifier {name rest : List Char} {fuel : Nat} (hname : isIdentifier name)
    (hstop : stopsWord rest) (hfuel : name.length < fuel) (line : Nat) :
    scan fuel (name ++ rest) line = ⟨.ofWord (String.ofList name), rest, line⟩ := by
  cases name with
  | nil => cases hname
  | cons c name =>
      rw [isIdentifier, Bool.and_eq_true] at hname
      have hpart := Unicode.isIdentifierPart_of_isIdentifierStart hname.1
      have hscan : scan fuel (c :: (name ++ rest)) line = word fuel (c :: (name ++ rest)) line := by
        have hquote {d : Char} (hd : Unicode.isIdentifierPart d = false) : c ≠ d :=
          ne_of_isIdentifierPart hpart hd
        unfold scan
        split
        · next he => cases he
        · next he => exact absurd (List.cons.inj he).1 (hquote (by decide +kernel))
        · next he => exact absurd (List.cons.inj he).1 (hquote (by decide +kernel))
        · next he => exact absurd (List.cons.inj he).1 (hquote (by decide +kernel))
        · next he => exact absurd (List.cons.inj he).1 (hquote (by decide +kernel))
        · next he => exact absurd (List.cons.inj he).1 (hquote (by decide +kernel))
        · next he =>
            cases he
            rw [if_neg (by rw [isDigit_eq_false_of_isIdentifierStart hname.1]; exact Bool.false_ne_true),
              if_pos hname.1]
      have htail := wordTail_append rest hstop (c :: name) fuel [] true
        (by rw [List.all_cons, hpart, hname.2]; rfl) hfuel
      rw [List.cons_append] at htail
      rw [List.cons_append, hscan, word, htail]
      simp only [List.append_nil, List.reverse_reverse, Bool.true_and, Token.ofWord]

end Lexeme

/-! ## Strings -/

/-- Whether a text can stand between single quotes as it is. -/
def isQuotable (text : List Char) : Bool :=
  text.all fun c => c ≠ '\x27' && c ≠ '\\' && c ≠ '\n' && c ≠ '\r'

/-- The code points of a text write that text. -/
lemma textOfPoints?_map_toNat : ∀ text : List Char, textOfPoints? (text.map Char.toNat) = some text
  | [] => rfl
  | c :: rest => by
      have hvalid := c.valid
      rw [UInt32.isValidChar, Nat.isValidChar] at hvalid
      have hhigh : ¬ (0xd800 ≤ c.toNat && c.toNat ≤ 0xdbff) = true := by
        simp only [Bool.and_eq_true, decide_eq_true_eq]
        have : c.toNat = c.val.toNat := rfl
        omega
      have hlow : ¬ (0xdc00 ≤ c.toNat && c.toNat ≤ 0xdfff) = true := by
        simp only [Bool.and_eq_true, decide_eq_true_eq]
        have : c.toNat = c.val.toNat := rfl
        omega
      rw [List.map_cons]
      unfold textOfPoints?
      rw [if_neg hhigh, if_neg hlow, textOfPoints?_map_toNat rest, Option.map_some, Char.ofNat_toNat]

namespace Lexeme

lemma stringTail_append (rest : List Char) (line : Nat) :
    ∀ (text : List Char) (fuel : Nat) (read : List Char), isQuotable text → text.length < fuel →
      stringTail '\x27' fuel (text ++ '\x27' :: rest) line (read.map Char.toNat) =
        ⟨.string (some (String.ofList (read.reverse ++ text))), rest, line⟩
  | [], fuel + 1, read, _, _ => by
      rw [List.nil_append, stringTail, if_pos rfl, ← List.map_reverse, textOfPoints?_map_toNat,
        List.append_nil]
      · rfl
      · decide
  | c :: text, fuel + 1, read, htext, hfuel => by
      rw [isQuotable, List.all_cons, Bool.and_eq_true] at htext
      simp only [Bool.and_eq_true, decide_eq_true_eq] at htext
      obtain ⟨⟨⟨⟨hquote, hback⟩, hfeed⟩, hreturn⟩, htext⟩ := htext
      rw [List.cons_append, stringTail, if_neg hquote, if_neg (by simp [hfeed, hreturn]), ← List.map_cons,
        stringTail_append rest line text fuel (c :: read) htext (Nat.lt_of_succ_lt_succ hfuel)]
      · simp only [List.reverse_cons, List.append_assoc, List.singleton_append]
      · exact fun he => absurd he hback

/-- **A string** in single quotes that holds nothing that has to be escaped. -/
lemma scan_quoted {text rest : List Char} {fuel : Nat} (htext : isQuotable text)
    (hfuel : text.length < fuel) (line : Nat) :
    scan fuel ('\x27' :: (text ++ '\x27' :: rest)) line =
      ⟨.string (some (String.ofList text)), rest, line⟩ :=
  stringTail_append rest line text fuel [] htext hfuel

end Lexeme

end AddonRegistry.TypeScript
