import Mathlib.Tactic.Common

/-!
# The grammar of JSON

What a JSON text says, and how it can be spelled.  A string is told by its UTF-16 code units and not by its
characters: escape sequences stand for units, and any units at all can be spelled, also half of a surrogate
pair.  Such a string is the spelling of no text.

* `Value` — what a JSON text says.
* `IsNumber`, `Characters` — how numbers and the insides of strings are spelled.
* `Spells` — how a value is spelled; `SpellsElement` allows blanks around it.
* `utf16` — the code units of a text.  `utf16_inj`: a string is at most one text.
-/

namespace AddonRegistry.Json

/-- What a JSON text says.  A string is told by its code units, and a number by its spelling. -/
inductive Value where
  | null
  | boolean (value : Bool)
  | number (spelling : List Char)
  | string (units : List Nat)
  | list (elements : List Value)
  | object (members : List (List Nat × Value))

/-! ## Blanks and numbers -/

/-- A property of a few characters is seen by going through them, and not through all characters. -/
lemma forall_mem_of_all {p : Char → Prop} [DecidablePred p] {chars : List Char}
    (h : chars.all fun c => decide (p c)) : ∀ c ∈ chars, p c :=
  fun c hc => of_decide_eq_true (List.all_eq_true.mp h c hc)

/-- The characters that may stand between any two parts of a JSON text. -/
def blanks : List Char := [' ', '\n', '\t', '\r']

/-- That a text is made of blanks. -/
def IsBlank (text : List Char) : Prop := ∀ c ∈ text, c ∈ blanks

/-- That a text is a number of digits, at least one. -/
def IsDigits (text : List Char) : Prop := text ≠ [] ∧ ∀ c ∈ text, c.isDigit

/-- That a text is the whole part of a number, which starts with a zero only if that is all of it. -/
def IsWhole (text : List Char) : Prop := IsDigits text ∧ (text.head? = some '0' → text = ['0'])

/-- That a text is what stands behind the whole part of a number, up to its exponent. -/
def IsFraction (text : List Char) : Prop := text = [] ∨ ∃ digits, text = '.' :: digits ∧ IsDigits digits

/-- That a text is the exponent of a number, or nothing. -/
def IsExponent (text : List Char) : Prop :=
  text = [] ∨ ∃ letter sign digits, text = letter :: (sign ++ digits) ∧ letter ∈ ['e', 'E'] ∧
    sign ∈ [[], ['+'], ['-']] ∧ IsDigits digits

/-- That a text is a number without a sign. -/
def IsUnsigned (text : List Char) : Prop :=
  ∃ whole fraction exponent, text = whole ++ (fraction ++ exponent) ∧ IsWhole whole ∧
    IsFraction fraction ∧ IsExponent exponent

/-- That a text is a number. -/
def IsNumber (text : List Char) : Prop :=
  IsUnsigned text ∨ ∃ rest, text = '-' :: rest ∧ IsUnsigned rest

/-! ## Strings -/

/-- The code units of a character. -/
def unitsOf (c : Char) : List Nat :=
  if c.toNat < 0x10000 then [c.toNat]
  else [0xD800 + (c.toNat - 0x10000) / 0x400, 0xDC00 + (c.toNat - 0x10000) % 0x400]

/-- The code units of a text. -/
def utf16 (text : List Char) : List Nat := text.flatMap unitsOf

lemma utf16_cons (c : Char) (text : List Char) : utf16 (c :: text) = unitsOf c ++ utf16 text :=
  List.flatMap_cons

lemma toNat_range (c : Char) : c.toNat < 0xD800 ∨ 0xDFFF < c.toNat ∧ c.toNat < 0x110000 := c.valid

/-- A character is one unit that is no half of a pair, or such a pair. -/
lemma unitsOf_cases (c : Char) :
    (unitsOf c = [c.toNat] ∧ (c.toNat < 0xD800 ∨ 0xDFFF < c.toNat ∧ c.toNat < 0x10000)) ∨
      ∃ high low, unitsOf c = [0xD800 + high, 0xDC00 + low] ∧ high < 0x400 ∧ low < 0x400 ∧
        c.toNat = 0x10000 + high * 0x400 + low := by
  have hrange := toNat_range c
  rw [unitsOf]
  split_ifs with hlow
  · exact .inl ⟨rfl, by omega⟩
  · exact .inr ⟨(c.toNat - 0x10000) / 0x400, (c.toNat - 0x10000) % 0x400, rfl, by omega, by omega,
      by omega⟩

/-- Where the units of a text go on, they are those of its next character. -/
lemma unitsOf_append_inj {c d : Char} {units more : List Nat}
    (h : unitsOf c ++ units = unitsOf d ++ more) : c = d ∧ units = more := by
  rw [← Char.toNat_inj]
  rcases unitsOf_cases c with ⟨hc, hc'⟩ | ⟨high, low, hc, hhigh, hlow, hc'⟩ <;>
    rcases unitsOf_cases d with ⟨hd, hd'⟩ | ⟨high', low', hd, hhigh', hlow', hd'⟩ <;>
    rw [hc, hd] at h <;> simp only [List.cons_append, List.nil_append, List.cons.injEq] at h
  · exact h
  · omega
  · omega
  · exact ⟨by omega, h.2.2⟩

lemma unitsOf_ne_nil (c : Char) : unitsOf c ≠ [] := by
  rcases unitsOf_cases c with ⟨hc, -⟩ | ⟨high, low, hc, -⟩ <;> rw [hc] <;> exact List.cons_ne_nil _ _

lemma utf16_inj : ∀ {text other : List Char}, utf16 text = utf16 other → text = other
  | [], [], _ => rfl
  | [], d :: other, h => by
      rw [utf16_cons] at h
      exact absurd (List.append_eq_nil_iff.mp h.symm).1 (unitsOf_ne_nil d)
  | c :: text, [], h => by
      rw [utf16_cons] at h
      exact absurd (List.append_eq_nil_iff.mp h).1 (unitsOf_ne_nil c)
  | c :: text, d :: other, h => by
      rw [utf16_cons, utf16_cons] at h
      obtain ⟨rfl, hrest⟩ := unitsOf_append_inj h
      rw [utf16_inj hrest]

/-- The letters of the short escape sequences, each with what it stands for. -/
def escapes : List (Char × Char) :=
  [('"', '"'), ('\\', '\\'), ('/', '/'), ('b', '\x08'), ('f', '\x0c'), ('n', '\n'), ('r', '\r'),
    ('t', '\t')]

/-- That a character is a hexadecimal digit with a value, in upper or lower case. -/
def IsHexDigit (c : Char) (value : Nat) : Prop :=
  "0123456789abcdef".toList[value]? = some c ∨ "0123456789ABCDEF".toList[value]? = some c

/-- That a text is four hexadecimal digits with a value. -/
inductive FourDigits : List Char → Nat → Prop where
  | digits {a b c d : Char} {p q r s : Nat} (ha : IsHexDigit a p) (hb : IsHexDigit b q)
      (hc : IsHexDigit c r) (hd : IsHexDigit d s) :
      FourDigits [a, b, c, d] (((p * 16 + q) * 16 + r) * 16 + s)

/-- That a text is one character of a string, or one escape sequence, and stands for code units. -/
inductive Character : List Char → List Nat → Prop where
  | plain {c : Char} (hcontrol : 0x20 ≤ c.toNat) (hquote : c ≠ '"') (hescape : c ≠ '\\') :
      Character [c] (unitsOf c)
  | escape {letter c : Char} (h : (letter, c) ∈ escapes) : Character ['\\', letter] [c.toNat]
  | unit {digits : List Char} {unit : Nat} (h : FourDigits digits unit) :
      Character ('\\' :: 'u' :: digits) [unit]

/-- That a text is the inside of a string and stands for code units. -/
inductive Characters : List Char → List Nat → Prop where
  | nil : Characters [] []
  | cons {text rest : List Char} {units more : List Nat} (h : Character text units)
      (hrest : Characters rest more) : Characters (text ++ rest) (units ++ more)

/-! ## Values -/

/-- That a text is a number of parts, at least one, with commas between them. -/
inductive Separated {α : Type} (IsPart : List Char → α → Prop) : List Char → List α → Prop where
  | one {text : List Char} {x : α} (h : IsPart text x) : Separated IsPart text [x]
  | more {text rest : List Char} {x : α} {others : List α} (h : IsPart text x)
      (hrest : Separated IsPart rest others) : Separated IsPart (text ++ ',' :: rest) (x :: others)

mutual

/-- That a text is the spelling of a value. -/
inductive Spells : List Char → Value → Prop where
  | null : Spells "null".toList .null
  | true : Spells "true".toList (.boolean true)
  | false : Spells "false".toList (.boolean false)
  | number {text : List Char} (h : IsNumber text) : Spells text (.number text)
  | string {text : List Char} {units : List Nat} (h : Characters text units) :
      Spells ('"' :: (text ++ ['"'])) (.string units)
  | emptyList {text : List Char} (h : IsBlank text) : Spells ('[' :: (text ++ [']'])) (.list [])
  | list {text : List Char} {elements : List Value} (h : Separated SpellsElement text elements) :
      Spells ('[' :: (text ++ [']'])) (.list elements)
  | emptyObject {text : List Char} (h : IsBlank text) :
      Spells ('\x7b' :: (text ++ ['\x7d'])) (.object [])
  | object {text : List Char} {members : List (List Nat × Value)}
      (h : Separated SpellsMember text members) :
      Spells ('\x7b' :: (text ++ ['\x7d'])) (.object members)

/-- That a text is the spelling of a value, with blanks around it. -/
inductive SpellsElement : List Char → Value → Prop where
  | padded {before text behind : List Char} {value : Value} (hbefore : IsBlank before)
      (h : Spells text value) (hbehind : IsBlank behind) :
      SpellsElement (before ++ (text ++ behind)) value

/-- That a text is the spelling of a member of an object, a string and an element. -/
inductive SpellsMember : List Char → List Nat × Value → Prop where
  | pair {before key behind text : List Char} {units : List Nat} {value : Value}
      (hbefore : IsBlank before) (hkey : Characters key units) (hbehind : IsBlank behind)
      (h : SpellsElement text value) :
      SpellsMember (before ++ '"' :: (key ++ '"' :: (behind ++ ':' :: text))) (units, value)

end

end AddonRegistry.Json
