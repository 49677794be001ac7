import AddonRegistry.Glob.Search
import AddonRegistry.Proofs.Except

/-!
# The tokens of a stretch

What the tokens of a text are depends on the text and on the character in front of it, and not on where it
stands in the pattern.  A text that is escaped, like the folder that a pattern is seen from, has one token
for each of its characters: the character itself, or brackets around it if it means something in a pattern.
Only a stretch without such characters stands for one text alone.

* `eq_of_literal?` — what stands for one text is written like that text.
* `dotNames_of_tokens` — only a stretch that starts with a dot finds the names that every folder has.
* **`toOption_tokensFrom`** — where a text stands in a pattern does not matter.
* `literalToken`, **`tokens_escape`**, `toOption_tokens_escape_append` — the tokens of an escaped text.
* `IsPlain`, `literal?_map_literalToken` — that no character of a text means something in a pattern.
-/

namespace AddonRegistry.Glob

variable {text rest : List Char} {pattern : List Token} {c : Char} {before : Option Char}
  {fuel position : Nat}

/-! ## What tokens tell of their text -/

lemma tokensFrom_cons (hs : c ≠ '*') (hq : c ≠ '?') (ho : c ≠ '[') :
    tokensFrom (fuel + 1) position before (c :: rest) =
      (tokensFrom fuel (position + 1) (some c) rest).map (.char c :: ·) := by
  rw [tokensFrom]
  · exact hs
  · exact hq
  · exact ho

lemma tokensFrom_star : tokensFrom (fuel + 1) position before ('*' :: rest) =
    match rest with
    | '*' :: '*' :: _ => .error ⟨position + 2, .threeStars⟩
    | '*' :: rest =>
        if before = none ∨ before = some '/' then
          match rest with
          | [] => .ok [.anyDepth]
          | '/' :: rest => (tokensFrom fuel (position + 3) (some '/') rest).map (.anyDepth :: ·)
          | _ => .error ⟨position + 2, .partialDepth⟩
        else .error ⟨position - 1, .partialDepth⟩
    | rest => (tokensFrom fuel (position + 1) (some '*') rest).map (.anyChars :: ·) := rfl

lemma untilBracket?_eq_some {listed behind : List Char} (h : untilBracket? text = some (listed, behind)) :
    behind.length ≤ text.length := by
  cases text with
  | nil => cases h
  | cons first rest =>
      rw [untilBracket?] at h
      have hdrop := (List.dropWhile_suffix (fun c => decide (c ≠ ']')) (l := rest)).length_le
      split at h
      · next c more hrest =>
          cases h
          rw [hrest, List.length_cons] at hdrop
          rw [List.length_cons]
          omega
      · cases h

/-- Brackets are one token, and no character. -/
lemma bracketed?_eq_some {token : Token} {count : Nat} {behind : List Char}
    (h : bracketed? text = some (token, count, behind)) :
    behind.length ≤ text.length ∧ ∀ c, token ≠ .char c := by
  rw [bracketed?.eq_def] at h
  split at h
  · next rest =>
      obtain ⟨⟨listed, found⟩, hu, he⟩ := Option.map_eq_some_iff.mp h
      cases he
      exact ⟨Nat.le_succ_of_le (untilBracket?_eq_some hu), nofun⟩
  · obtain ⟨⟨listed, found⟩, hu, he⟩ := Option.map_eq_some_iff.mp h
    cases he
    exact ⟨untilBracket?_eq_some hu, nofun⟩

/-- How the tokens of a text begin: a wildcard, or a character that stands for itself. -/
lemma tokensFrom_cons_eq_ok (h : tokensFrom (fuel + 1) position before (c :: rest) = .ok pattern) :
    (∃ token behind, pattern = token :: behind ∧ ∀ c, token ≠ .char c) ∨
      ∃ behind, tokensFrom fuel (position + 1) (some c) rest = .ok behind ∧ pattern = .char c :: behind := by
  have hmap {f : List Token → List Token} {result : Except PatternFault (List Token)}
      (hr : result.map f = .ok pattern) : ∃ behind, result = .ok behind ∧ pattern = f behind := by
    cases result with
    | error fault => cases hr
    | ok behind => exact ⟨behind, rfl, (Except.ok.inj hr).symm⟩
  by_cases hs : c = '*'
  · left
    subst hs
    rw [tokensFrom_star] at h
    split at h
    · cases h
    · split_ifs at h
      split at h
      · cases h
        exact ⟨_, _, rfl, nofun⟩
      · obtain ⟨behind, -, rfl⟩ := hmap h
        exact ⟨_, _, rfl, nofun⟩
      · cases h
    · obtain ⟨behind, -, rfl⟩ := hmap h
      exact ⟨_, _, rfl, nofun⟩
  by_cases hq : c = '?'
  · left
    subst hq
    rw [tokensFrom] at h
    obtain ⟨behind, -, rfl⟩ := hmap h
    exact ⟨_, _, rfl, nofun⟩
  by_cases ho : c = '['
  · left
    subst ho
    rw [tokensFrom] at h
    split at h
    · next token count behind hb =>
        obtain ⟨others, -, rfl⟩ := hmap h
        exact ⟨_, _, rfl, (bracketed?_eq_some hb).2⟩
    · cases h
  · right
    rw [tokensFrom_cons hs hq ho] at h
    exact hmap h

lemma eq_of_literal?_from : ∀ {fuel position : Nat} {before : Option Char} {text : List Char}
    {pattern : List Token} {name : List Char}, text.length ≤ fuel →
    tokensFrom fuel position before text = .ok pattern → literal? pattern = some name → name = text
  | fuel, position, before, [], pattern, name, _, h, hname => by
      cases fuel <;> cases h <;> cases hname <;> rfl
  | fuel + 1, position, before, c :: rest, pattern, name, hfuel, h, hname => by
      rcases tokensFrom_cons_eq_ok h with ⟨token, behind, rfl, htoken⟩ | ⟨behind, hbehind, rfl⟩
      · cases token with
        | char c => exact absurd rfl (htoken c)
        | _ => cases hname
      · obtain ⟨more, hmore, rfl⟩ := Option.map_eq_some_iff.mp hname
        rw [eq_of_literal?_from (Nat.le_of_succ_le_succ hfuel) hbehind hmore]

/-- What stands for one text is written like that text. -/
lemma eq_of_literal? {name : List Char} (h : tokens text = .ok pattern)
    (hname : literal? pattern = some name) : name = text :=
  eq_of_literal?_from (Nat.le_refl _) h hname

/-- Only a stretch that starts with a dot finds the names that every folder has. -/
lemma dotNames_of_tokens (h : tokens text = .ok pattern) (hdot : text.head? ≠ some '.') :
    dotNames pattern = [] := by
  rw [dotNames, if_neg]
  intro hpattern
  cases text with
  | nil =>
      cases h
      cases hpattern
  | cons c rest =>
      rcases tokensFrom_cons_eq_ok h with ⟨token, behind, rfl, htoken⟩ | ⟨behind, -, rfl⟩
      · exact htoken '.' (Option.some.inj hpattern)
      · cases hpattern
        exact hdot rfl

/-! ## Where a text stands -/

/-- **Where a text stands** in a pattern does not matter for its tokens. -/
lemma toOption_tokensFrom : ∀ (fuel other position place : Nat) (before : Option Char)
    (text : List Char), text.length ≤ fuel → text.length ≤ other →
    (tokensFrom fuel position before text).toOption = (tokensFrom other place before text).toOption
  | fuel, other, position, place, before, [], _, _ => by
      cases fuel <;> cases other <;> rfl
  | fuel + 1, other + 1, position, place, before, c :: rest, hfuel, hother => by
      have hle := Nat.le_of_succ_le_succ hfuel
      have hle' := Nat.le_of_succ_le_succ hother
      by_cases hs : c = '*'
      · subst hs
        rw [tokensFrom_star, tokensFrom_star]
        split
        · rfl
        · next behind _ =>
            rw [List.length_cons] at hle hle'
            split_ifs
            · split
              · rfl
              · rw [toOption_map, toOption_map]
                congr 1
                rw [List.length_cons] at hle hle'
                exact toOption_tokensFrom _ _ _ _ _ _ (by omega) (by omega)
              · rfl
            · rfl
        · rw [toOption_map, toOption_map, toOption_tokensFrom _ _ _ _ _ _ hle hle']
      by_cases hq : c = '?'
      · subst hq
        rw [tokensFrom, tokensFrom, toOption_map, toOption_map, toOption_tokensFrom _ _ _ _ _ _ hle hle']
      by_cases ho : c = '['
      · subst ho
        rw [tokensFrom, tokensFrom]
        split
        · next token count behind hb =>
            have hbehind := (bracketed?_eq_some hb).1
            rw [toOption_map, toOption_map, toOption_tokensFrom _ _ _ _ _ _
              (Nat.le_trans hbehind hle) (Nat.le_trans hbehind hle')]
        · rfl
      · rw [tokensFrom_cons hs hq ho, tokensFrom_cons hs hq ho, toOption_map, toOption_map,
          toOption_tokensFrom _ _ _ _ _ _ hle hle']

/-! ## Escaped texts -/

/-- The token that a character of an escaped text stands for. -/
def literalToken (c : Char) : Token :=
  if c = '?' ∨ c = '*' ∨ c = '[' ∨ c = ']' then .within [.one c] else .char c

lemma escape_cons (c : Char) (text : List Char) : escape (c :: text) = escape [c] ++ escape text := by
  simp [escape]

lemma escape_append (text rest : List Char) : escape (text ++ rest) = escape text ++ escape rest :=
  List.flatMap_append

lemma bracketed?_one (hc : c ≠ '!') :
    bracketed? (c :: ']' :: rest) = some (.within [.one c], 3, rest) := by
  have huntil : untilBracket? (c :: ']' :: rest) = some ([c], rest) := by
    rw [untilBracket?, List.dropWhile_cons_of_neg (by decide), List.takeWhile_cons_of_neg (by decide)]
  rw [bracketed?, huntil]
  · rfl
  · exact fun _ h => hc (List.cons.inj h).1

/-- An escaped character in front is one token. -/
lemma tokensFrom_escape_cons (c : Char) (rest : List Char) :
    tokensFrom (fuel + 1) position before (escape [c] ++ rest) =
      (tokensFrom fuel (position + (escape [c]).length) (escape [c]).getLast? rest).map
        (literalToken c :: ·) := by
  rw [escape, List.flatMap_singleton, literalToken]
  split_ifs with hmark
  · have hc : c ≠ '!' := by
      rintro rfl
      revert hmark
      decide
    rw [List.cons_append, tokensFrom, List.cons_append, List.cons_append, List.nil_append, bracketed?_one hc]
    rfl
  · simp only [not_or] at hmark
    exact tokensFrom_cons hmark.2.1 hmark.1 hmark.2.2.1

/-- An escaped text in front stands for itself. -/
lemma tokensFrom_escape_append (text rest : List Char) : ∀ (fuel position : Nat) (before : Option Char),
    tokensFrom (text.length + fuel) position before (escape text ++ rest) =
      (tokensFrom fuel (position + (escape text).length) ((escape text).getLast?.or before) rest).map
        (text.map literalToken ++ ·) := by
  induction text with
  | nil =>
      intro fuel position before
      rw [List.length_nil, Nat.zero_add]
      exact (congrFun Except.map_id _).symm
  | cons c text ih =>
      intro fuel position before
      have hlast : (escape (c :: text)).getLast?.or before =
          (escape text).getLast?.or (escape [c]).getLast? := by
        have hone : ((escape [c]).getLast?.or before) = (escape [c]).getLast? := by
          rw [escape, List.flatMap_singleton]
          split_ifs <;> rfl
        rw [escape_cons, List.getLast?_append, Option.or_assoc, hone]
      rw [List.length_cons, Nat.add_right_comm, hlast, escape_cons, List.append_assoc,
        tokensFrom_escape_cons, ih, List.length_append, Nat.add_assoc]
      cases tokensFrom fuel (position + ((escape [c]).length + (escape text).length))
        ((escape text).getLast?.or (escape [c]).getLast?) rest <;> rfl

/-- A slash means nothing else in a pattern, so it is escaped as it is. -/
lemma getLast?_escape_eq_slash : (escape text).getLast? = some '/' ↔ text.getLast? = some '/' := by
  rcases List.eq_nil_or_concat text with rfl | ⟨front, last, rfl⟩
  · rfl
  have hlast : (escape [last]).getLast? =
      some (if last = '?' ∨ last = '*' ∨ last = '[' ∨ last = ']' then ']' else last) := by
    rw [escape, List.flatMap_singleton]
    split_ifs <;> rfl
  rw [List.concat_eq_append, escape_append, List.getLast?_append, hlast, Option.some_or, List.getLast?_concat,
    Option.some.injEq, Option.some.injEq]
  split_ifs with hmark
  · rcases hmark with rfl | rfl | rfl | rfl <;> decide
  · rfl

/-- An escaped text in front does not change whether there is something wrong with a pattern. -/
lemma toOption_tokens_escape_append {before : Option Char} (hlast : (escape text).getLast? = before) :
    (tokens (escape text ++ rest)).toOption =
      (tokensFrom rest.length 0 before rest).toOption.map (text.map literalToken ++ ·) := by
  rw [tokens, toOption_tokensFrom _ (text.length + (escape text ++ rest).length) _ 0 _ _ (Nat.le_refl _)
    (Nat.le_add_left _ _), tokensFrom_escape_append, toOption_map, hlast, Option.or_none]
  congr 1
  refine toOption_tokensFrom _ _ _ _ _ _ ?_ (Nat.le_refl _)
  rw [List.length_append]
  exact Nat.le_add_left _ _

/-- **An escaped text** has one token for each character. -/
lemma tokens_escape (text : List Char) : tokens (escape text) = .ok (text.map literalToken) := by
  refine eq_ok_of_toOption ?_
  have h : (tokens (escape text ++ [])).toOption = some (text.map literalToken ++ []) :=
    toOption_tokens_escape_append rfl
  rwa [List.append_nil, List.append_nil] at h

/-! ## Plain texts -/

/-- Whether a text has none of the characters that mean something in a pattern. -/
def IsPlain (text : List Char) : Prop := ∀ c ∈ text, c ≠ '?' ∧ c ≠ '*' ∧ c ≠ '[' ∧ c ≠ ']'

instance (text : List Char) : Decidable (IsPlain text) := List.decidableBAll _ text

/-- An escaped text is looked up as it is spelled only if nothing had to be escaped. -/
lemma literal?_map_literalToken (text : List Char) :
    literal? (text.map literalToken) = if IsPlain text then some text else none := by
  induction text with
  | nil => rfl
  | cons c text ih =>
      have hplain : IsPlain (c :: text) ↔ (c ≠ '?' ∧ c ≠ '*' ∧ c ≠ '[' ∧ c ≠ ']') ∧ IsPlain text :=
        List.forall_mem_cons
      rw [List.map_cons, literalToken]
      split_ifs with hmark hall hall
      · rw [hplain] at hall
        simp [hall.1] at hmark
      · rfl
      · rw [literal?, ih, if_pos (hplain.mp hall).2]
        rfl
      · have htext : ¬ IsPlain text := by
          intro h
          simp only [not_or] at hmark
          exact hall (hplain.mpr ⟨hmark, h⟩)
        rw [literal?, ih, if_neg htext]
        rfl

end AddonRegistry.Glob
