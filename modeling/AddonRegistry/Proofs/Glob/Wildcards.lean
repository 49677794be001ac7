import AddonRegistry.Proofs.Glob.Below
import Mathlib.Data.List.Forall2

/-!
# Stretches with question marks and stars

Without brackets a stretch is read character by character: a question mark is any character, a star any
run of them, and every other character is itself.  Which characters count as the same is a matter of its
own, since a search has two answers: a stretch without wildcards is looked up as it is spelled, and one with
wildcards is compared without the case of ASCII letters.

* `Matches` — that a text matches a stretch, where it is given which characters are alike.
* `matches_iff_of_isLiteral`, `Matches.mono` — stretches without wildcards, and other notions of alike.
* `tokensFrom_of_starsApart`, `tokens_of_starsApart` — the tokens of such a stretch, one for each character.
* `behindSome_iff`, **`fitsFrom_iff`** — a name that is not hidden fits these tokens if it matches.
* `legOf`, `legs_of_stretches` — the legs of stretches without brackets.
-/

namespace AddonRegistry.Glob

variable {alike other : Char → Char → Prop} {stretch text rest : List Char} {c d : Char}

/-! ## Matching -/

/-- That a text matches a stretch without brackets. -/
inductive Matches (alike : Char → Char → Prop) : List Char → List Char → Prop where
  | nil : Matches alike [] []
  | anyChar {stretch text : List Char} (d : Char) (hrest : Matches alike stretch text) :
      Matches alike ('?' :: stretch) (d :: text)
  | anyChars {stretch text : List Char} (run : List Char) (hrest : Matches alike stretch text) :
      Matches alike ('*' :: stretch) (run ++ text)
  | char {stretch text : List Char} {c d : Char} (hc : c ≠ '?' ∧ c ≠ '*') (halike : alike c d)
      (hrest : Matches alike stretch text) : Matches alike (c :: stretch) (d :: text)

/-- Whether a stretch has no wildcards. -/
def IsLiteral (stretch : List Char) : Prop := ∀ c ∈ stretch, c ≠ '?' ∧ c ≠ '*'

instance (stretch : List Char) : Decidable (IsLiteral stretch) := List.decidableBAll _ stretch

@[simp]
lemma matches_nil_iff : Matches alike [] text ↔ text = [] := by
  constructor
  · intro h
    cases h
    rfl
  · rintro rfl
    exact .nil

lemma matches_anyChar_iff :
    Matches alike ('?' :: stretch) text ↔ ∃ d rest, text = d :: rest ∧ Matches alike stretch rest := by
  constructor
  · intro h
    cases h with
    | anyChar d hrest => exact ⟨d, _, rfl, hrest⟩
    | char hc => exact absurd rfl hc.1
  · rintro ⟨d, rest, rfl, h⟩
    exact .anyChar d h

lemma matches_anyChars_iff :
    Matches alike ('*' :: stretch) text ↔ ∃ run rest, text = run ++ rest ∧ Matches alike stretch rest := by
  constructor
  · intro h
    cases h with
    | anyChars run hrest => exact ⟨run, _, rfl, hrest⟩
    | char hc => exact absurd rfl hc.2
  · rintro ⟨run, rest, rfl, h⟩
    exact .anyChars run h

lemma matches_char_iff (hc : c ≠ '?' ∧ c ≠ '*') : Matches alike (c :: stretch) text ↔
    ∃ d rest, text = d :: rest ∧ alike c d ∧ Matches alike stretch rest := by
  constructor
  · intro h
    cases h with
    | anyChar d hrest => exact absurd rfl hc.1
    | anyChars run hrest => exact absurd rfl hc.2
    | char _ halike hrest => exact ⟨_, _, rfl, halike, hrest⟩
  · rintro ⟨d, rest, rfl, halike, h⟩
    exact .char hc halike h

/-- A stretch without wildcards is matched by the texts that are alike, character by character. -/
lemma matches_iff_of_isLiteral (h : IsLiteral stretch) : Matches alike stretch text ↔
    List.Forall₂ alike stretch text := by
  induction stretch generalizing text with
  | nil => rw [matches_nil_iff, List.forall₂_nil_left_iff]
  | cons c stretch ih =>
      obtain ⟨hc, hrest⟩ := List.forall_mem_cons.mp h
      rw [matches_char_iff hc]
      constructor
      · rintro ⟨d, rest, rfl, halike, hmatches⟩
        exact .cons halike ((ih hrest).mp hmatches)
      · intro hall
        cases hall with
        | cons halike hall => exact ⟨_, _, rfl, halike, (ih hrest).mpr hall⟩

/-- Only the characters of the stretch and of the text are compared. -/
lemma Matches.mono (h : Matches alike stretch text)
    (hmono : ∀ c ∈ stretch, ∀ d ∈ text, alike c d → other c d) : Matches other stretch text := by
  induction h with
  | nil => exact .nil
  | anyChar d _ ih =>
      exact .anyChar d (ih fun c hc e he => hmono c (List.mem_cons_of_mem _ hc) e (List.mem_cons_of_mem _ he))
  | anyChars run _ ih =>
      exact .anyChars run
        (ih fun c hc e he => hmono c (List.mem_cons_of_mem _ hc) e (List.mem_append_right _ he))
  | char hc halike _ ih =>
      exact .char hc (hmono _ List.mem_cons_self _ List.mem_cons_self halike)
        (ih fun c hc e he => hmono c (List.mem_cons_of_mem _ hc) e (List.mem_cons_of_mem _ he))

/-! ## Tokens -/

/-- The token that a character outside brackets stands for. -/
def tokenOf (c : Char) : Token :=
  if c = '?' then .anyChar else if c = '*' then .anyChars else .char c

/-- That no two stars of a text are next to each other. -/
def StarsApart (text : List Char) : Prop := ¬ ['*', '*'] <:+: text

instance (text : List Char) : Decidable (StarsApart text) := inferInstanceAs (Decidable (¬ _))

lemma StarsApart.mono (h : StarsApart text) (hrest : rest <:+: text) : StarsApart rest :=
  fun hstars => h (hstars.trans hrest)

/-- The tokens of a text without brackets, in which no two stars are next to each other. -/
lemma tokensFrom_of_starsApart : ∀ {text : List Char} {fuel : Nat} (position : Nat) (before : Option Char),
    '[' ∉ text → StarsApart text → text.length ≤ fuel →
    tokensFrom fuel position before text = .ok (text.map tokenOf)
  | [], fuel, position, before, _, _, _ => by cases fuel <;> rfl
  | c :: text, fuel + 1, position, before, hbracket, hstars, hfuel => by
      rw [List.mem_cons, not_or] at hbracket
      obtain ⟨hc, hbracket⟩ := hbracket
      have htext : StarsApart text := hstars.mono (List.infix_cons List.infix_rfl)
      have ih (position : Nat) (before : Option Char) :
          tokensFrom fuel position before text = .ok (text.map tokenOf) :=
        tokensFrom_of_starsApart position before hbracket htext (Nat.le_of_succ_le_succ hfuel)
      by_cases hs : c = '*'
      · subst hs
        have hnext : ∀ rest, text ≠ '*' :: rest := by
          rintro rest rfl
          exact hstars ⟨[], rest, rfl⟩
        rw [tokensFrom_star]
        split
        · next rest _ => exact absurd rfl (hnext _)
        · next rest _ => exact absurd rfl (hnext _)
        · rw [ih]
          rfl
      by_cases hq : c = '?'
      · subst hq
        rw [tokensFrom, ih]
        rfl
      · rw [tokensFrom_cons hs hq (Ne.symm hc), ih, List.map_cons, tokenOf, if_neg hq, if_neg hs]
        rfl

lemma tokens_of_starsApart (hbracket : '[' ∉ text) (hstars : StarsApart text) :
    tokens text = .ok (text.map tokenOf) :=
  tokensFrom_of_starsApart 0 none hbracket hstars (Nat.le_refl _)

lemma literal?_map_tokenOf (stretch : List Char) :
    literal? (stretch.map tokenOf) = if IsLiteral stretch then some stretch else none := by
  induction stretch with
  | nil => rfl
  | cons c stretch ih =>
      have hliteral : IsLiteral (c :: stretch) ↔ (c ≠ '?' ∧ c ≠ '*') ∧ IsLiteral stretch :=
        List.forall_mem_cons
      rw [List.map_cons, tokenOf]
      by_cases hq : c = '?'
      · rw [if_pos hq, if_neg fun h => (hliteral.mp h).1.1 hq]
        rfl
      by_cases hs : c = '*'
      · rw [if_neg hq, if_pos hs, if_neg fun h => (hliteral.mp h).1.2 hs]
        rfl
      rw [if_neg hq, if_neg hs, literal?, ih]
      simp only [hliteral, ne_eq, hq, hs, not_false_eq_true, and_self, true_and]
      split_ifs <;> rfl

/-! ## Fitting -/

lemma sameLetter_comm (c d : Char) : sameLetter c d = sameLetter d c := by
  rw [sameLetter, sameLetter]
  exact decide_eq_decide.mpr eq_comm

/-- What is behind some characters of a name that is not hidden. -/
lemma behindSome_iff {behind : Bool → List Char → Bool} : ∀ {first : Bool} {name : List Char},
    (first = true → name.head? ≠ some '.') → (behindSome behind first name = true ↔
      ∃ run rest, name = run ++ rest ∧ behind (first && run.isEmpty) rest = true)
  | first, [], _ => by
      rw [behindSome]
      constructor
      · intro h
        exact ⟨[], [], rfl, by rwa [List.isEmpty_nil, Bool.and_true]⟩
      · rintro ⟨run, rest, hname, h⟩
        obtain ⟨rfl, rfl⟩ := List.append_eq_nil_iff.mp hname.symm
        rwa [List.isEmpty_nil, Bool.and_true] at h
  | first, c :: name, hfirst => by
      have hdot : (!(first && decide (c = '.'))) = true := by
        cases first with
        | false => rfl
        | true => simpa using hfirst rfl
      have ih : behindSome behind false name = true ↔ _ := behindSome_iff nofun
      rw [behindSome, hdot, Bool.true_and, Bool.or_eq_true, ih]
      constructor
      · rintro (h | ⟨run, rest, rfl, h⟩)
        · exact ⟨[], c :: name, rfl, by rwa [List.isEmpty_nil, Bool.and_true]⟩
        · exact ⟨c :: run, rest, rfl, by rwa [List.isEmpty_cons, Bool.and_false]⟩
      · rintro ⟨run, rest, hname, h⟩
        cases run with
        | nil =>
            rw [List.nil_append] at hname
            rw [List.isEmpty_nil, Bool.and_true] at h
            exact .inl (hname ▸ h)
        | cons e run =>
            obtain ⟨rfl, rfl⟩ := List.cons.inj hname
            rw [List.isEmpty_cons, Bool.and_false] at h
            exact .inr ⟨run, rest, rfl, h⟩

/-- **A name that is not hidden** fits the tokens of a stretch if and only if it matches the stretch, where
the case of ASCII letters does not matter. -/
lemma fitsFrom_iff {first : Bool} {name : List Char} (hfirst : first = true → name.head? ≠ some '.') :
    fitsFrom (stretch.map tokenOf) first name = true ↔
      Matches (fun c d => sameLetter c d = true) stretch name := by
  induction stretch generalizing first name with
  | nil => simp [fitsFrom]
  | cons c stretch ih =>
      by_cases hq : c = '?'
      · subst hq
        rw [matches_anyChar_iff]
        cases name with
        | nil => simp [fitsFrom, tokenOf, Token.isOpen]
        | cons d name =>
            have hd : (!(first && decide (d = '.'))) = true := by
              cases first with
              | false => rfl
              | true => simpa using hfirst rfl
            have hfits : fitsFrom (('?' :: stretch).map tokenOf) first (d :: name) =
                (!(first && decide (d = '.')) && true && fitsFrom (stretch.map tokenOf) false name) := rfl
            have hrest : fitsFrom (stretch.map tokenOf) false name = true ↔ _ := ih nofun
            rw [hfits, hd, Bool.true_and, Bool.true_and, hrest]
            simp
      by_cases hs : c = '*'
      · subst hs
        have hopen : fitsFrom (('*' :: stretch).map tokenOf) first name =
            behindSome (fitsFrom (stretch.map tokenOf)) first name := by
          cases name <;> rfl
        rw [hopen, behindSome_iff hfirst, matches_anyChars_iff]
        refine exists_congr fun run => exists_congr fun rest => and_congr_right fun hname => ?_
        refine ih fun h => ?_
        -- the rest starts the name only behind an empty run
        obtain ⟨hf, hrun⟩ := Bool.and_eq_true_iff.mp h
        rw [List.isEmpty_iff.mp hrun, List.nil_append] at hname
        exact hname ▸ hfirst hf
      · rw [matches_char_iff ⟨hq, hs⟩]
        cases name with
        | nil => simp [fitsFrom, tokenOf, hq, hs, Token.isOpen]
        | cons d name =>
            have htoken : tokenOf c = .char c := by rw [tokenOf, if_neg hq, if_neg hs]
            have hfits : fitsFrom (.char c :: stretch.map tokenOf) first (d :: name) =
                (true && sameLetter d c && fitsFrom (stretch.map tokenOf) false name) := rfl
            have hrest : fitsFrom (stretch.map tokenOf) false name = true ↔ _ := ih nofun
            rw [List.map_cons, htoken, hfits, Bool.true_and, Bool.and_eq_true, hrest, sameLetter_comm]
            simp

/-! ## Patterns without brackets -/

/-- The leg that a stretch without brackets stands for. -/
def legOf (stretch : List Char) : Leg :=
  if IsLiteral stretch then .named (String.ofList stretch) else .fitting (stretch.map tokenOf)

lemma legs_of_stretches (stretches : List (List Char)) :
    legs false (stretches.map (List.map tokenOf)) = stretches.map legOf := by
  induction stretches with
  | nil => rfl
  | cons stretch stretches ih =>
      have hdepth : stretch.map tokenOf ≠ [.anyDepth] := by
        intro h
        obtain ⟨c, -, hc⟩ := List.map_eq_singleton_iff.mp h
        rw [tokenOf] at hc
        split_ifs at hc
      rw [List.map_cons, legs_false_cons hdepth, literal?_map_tokenOf, ih, List.map_cons, legOf]
      split_ifs <;> rfl

/-- Whether a pattern has question marks and stars only, and names its folders: it holds no bracket, no two
stars next to each other, and no stretch that is empty or made of dots alone. -/
structure IsSimple (pattern : String) : Prop where
  bracket : '[' ∉ pattern.toList
  stars : StarsApart pattern.toList
  stretches : ∀ stretch ∈ Path.splitAtSlashes pattern.toList,
    stretch ≠ [] ∧ stretch ≠ ['.'] ∧ stretch ≠ ['.', '.']

instance (pattern : String) : Decidable (IsSimple pattern) :=
  decidable_of_iff ('[' ∉ pattern.toList ∧ StarsApart pattern.toList ∧
      ∀ stretch ∈ Path.splitAtSlashes pattern.toList,
        stretch ≠ [] ∧ stretch ≠ ['.'] ∧ stretch ≠ ['.', '.'])
    ⟨fun ⟨hbracket, hstars, hstretches⟩ => ⟨hbracket, hstars, hstretches⟩,
      fun h => ⟨h.bracket, h.stars, h.stretches⟩⟩

section

variable {pattern : String} (h : IsSimple pattern)

include h

lemma IsSimple.isAbsolute : Path.isAbsolute ⟨pattern⟩ = false := by
  rw [Path.isAbsolute, decide_eq_false_iff_not]
  intro hslash
  obtain ⟨rest, hrest⟩ := List.head?_eq_some_iff.mp hslash
  have hfirst : [] ∈ Path.splitAtSlashes pattern.toList := by
    rw [hrest, Path.splitAtSlashes, if_pos rfl]
    exact List.mem_cons_self
  exact (h.stretches _ hfirst).1 rfl

lemma IsSimple.asksForFolder : asksForFolder pattern = false := by
  rw [Glob.asksForFolder, decide_eq_false_iff_not]
  exact fun hlast => (h.stretches _ (List.mem_of_getLast? hlast)).1 rfl

/-- **There is nothing wrong with such a pattern**, and its tokens are those of its characters. -/
lemma IsSimple.patternsBelow? : patternsBelow? pattern =
    some ((Path.splitAtSlashes pattern.toList).map (List.map tokenOf)) := by
  have hall : (Path.splitAtSlashes pattern.toList).mapM tokens =
      .ok ((Path.splitAtSlashes pattern.toList).map (List.map tokenOf)) := by
    rw [mapM_eq_ok_iff, List.map_map]
    refine List.map_congr_left fun stretch hs => ?_
    have hpart := Path.infix_of_mem_splitAtSlashes hs
    exact tokens_of_starsApart (fun hb => h.bracket (hpart.subset hb)) (h.stars.mono hpart)
  have hwhole := tokensFrom_of_starsApart 0 (some '/') h.bracket h.stars (Nat.le_refl _)
  rw [Glob.patternsBelow?, stretchesBelow, h.asksForFolder, hwhole, if_neg Bool.false_ne_true, hall]
  rfl

end

end AddonRegistry.Glob
