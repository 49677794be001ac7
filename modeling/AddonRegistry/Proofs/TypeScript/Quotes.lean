import AddonRegistry.Proofs.TypeScript.Lexemes

/-!
# What stands between quotes

A text that is put between single quotes as it is becomes a string again, but its value is the text
only if nothing in it has to be escaped.  Otherwise the string ends early, or an escape sequence makes
it shorter, or the quote that should end it is escaped and becomes part of it.

* `Takes` — that something goes on behind the beginning of a text, in which there is no quote.
* `escapeSequence_cons_eq_ok` — an escape sequence takes no quote, unless that is what it escapes.
* `stringTail_quoted` — the code points of such a string.
* **`isQuotable_of_scan`** — the string has the text as its value only if nothing is to be escaped.
-/

namespace AddonRegistry.TypeScript

/-! ## Escape sequences -/

/-- That a text goes on with `rest` behind a beginning in which there is no quote. -/
def Takes (text rest : List Char) : Prop := ∃ taken, text = taken ++ rest ∧ '\x27' ∉ taken

variable {text rest last : List Char} {c : Char}

lemma Takes.refl (text : List Char) : Takes text text := ⟨[], rfl, by simp⟩

lemma Takes.cons (hc : c ≠ '\x27') (h : Takes text rest) : Takes (c :: text) rest := by
  obtain ⟨taken, rfl, ht⟩ := h
  exact ⟨c :: taken, rfl, by simp [hc.symm, ht]⟩

/-- In front of a quote, only what stands there can be taken. -/
lemma Takes.before_quote (h : Takes (text ++ '\x27' :: last) rest) (htext : '\x27' ∉ text) :
    ∃ left, rest = left ++ '\x27' :: last ∧ left.length ≤ text.length ∧ '\x27' ∉ left := by
  obtain ⟨taken, he, ht⟩ := h
  rcases List.append_eq_append_iff.mp he with ⟨more, rfl, hmore⟩ | ⟨left, rfl, hleft⟩
  · cases more with
    | nil =>
        rw [List.nil_append] at hmore
        exact ⟨[], hmore.symm, Nat.zero_le _, by simp⟩
    | cons c more =>
        rw [List.cons_append, List.cons.injEq] at hmore
        simp [← hmore.1] at ht
  · refine ⟨left, hleft, by simp, fun hm => htext (List.mem_append_right _ hm)⟩

lemma ne_quote_of_hexValue? {d : Nat} (h : hexValue? c = some d) : c ≠ '\x27' := by
  rintro rfl
  cases h

lemma takes_of_takeHex {n : Nat} : ∀ {count : Nat} {text : List Char} {value : Nat},
    takeHex count text value = some (n, rest) → Takes text rest
  | 0, text, value, h => by
      cases h
      exact .refl _
  | count + 1, [], value, h => by cases h
  | count + 1, c :: text, value, h => by
      rw [takeHex, Option.bind_eq_some_iff] at h
      obtain ⟨d, hd, h⟩ := h
      exact (takes_of_takeHex h).cons (ne_quote_of_hexValue? hd)

lemma takes_of_takeHexRun {n : Option Nat} : ∀ {text : List Char} {value : Option Nat},
    takeHexRun text value = (n, rest) → Takes text rest
  | [], value, h => by
      cases h
      exact .refl _
  | c :: text, value, h => by
      rw [takeHexRun] at h
      split at h
      · next d hd => exact (takes_of_takeHexRun h).cons (ne_quote_of_hexValue? hd)
      · cases h
        exact .refl _

lemma takes_of_unicodeEscape {n : Nat} (h : unicodeEscape ('u' :: text) = .ok (n, rest)) :
    Takes text rest := by
  unfold unicodeEscape at h
  split at h
  · next he =>
      cases he
      split at h
      · next hrun =>
          split_ifs at h
          split at h
          · cases h
            obtain ⟨taken, rfl, ht⟩ := takes_of_takeHexRun hrun
            exact Takes.cons (by decide) ⟨taken ++ ['\x7d'], by simp, by simp [ht]⟩
          · cases h
      · cases h
  · next he =>
      cases he
      split at h
      · next hhex =>
          cases h
          exact takes_of_takeHex hhex
      · cases h
  · cases h

lemma ne_quote_of_isOctalDigit (h : isOctalDigit c) : c ≠ '\x27' := by
  rintro rfl
  simp [isOctalDigit] at h

lemma takes_of_takeOctal {n : Nat} : ∀ {count : Nat} {text : List Char} {value : Nat},
    takeOctal count text value = (n, rest) → Takes text rest
  | 0, text, value, h => by
      simp only [takeOctal, Prod.mk.injEq] at h
      rw [h.2]
      exact .refl _
  | count + 1, [], value, h => by
      simp only [takeOctal, Prod.mk.injEq] at h
      rw [h.2]
      exact .refl _
  | count + 1, c :: text, value, h => by
      rw [takeOctal] at h
      split_ifs at h with hc
      · rw [Bool.and_eq_true] at hc
        exact (takes_of_takeOctal h).cons (ne_quote_of_isOctalDigit hc.1)
      · cases h
        exact .refl _

/-- **An escape sequence** stands for a quote, or takes none. -/
lemma escapeSequence_cons_eq_ok {e : Escaped} (h : escapeSequence false (c :: text) = .ok e) :
    c = '\x27' ∧ e.point = some 39 ∧ e.rest = text ∨ c ≠ '\x27' ∧ Takes text e.rest := by
  unfold escapeSequence at h
  split at h
  case h_1 he => cases he
  case h_2 he =>
    cases he
    cases h
    exact .inr ⟨by decide, Takes.cons (by decide) (.refl _)⟩
  case h_13 he =>
    cases he
    split at h
    · next hhex =>
        cases h
        exact .inr ⟨by decide, takes_of_takeHex hhex⟩
    · cases h
  case h_14 he =>
    cases he
    split at h
    · next hescape =>
        cases h
        exact .inr ⟨by decide, takes_of_unicodeEscape hescape⟩
    · cases h
  case h_15 he =>
    cases he
    split_ifs at h with hoctal hzero
    · cases h
      exact .inr ⟨ne_quote_of_isOctalDigit hoctal, .refl _⟩
    · cases h
      exact .inr ⟨ne_quote_of_isOctalDigit hoctal, takes_of_takeOctal rfl⟩
    · cases h
      by_cases hc : c = '\x27'
      · exact .inl ⟨hc, by rw [hc]; rfl, rfl⟩
      · exact .inr ⟨hc, .refl _⟩
  all_goals
    next he =>
    cases he
    cases h
    exact .inr ⟨by decide, .refl _⟩

/-! ## Strings -/

/-- What the code points of a string can be whose text up to the first quote in it is known: the same
as that text, in which nothing has to be escaped; or fewer; or a quote is among as many of them. -/
def Renders (before : List Char) (points : List Nat) : Prop :=
  (points = before.map Char.toNat ∧ isQuotable before) ∨ points.length < before.length ∨
    39 ∈ points.take before.length

/-- What an escape sequence stands for only adds to what can go wrong. -/
lemma Renders.escaped {left before : List Char} {point : Option Nat} {points : List Nat}
    (h : Renders left points) (hlength : left.length + 2 ≤ before.length) :
    Renders before (point.toList ++ points) := by
  have hpoint : point.toList.length ≤ 1 := by cases point <;> simp
  right
  rcases h with ⟨rfl, -⟩ | hshort | hquote
  · left
    rw [List.length_append, List.length_map]
    omega
  · left
    rw [List.length_append]
    omega
  · right
    rw [List.take_append]
    refine List.mem_append_right _ (List.mem_of_mem_take (i := left.length) ?_)
    rwa [List.take_take, Nat.min_eq_left (by omega)]

namespace Lexeme

/-- A string begins with what has been read of it. -/
lemma exists_points_of_stringTail {quote : Char} {value : Option String} {rest : List Char}
    {last : Nat} : ∀ {fuel : Nat} {text : List Char} {line : Nat} {points : List Nat},
      stringTail quote fuel text line points = ⟨.string value, rest, last⟩ →
      ∃ more, value = (textOfPoints? (points.reverse ++ more)).map String.ofList
  | 0, text, line, points, h => by
      rw [stringTail] at h
      cases h
      exact ⟨[], by rw [List.append_nil]⟩
  | fuel + 1, [], line, points, h => by
      rw [stringTail] at h
      cases h
      exact ⟨[], by rw [List.append_nil]⟩
  | fuel + 1, c :: text, line, points, h => by
      by_cases hback : c = '\\'
      · subst hback
        rw [stringTail] at h
        split at h
        · next e he =>
            obtain ⟨more, hmore⟩ := exists_points_of_stringTail h
            refine ⟨e.point.toList ++ more, ?_⟩
            rw [hmore, List.reverse_append, List.append_assoc]
            cases e.point <;> rfl
        · cases h
      · rw [stringTail] at h
        · split_ifs at h
          · cases h
            exact ⟨[], by rw [List.append_nil]⟩
          · cases h
            exact ⟨[], by rw [List.append_nil]⟩
          · obtain ⟨more, hmore⟩ := exists_points_of_stringTail h
            exact ⟨c.toNat :: more, by rw [hmore, List.reverse_cons, List.append_assoc]; rfl⟩
        · exact fun he => absurd he hback

/-- What starts with a quote is a string or no token at all. -/
lemma token_stringTail (quote : Char) : ∀ (fuel : Nat) (text : List Char) (line : Nat)
    (points : List Nat), (∃ value, (stringTail quote fuel text line points).token = .string value) ∨
      ∃ fault, (stringTail quote fuel text line points).token = .bad fault
  | 0, text, line, points => by
      rw [stringTail]
      exact .inl ⟨_, rfl⟩
  | fuel + 1, [], line, points => by
      rw [stringTail]
      exact .inl ⟨_, rfl⟩
  | fuel + 1, c :: text, line, points => by
      by_cases hback : c = '\\'
      · subst hback
        rw [stringTail]
        split
        · exact token_stringTail quote fuel _ _ _
        · exact .inr ⟨_, rfl⟩
      · rw [stringTail]
        · split_ifs
          · exact .inl ⟨_, rfl⟩
          · exact .inl ⟨_, rfl⟩
          · exact token_stringTail quote fuel _ _ _
        · exact fun he => absurd he hback

/-- **The code points** of a string, in which a quote stands as it is. -/
lemma stringTail_quoted {value : Option String} {rest : List Char} {last : Nat} (tail : List Char) :
    ∀ {fuel : Nat} {before : List Char} {line : Nat} {points : List Nat}, '\x27' ∉ before →
      stringTail '\x27' fuel (before ++ '\x27' :: tail) line points = ⟨.string value, rest, last⟩ →
      ∃ more, value = (textOfPoints? (points.reverse ++ more)).map String.ofList ∧
        Renders before more
  | fuel, [], line, points, _, h => by
      refine ⟨[], ?_, .inl ⟨rfl, rfl⟩⟩
      rw [List.append_nil]
      cases fuel with
      | zero =>
          rw [stringTail] at h
          cases h
          rfl
      | succ fuel =>
          rw [List.nil_append, stringTail, if_pos rfl] at h
          · cases h
            rfl
          · decide
  | 0, c :: before, line, points, _, h => by
      rw [stringTail] at h
      cases h
      exact ⟨[], by rw [List.append_nil], .inr (.inl (by simp))⟩
  | fuel + 1, c :: before, line, points, hbefore, h => by
      rw [List.mem_cons, not_or] at hbefore
      rw [List.cons_append] at h
      by_cases hback : c = '\\'
      · subst hback
        rw [stringTail] at h
        split at h
        · next e he =>
            cases before with
            | nil =>
                -- the quote behind the backslash is escaped, and the first of the points
                rw [List.nil_append] at he
                rcases escapeSequence_cons_eq_ok he with ⟨-, hpoint, -⟩ | ⟨hne, -⟩
                · obtain ⟨more, hmore⟩ := exists_points_of_stringTail h
                  refine ⟨39 :: more, ?_, .inr (.inr (by simp))⟩
                  rw [hmore, hpoint, List.reverse_append, List.append_assoc]
                  rfl
                · exact absurd rfl hne
            | cons d before =>
                rw [List.mem_cons, not_or] at hbefore
                rw [List.cons_append] at he
                rcases escapeSequence_cons_eq_ok he with ⟨hd, -, -⟩ | ⟨-, htakes⟩
                · exact absurd hd.symm hbefore.2.1
                · obtain ⟨left, hleft, hlength, hquote⟩ := htakes.before_quote hbefore.2.2
                  rw [hleft] at h
                  obtain ⟨more, hmore, hrenders⟩ := stringTail_quoted tail hquote h
                  refine ⟨e.point.toList ++ more, ?_, hrenders.escaped (by simpa using hlength)⟩
                  rw [hmore, List.reverse_append, List.append_assoc]
                  cases e.point <;> rfl
        · cases h
      · rw [stringTail, if_neg fun he => hbefore.1 he.symm] at h
        · split_ifs at h with hend
          · cases h
            exact ⟨[], by rw [List.append_nil], .inr (.inl (by simp))⟩
          · obtain ⟨more, hmore, hrenders⟩ := stringTail_quoted tail hbefore.2 h
            refine ⟨c.toNat :: more, by rw [hmore, List.reverse_cons, List.append_assoc]; rfl, ?_⟩
            rcases hrenders with ⟨rfl, hquotable⟩ | hshort | hquote
            · rw [Bool.or_eq_true, not_or, decide_eq_true_eq, decide_eq_true_eq] at hend
              have hself : isQuotable (c :: before) := by
                rw [isQuotable, List.all_cons, ← isQuotable, hquotable]
                simp [hback, hend, Ne.symm hbefore.1]
              exact .inl ⟨rfl, hself⟩
            · exact .inr (.inl (by simpa using hshort))
            · exact .inr (.inr (by simp [hquote]))
        · exact fun he => absurd he hback

end Lexeme

/-! ## Values -/

/-- A text has at most as many characters as code points, and a quote among the first of these is one
among the first characters: only the halves of a pair are drawn together, and neither is a quote. -/
lemma of_textOfPoints? (points : List Nat) : ∀ {value : List Char},
    textOfPoints? points = some value → value.length ≤ points.length ∧
      ∀ count, 39 ∈ points.take count → '\x27' ∈ value.take count := by
  induction points using textOfPoints?.induct with
  | case1 => simp [textOfPoints?]
  | case2 high hhigh low rest hlow ih =>
      intro value h
      unfold textOfPoints? at h
      simp only [hhigh, hlow, if_true] at h
      obtain ⟨others, hothers, rfl⟩ := Option.map_eq_some_iff.mp h
      obtain ⟨hlength, htake⟩ := ih hothers
      simp only [Bool.and_eq_true, decide_eq_true_eq] at hhigh hlow
      refine ⟨by simp only [List.length_cons]; omega, fun count hquote => ?_⟩
      rcases count with - | - | count
      · simp at hquote
      · rw [List.take_succ_cons, List.take_zero, List.mem_singleton] at hquote
        omega
      · simp only [List.take_succ_cons, List.mem_cons] at hquote ⊢
        rcases hquote with hq | hq | hq
        · omega
        · omega
        · exact .inr (List.take_subset_take_left _ (Nat.le_succ count) (htake count hq))
  | case3 high hhigh low rest hlow =>
      intro value h
      unfold textOfPoints? at h
      simp [hhigh, hlow] at h
  | case4 high hhigh =>
      intro value h
      unfold textOfPoints? at h
      simp [hhigh] at h
  | case5 high rest hhigh hlow =>
      intro value h
      unfold textOfPoints? at h
      simp [hhigh, hlow] at h
  | case6 high rest hhigh hlow ih =>
      intro value h
      unfold textOfPoints? at h
      rw [if_neg hhigh, if_neg hlow] at h
      obtain ⟨others, hothers, rfl⟩ := Option.map_eq_some_iff.mp h
      obtain ⟨hlength, htake⟩ := ih hothers
      refine ⟨by simpa using hlength, fun count hquote => ?_⟩
      cases count with
      | zero => simp at hquote
      | succ count =>
          rw [List.take_succ_cons, List.mem_cons] at hquote ⊢
          rcases hquote with rfl | hq
          · exact .inl rfl
          · exact .inr (htake count hq)

/-- **A string** in single quotes has what stands between them as its value only if nothing there has
to be escaped. -/
theorem isQuotable_of_scan {name tail : List Char} {fuel line : Nat}
    (h : (Lexeme.scan fuel ('\x27' :: (name ++ '\x27' :: tail)) line).token =
      .string (some (String.ofList name))) : isQuotable name := by
  -- the first quote stands in the name or right behind it
  obtain ⟨before, after, more, hbefore, hname, htext⟩ : ∃ before after more, '\x27' ∉ before ∧
      name = before ++ after ∧ name ++ '\x27' :: tail = before ++ '\x27' :: more := by
    by_cases hm : '\x27' ∈ name
    · obtain ⟨before, after, hname, hbefore⟩ := List.eq_append_cons_of_mem hm
      exact ⟨before, '\x27' :: after, after ++ '\x27' :: tail, hbefore, hname, by simp [hname]⟩
    · exact ⟨name, [], tail, hm, by simp, rfl⟩
  rw [htext] at h
  change (Lexeme.stringTail '\x27' fuel (before ++ '\x27' :: more) line []).token = _ at h
  rcases hscan : Lexeme.stringTail '\x27' fuel (before ++ '\x27' :: more) line [] with ⟨token, rest, last⟩
  rw [hscan] at h
  obtain rfl : token = .string (some (String.ofList name)) := h
  obtain ⟨points, hvalue, hrenders⟩ := Lexeme.stringTail_quoted more hbefore hscan
  obtain ⟨value, hpoints, heq⟩ := Option.map_eq_some_iff.mp hvalue.symm
  obtain rfl := String.ofList_injective heq
  obtain ⟨hlength, htake⟩ := of_textOfPoints? points hpoints
  rcases hrenders with ⟨rfl, hquotable⟩ | hshort | hquote
  · -- nothing is escaped, so the string ends at the end of the name
    rw [List.reverse_nil, List.nil_append, textOfPoints?_map_toNat] at hpoints
    rwa [← Option.some.inj hpoints]
  · rw [hname, List.length_append] at hlength
    omega
  · have hm := htake before.length hquote
    rw [hname, List.take_left] at hm
    exact absurd hm hbefore

end AddonRegistry.TypeScript
