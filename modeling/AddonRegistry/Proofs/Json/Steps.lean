import AddonRegistry.Json.Skip
import AddonRegistry.Proofs.Json.Grammar
import Mathlib.Data.List.TakeWhile

/-!
# Readers of JSON, by the text that they leave

Where a reader stands in lines and columns only shows in faults.  So a reader that succeeds is told by the
text that it leaves: `Stops` for one that finds an end, and `Yields` for one that also has a result.

* `stops_bind`, `yields_bind` — one reader after another.
* `exists_blanks`, `rest_skipBlanks` — blanks are skipped as far as they go.
* `stops_readWord` — a word.
* `exists_unsigned_of_stops`, `stops_skipNumber` — a number is skipped, as far as it can go on.
-/

namespace AddonRegistry.Json

/-- That the end of something is found in front of a text. -/
def Stops (result : Except Fault Cursor) (rest : List Char) : Prop :=
  ∃ last, result = .ok last ∧ last.rest = rest

/-- That something is read in front of a text. -/
def Yields {α : Type} (result : Except Fault (α × Cursor)) (x : α) (rest : List Char) : Prop :=
  ∃ last, result = .ok (x, last) ∧ last.rest = rest

variable {α β : Type} {cur : Cursor} {text rest before : List Char} {x : α} {c : Char} {cause : Cause}

/-! ## Outcomes -/

@[simp] lemma stops_ok {last : Cursor} : Stops (.ok last) rest ↔ last.rest = rest :=
  ⟨fun ⟨_, h, hrest⟩ => by cases h; exact hrest, fun h => ⟨last, rfl, h⟩⟩

@[simp] lemma yields_ok {last : Cursor} {y : α} :
    Yields (.ok (y, last)) x rest ↔ y = x ∧ last.rest = rest :=
  ⟨fun ⟨_, h, hrest⟩ => by cases h; exact ⟨rfl, hrest⟩, fun ⟨h, hrest⟩ => ⟨last, by rw [h], hrest⟩⟩

@[simp] lemma not_stops_fault : ¬ Stops (cur.fault cause) rest := nofun

@[simp] lemma not_yields_fault : ¬ Yields (cur.fault cause) x rest := nofun

lemma exists_faultBehind : ∀ (bytes : Nat) (cur : Cursor),
    ∃ fault, Cursor.faultBehind (α := α) cause bytes cur = .error fault
  | 0, cur => ⟨_, by rw [Cursor.faultBehind, Cursor.fault]⟩
  | bytes + 1, cur => by
      rw [Cursor.faultBehind]
      split
      · exact ⟨_, rfl⟩
      · next c rest _ =>
          have := c.utf8Size_pos
          split_ifs
          · exact exists_faultBehind (bytes + 1 - c.utf8Size) cur.next
          · exact ⟨_, rfl⟩
  termination_by bytes => bytes

lemma faultAhead_ne_ok : cur.faultAhead cause ≠ .ok x := by
  obtain ⟨fault, h⟩ := exists_faultBehind 1 cur
  rw [Cursor.faultAhead, h]
  exact nofun

@[simp] lemma not_stops_faultBehind {bytes : Nat} :
    ¬ Stops (Cursor.faultBehind cause bytes cur) rest := by
  obtain ⟨fault, h⟩ := exists_faultBehind bytes cur
  rw [h]
  exact nofun

@[simp] lemma not_yields_faultBehind {bytes : Nat} :
    ¬ Yields (Cursor.faultBehind cause bytes cur) x rest := by
  obtain ⟨fault, h⟩ := exists_faultBehind bytes cur
  rw [h]
  exact nofun

@[simp] lemma not_stops_faultAhead : ¬ Stops (cur.faultAhead cause) rest := not_stops_faultBehind

@[simp] lemma not_yields_faultAhead : ¬ Yields (cur.faultAhead cause) x rest := not_yields_faultBehind

lemma stops_bind {first : Except Fault β} {then_ : β → Except Fault Cursor} :
    Stops (first >>= then_) rest ↔ ∃ y, first = .ok y ∧ Stops (then_ y) rest := by
  cases first with
  | error fault => exact ⟨nofun, nofun⟩
  | ok y => exact ⟨fun h => ⟨y, rfl, h⟩, fun ⟨_, h, hrest⟩ => by cases h; exact hrest⟩

lemma yields_bind {first : Except Fault β} {then_ : β → Except Fault (α × Cursor)} :
    Yields (first >>= then_) x rest ↔ ∃ y, first = .ok y ∧ Yields (then_ y) x rest := by
  cases first with
  | error fault => exact ⟨nofun, nofun⟩
  | ok y => exact ⟨fun h => ⟨y, rfl, h⟩, fun ⟨_, h, hrest⟩ => by cases h; exact hrest⟩

/-- Nothing comes of a fault that is reported behind what is read first. -/
lemma not_yields_fault_behind {first : Except Fault β} {behind : β → Cursor} {cause : β → Cause} :
    ¬ Yields (first >>= fun y => (behind y).fault (cause y)) x rest := by
  intro h
  obtain ⟨y, -, h⟩ := yields_bind.mp h
  exact not_yields_fault h

/-- What is read does not matter. -/
lemma stops_map {first : Except Fault (α × Cursor)} :
    Stops (first.map (·.2)) rest ↔ ∃ x, Yields first x rest := by
  cases first with
  | error fault => exact ⟨nofun, nofun⟩
  | ok found =>
      exact ⟨fun h => ⟨found.1, found.2, rfl, stops_ok.mp h⟩, fun ⟨_, _, h, hrest⟩ => by
        cases h
        exact stops_ok.mpr hrest⟩

/-! ## Blanks and words -/

lemma rest_next (h : cur.rest = c :: rest) : cur.next.rest = rest := by
  unfold Cursor.next
  split <;> simp_all

lemma rest_skip : ∀ (count : Nat) (cur : Cursor), (Cursor.skip count cur).rest = cur.rest.drop count
  | 0, cur => rfl
  | count + 1, cur => by
      rw [Cursor.skip, rest_skip count]
      cases h : cur.rest with
      | nil => simp [Cursor.next, h]
      | cons c rest => rw [rest_next h, List.drop_succ_cons]

/-- What is skipped as far as a property holds. -/
lemma rest_skip_takeWhile (p : Char → Bool) (cur : Cursor) :
    (Cursor.skip (cur.rest.takeWhile p).length cur).rest = cur.rest.dropWhile p := by
  rw [rest_skip]
  calc cur.rest.drop (cur.rest.takeWhile p).length
      = (cur.rest.takeWhile p ++ cur.rest.dropWhile p).drop (cur.rest.takeWhile p).length := by
        rw [List.takeWhile_append_dropWhile]
    _ = cur.rest.dropWhile p := List.drop_left

/-- What is skipped of a text whose beginning has a property, and what follows has not. -/
lemma dropWhile_of_append {p : Char → Bool} (h : ∀ c ∈ before, p c) (hrest : ∀ c ∈ rest.head?, ¬ p c) :
    (before ++ rest).dropWhile p = rest := by
  rw [List.dropWhile_append_of_pos h]
  cases rest with
  | nil => rfl
  | cons c rest => exact List.dropWhile_cons_of_neg (hrest c rfl)

lemma mem_blanks : c ∈ blanks ↔ (c = ' ' || c = '\n' || c = '\t' || c = '\r') = true := by
  simp [blanks, or_assoc]

lemma exists_blanks (cur : Cursor) :
    ∃ before, IsBlank before ∧ cur.rest = before ++ cur.skipBlanks.rest := by
  rw [Cursor.skipBlanks, rest_skip_takeWhile]
  refine ⟨cur.rest.takeWhile fun c => c = ' ' || c = '\n' || c = '\t' || c = '\r',
    fun c hc => mem_blanks.mpr ?_, List.takeWhile_append_dropWhile.symm⟩
  exact List.mem_takeWhile_imp (p := fun c => c = ' ' || c = '\n' || c = '\t' || c = '\r') hc

lemma rest_skipBlanks_of_head? (hbefore : IsBlank before) (hrest : ∀ c ∈ rest.head?, c ∉ blanks)
    (h : cur.rest = before ++ rest) : cur.skipBlanks.rest = rest := by
  rw [Cursor.skipBlanks, rest_skip_takeWhile, h]
  exact dropWhile_of_append (fun d hd => mem_blanks.mp (hbefore d hd)) fun d hd hblank =>
    hrest d hd (mem_blanks.mpr hblank)

lemma rest_skipBlanks (hbefore : IsBlank before) (hc : c ∉ blanks)
    (h : cur.rest = before ++ c :: rest) : cur.skipBlanks.rest = c :: rest :=
  rest_skipBlanks_of_head? hbefore (by rintro d ⟨⟩; exact hc) h

lemma rest_skipBlanks_of_isBlank (h : IsBlank cur.rest) : cur.skipBlanks.rest = [] :=
  rest_skipBlanks_of_head? h nofun (List.append_nil _).symm

lemma stops_readWord : ∀ {word : List Char} {cur : Cursor},
    Stops (cur.readWord word) rest ↔ cur.rest = word ++ rest
  | [], cur => stops_ok
  | c :: word, cur => by
      rw [Cursor.readWord]
      split
      · next h => simp [h]
      · next d behind h =>
          rw [h, List.cons_append, List.cons.injEq]
          split_ifs with hcd
          · rw [stops_readWord, rest_next h]
            exact ⟨fun hrest => ⟨hcd.symm, hrest⟩, And.right⟩
          · exact iff_of_false not_stops_faultAhead fun he => hcd he.1.symm

/-! ## Numbers -/

/-- Whether a number cannot go on with a text. -/
def EndsNumber (rest : List Char) : Prop :=
  ∀ c ∈ rest.head?, ¬ c.isDigit ∧ c ≠ '.' ∧ c ≠ 'e' ∧ c ≠ 'E'

lemma rest_skipDigits (cur : Cursor) : (skipDigits cur).rest = cur.rest.dropWhile Char.isDigit :=
  rest_skip_takeWhile _ cur

lemma exists_digits (cur : Cursor) :
    cur.rest = digitsAt cur ++ (skipDigits cur).rest ∧ ∀ c ∈ digitsAt cur, c.isDigit := by
  refine ⟨?_, fun c hc => List.mem_takeWhile_imp hc⟩
  rw [rest_skipDigits]
  exact List.takeWhile_append_dropWhile.symm

/-- All digits are read that there are. -/
lemma digitsAt_of_append {digits : List Char} (hdigits : ∀ c ∈ digits, c.isDigit)
    (hrest : ∀ c ∈ rest.head?, ¬ c.isDigit) (h : cur.rest = digits ++ rest) :
    digitsAt cur = digits ∧ (skipDigits cur).rest = rest := by
  have hskip : (skipDigits cur).rest = rest := by
    rw [rest_skipDigits, h]
    exact dropWhile_of_append hdigits hrest
  have hall := (exists_digits cur).1
  rw [hskip, h] at hall
  exact ⟨(List.append_cancel_right hall).symm, hskip⟩

lemma startsExponent_iff :
    startsExponent cur = true ↔ ∃ letter rest, cur.rest = letter :: rest ∧ letter ∈ ['e', 'E'] := by
  rw [startsExponent]
  split
  · next behind h => simp [h]
  · next behind h => simp [h]
  · next he hE =>
      refine iff_of_false nofun ?_
      rintro ⟨letter, rest, h, hletter⟩
      rcases List.mem_cons.mp hletter with rfl | hletter
      · exact he rest h
      · rw [List.mem_singleton.mp hletter] at h
        exact hE rest h

/-- The cursor behind a sign, if one comes next. -/
def behindSign (cur : Cursor) : Cursor :=
  match cur.rest with
  | '-' :: _ | '+' :: _ => cur.next
  | _ => cur

lemma exists_sign (cur : Cursor) :
    ∃ sign ∈ [[], ['+'], ['-']], cur.rest = sign ++ (behindSign cur).rest := by
  rw [behindSign]
  split
  · next behind h => exact ⟨['-'], by simp, by rw [h, rest_next h]; rfl⟩
  · next behind h => exact ⟨['+'], by simp, by rw [h, rest_next h]; rfl⟩
  · exact ⟨[], by simp, rfl⟩

lemma rest_behindSign {sign : List Char} (hsign : sign ∈ [[], ['+'], ['-']])
    (hrest : ∀ c ∈ rest.head?, c.isDigit) (h : cur.rest = sign ++ rest) :
    (behindSign cur).rest = rest := by
  rw [behindSign]
  simp only [List.mem_cons, List.not_mem_nil, or_false] at hsign
  rcases hsign with rfl | rfl | rfl
  · rw [List.nil_append] at h
    split
    · next behind hminus =>
        rw [← h, hminus] at hrest
        exact absurd (hrest '-' rfl) (by decide)
    · next behind hplus =>
        rw [← h, hplus] at hrest
        exact absurd (hrest '+' rfl) (by decide)
    · exact h
  · simp only [h, List.cons_append, List.nil_append]
    exact rest_next h
  · simp only [h, List.cons_append, List.nil_append]
    exact rest_next h

lemma isDigits_digitsAt (h : digitsAt cur ≠ []) : IsDigits (digitsAt cur) := ⟨h, (exists_digits cur).2⟩

lemma isDigit_of_mem_head? {digits : List Char} (h : IsDigits digits) :
    ∀ c ∈ (digits ++ rest).head?, c.isDigit := by
  obtain ⟨hne, hdigits⟩ := h
  cases digits with
  | nil => exact absurd rfl hne
  | cons d digits =>
      rintro c ⟨⟩
      exact hdigits _ List.mem_cons_self

lemma skipExponent_eq (cur : Cursor) :
    skipExponent cur =
      if (digitsAt (behindSign cur)).isEmpty then (behindSign cur).faultAhead .invalidNumber
      else .ok (skipDigits (behindSign cur)) := rfl

/-- The cursor behind an exponent, if there is one. -/
def pastExponent (cur : Cursor) : Except Fault Cursor :=
  if startsExponent cur then skipExponent cur.next else .ok cur

/-- The cursor behind a fraction and an exponent, as far as they are there. -/
def pastFraction (cur : Cursor) : Except Fault Cursor :=
  match cur.rest with
  | '.' :: _ =>
      if (digitsAt cur.next).isEmpty then cur.next.faultAhead .invalidNumber
      else pastExponent (skipDigits cur.next)
  | _ => pastExponent cur

lemma skipNumber_eq (cur : Cursor) :
    skipNumber cur =
      match digitsAt cur with
      | [] => cur.faultAhead .invalidNumber
      | '0' :: _ :: _ => cur.next.faultAhead .invalidNumber
      | _ => pastFraction (skipDigits cur) := rfl

lemma exists_exponent_of_stops (h : Stops (pastExponent cur) rest) :
    ∃ exponent, IsExponent exponent ∧ cur.rest = exponent ++ rest := by
  rw [pastExponent] at h
  split_ifs at h with hstarts
  · obtain ⟨letter, behind, hletter, hmem⟩ := startsExponent_iff.mp hstarts
    obtain ⟨sign, hsign, hbehind⟩ := exists_sign cur.next
    rw [skipExponent_eq] at h
    split_ifs at h with hempty
    · exact absurd h not_stops_faultAhead
    · rw [List.isEmpty_iff] at hempty
      rw [stops_ok] at h
      refine ⟨letter :: (sign ++ digitsAt (behindSign cur.next)),
        .inr ⟨letter, sign, _, rfl, hmem, hsign, isDigits_digitsAt hempty⟩, ?_⟩
      rw [hletter, ← rest_next hletter, hbehind, (exists_digits _).1, h]
      simp
  · exact ⟨[], .inl rfl, stops_ok.mp h⟩

lemma stops_pastExponent {exponent : List Char} (hexponent : IsExponent exponent)
    (hrest : EndsNumber rest) (h : cur.rest = exponent ++ rest) : Stops (pastExponent cur) rest := by
  rw [pastExponent]
  rcases hexponent with rfl | ⟨letter, sign, digits, rfl, hletter, hsign, hdigits⟩
  · rw [if_neg, stops_ok]
    · exact h
    · intro hstarts
      obtain ⟨letter, behind, hletter, hmem⟩ := startsExponent_iff.mp hstarts
      rw [List.nil_append] at h
      obtain ⟨-, -, he, hE⟩ := hrest letter (by rw [← h, hletter]; rfl)
      simp [he, hE] at hmem
  · rw [List.cons_append, List.append_assoc] at h
    obtain ⟨hall, hlast⟩ := digitsAt_of_append hdigits.2 (fun c hc => (hrest c hc).1)
      (rest_behindSign hsign (isDigit_of_mem_head? hdigits) (rest_next h))
    rw [if_pos (startsExponent_iff.mpr ⟨letter, _, h, hletter⟩), skipExponent_eq, hall,
      if_neg (by simpa using hdigits.1), stops_ok]
    exact hlast

/-- Neither a digit nor a point follows the last digit in front of an exponent. -/
lemma not_isDigit_of_mem_head? {exponent : List Char} (hexponent : IsExponent exponent)
    (hrest : EndsNumber rest) : ∀ c ∈ (exponent ++ rest).head?, ¬ c.isDigit ∧ c ≠ '.' := by
  rcases hexponent with rfl | ⟨letter, sign, digits, rfl, hletter, -, -⟩
  · exact fun c hc => ⟨(hrest c hc).1, (hrest c hc).2.1⟩
  · rintro c ⟨⟩
    simp only [List.mem_cons, List.not_mem_nil, or_false] at hletter
    rcases hletter with rfl | rfl <;> decide

lemma exists_fraction_of_stops (h : Stops (pastFraction cur) rest) :
    ∃ fraction exponent, IsFraction fraction ∧ IsExponent exponent ∧
      cur.rest = fraction ++ (exponent ++ rest) := by
  rw [pastFraction] at h
  split at h
  · next behind hpoint =>
      split_ifs at h with hempty
      · exact absurd h not_stops_faultAhead
      · rw [List.isEmpty_iff] at hempty
        obtain ⟨exponent, hexponent, hrest⟩ := exists_exponent_of_stops h
        refine ⟨'.' :: digitsAt cur.next, exponent, .inr ⟨_, rfl, isDigits_digitsAt hempty⟩, hexponent, ?_⟩
        rw [hpoint, ← rest_next hpoint, (exists_digits _).1, hrest, List.cons_append]
  · obtain ⟨exponent, hexponent, hrest⟩ := exists_exponent_of_stops h
    exact ⟨[], exponent, .inl rfl, hexponent, hrest⟩

lemma stops_pastFraction {fraction exponent : List Char} (hfraction : IsFraction fraction)
    (hexponent : IsExponent exponent) (hrest : EndsNumber rest)
    (h : cur.rest = fraction ++ (exponent ++ rest)) : Stops (pastFraction cur) rest := by
  have hhead := not_isDigit_of_mem_head? hexponent hrest
  rw [pastFraction]
  rcases hfraction with rfl | ⟨digits, rfl, hdigits⟩
  · rw [List.nil_append] at h
    split
    · next behind hpoint => exact absurd rfl (hhead '.' (by rw [← h, hpoint]; rfl)).2
    · exact stops_pastExponent hexponent hrest h
  · rw [List.cons_append] at h
    obtain ⟨hall, hlast⟩ :=
      digitsAt_of_append hdigits.2 (fun c hc => (hhead c hc).1) (rest_next h)
    simp only [h, hall]
    rw [if_neg (by simpa using hdigits.1)]
    exact stops_pastExponent hexponent hrest hlast

/-- **A number** that is skipped. -/
lemma exists_unsigned_of_stops (h : Stops (skipNumber cur) rest) :
    ∃ text, IsUnsigned text ∧ cur.rest = text ++ rest := by
  obtain ⟨hwhole, hdigits⟩ := exists_digits cur
  rw [skipNumber_eq] at h
  split at h
  · exact absurd h not_stops_faultAhead
  · exact absurd h not_stops_faultAhead
  · next hne hzero =>
      obtain ⟨fraction, exponent, hfraction, hexponent, hrest⟩ := exists_fraction_of_stops h
      refine ⟨_, ⟨digitsAt cur, fraction, exponent, rfl, ⟨⟨hne, hdigits⟩, fun hhead => ?_⟩, hfraction,
        hexponent⟩, by rw [hwhole, hrest]; simp⟩
      cases hd : digitsAt cur with
      | nil => exact absurd hd hne
      | cons c more =>
          rw [hd] at hhead
          cases hhead
          cases more with
          | nil => rfl
          | cons d more => exact absurd hd (hzero d more)

/-- **A number** is skipped where it cannot go on. -/
lemma stops_skipNumber (htext : IsUnsigned text) (hrest : EndsNumber rest)
    (h : cur.rest = text ++ rest) : Stops (skipNumber cur) rest := by
  obtain ⟨whole, fraction, exponent, rfl, ⟨⟨hne, hdigits⟩, hzero⟩, hfraction, hexponent⟩ := htext
  have hhead : ∀ c ∈ (fraction ++ (exponent ++ rest)).head?, ¬ c.isDigit := by
    rcases hfraction with rfl | ⟨digits, rfl, -⟩
    · exact fun c hc => (not_isDigit_of_mem_head? hexponent hrest c hc).1
    · rintro c ⟨⟩
      decide
  obtain ⟨hall, hlast⟩ := digitsAt_of_append hdigits hhead (by rw [h]; simp)
  rw [skipNumber_eq, hall]
  split
  · exact absurd rfl hne
  · next d more => cases hzero rfl
  · exact stops_pastFraction hfraction hexponent hrest hlast

end AddonRegistry.Json
