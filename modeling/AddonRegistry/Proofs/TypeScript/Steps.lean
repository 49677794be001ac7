import AddonRegistry.TypeScript.Reading
import Mathlib.Tactic.Common

/-!
# Steps, taken

How each step of reading acts on a setting and a cursor, so that a reader can be run on a cursor whose
tokens are known and whose text is not.

* `Cursor.Sees` — the tokens in front of a reader.
* `Token.ofWord`, `Token.keyword` — words, of which some are keywords.
* the equations of `Reading` and of the steps on single tokens, for simplification.
* `Reading.Rounds`, `Reading.collect_eq_done` — what a loop reads, round by round.
-/

namespace AddonRegistry.TypeScript

/-! ## Words -/

namespace Token

/-- The token that a word is. -/
def ofWord (name : String) : Token :=
  .word name (if isReserved name || isContextual name then some name else none)

/-- The token that a keyword is. -/
abbrev keyword (name : String) : Token := .word name (some name)

@[simp]
lemma ofWord_ne_mark (name : String) (m : Mark) : ofWord name ≠ .mark m := nofun

lemma isReference_ofWord {name : String} (h : isReserved name = false) :
    (ofWord name).isReference = true := by
  rw [ofWord, isReference]
  split_ifs <;> simp [h]

/-- A word is no other keyword. -/
lemma isKeyword_ofWord {name word : String} (hne : name ≠ word) :
    (ofWord name).isKeyword word = false := by
  rw [ofWord, isKeyword]
  split_ifs <;> simp [hne]

/-- A word that is not reserved is no reserved one. -/
lemma ne_of_isReserved {name word : String} (hname : isReserved name = false)
    (hword : isReserved word = true) : name ≠ word := by
  rintro rfl
  rw [hname] at hword
  cases hword

end Token

/-! ## Tokens in front of a reader -/

namespace Cursor

/-- The tokens from the cursor on begin with these. -/
def Sees : List Token → Cursor → Prop
  | [], _ => True
  | token :: tokens, c => c.token = token ∧ c.next.Sees tokens

/-- The cursor that is a number of tokens further on. -/
def skip : Nat → Cursor → Cursor
  | 0, c => c
  | n + 1, c => c.next.skip n

lemma skip_add (m n : Nat) (c : Cursor) : c.skip (m + n) = (c.skip m).skip n := by
  induction m generalizing c with
  | zero => rw [Nat.zero_add, skip]
  | succ m ih => rw [Nat.succ_add, skip, skip, ih]

lemma sees_append {front back : List Token} {c : Cursor} :
    c.Sees (front ++ back) ↔ c.Sees front ∧ (c.skip front.length).Sees back := by
  induction front generalizing c with
  | nil => exact ⟨fun h => ⟨trivial, h⟩, fun h => h.2⟩
  | cons token front ih => rw [List.cons_append, Sees, Sees, ih, and_assoc]; rfl

@[simp]
lemma bound_skip (n : Nat) (c : Cursor) : (c.skip n).bound = c.bound := by
  induction n generalizing c with
  | zero => rfl
  | succ n ih => exact ih c.next

end Cursor

/-! ## Equations -/

namespace Reading

variable {α β : Type} (s : Setting) (c : Cursor)

@[simp]
lemma bind_apply (step : Reading α) (next : α → Reading β) :
    (step >>= next) s c =
      match step s c with
      | .done value c => next value s c
      | .failed fault c => .failed fault c := rfl

@[simp]
lemma pure_apply (value : α) : (pure value : Reading α) s c = .done value c := rfl

@[simp]
lemma map_apply (f : α → β) (step : Reading α) :
    (f <$> step) s c =
      match step s c with
      | .done value c => .done (f value) c
      | .failed fault c => .failed fault c := rfl

@[simp]
lemma cursor_apply : cursor s c = .done c c := rfl

@[simp]
lemma setting_apply : setting s c = .done s c := rfl

@[simp]
lemma under_apply (change : Setting → Setting) (step : Reading α) :
    under change step s c = step (change s) c := rfl

@[simp]
lemma attempt_apply (step : Reading (Option α)) :
    attempt step s c =
      match step s c with
      | .done (some value) c => .done (some value) c
      | _ => .done none c := rfl

end Reading

section Tokens

variable (s : Setting) (c : Cursor)

@[simp]
lemma bump_apply : bump s c = .done () c.next := rfl

@[simp]
lemma atMark_apply (mark : Mark) : atMark mark s c = .done (c.isMark mark) c := rfl

@[simp]
lemma atKeyword_apply (name : String) : atKeyword name s c = .done (c.isKeyword name) c := rfl

@[simp]
lemma atEnd_apply : atEnd s c = .done (c.token = .endOfText) c := rfl

@[simp]
lemma atReference_apply : atReference s c = .done c.token.isReference c := rfl

@[simp]
lemma currentLine_apply : currentLine s c = .done c.line c := rfl

@[simp]
lemma lineBroke_apply : lineBroke s c = .done c.broke c := rfl

@[simp]
lemma peek_apply : peek s c = .done c.next c := rfl

@[simp]
lemma eat_apply (mark : Mark) :
    eat mark s c = if c.isMark mark then .done true c.next else .done false c := rfl

@[simp]
lemma eatKeyword_apply (name : String) :
    eatKeyword name s c = if c.isKeyword name then .done true c.next else .done false c := rfl

@[simp]
lemma expectKeyword_apply (name : String) :
    expectKeyword name s c = if c.isKeyword name then .done () c.next
      else .failed ⟨c.line, .expected name c.token.display⟩ c := rfl

end Tokens

section Known

variable {s : Setting} {c : Cursor}

/-- A step whose outcome is known, in front of others. -/
lemma Reading.bind_of_done {α β : Type} {step : Reading α} {next : α → Reading β} {value : α}
    {last : Cursor} (h : step s c = .done value last) : (step >>= next) s c = next value s last := by
  rw [bind_apply, h]

lemma expect_of_token {mark : Mark} (h : c.token = .mark mark) : expect mark s c = .done () c.next :=
  if_pos (decide_eq_true h)

/-- Whether there is more to come, where no token is left. -/
lemma notAtEnd_of_end (h : c.token = .endOfText) :
    (do return !(← atEnd) : Reading Bool) s c = .done false c := by
  simp [h]

/-- Whether there is more to come, where a token stands. -/
lemma notAtEnd_of_token {token : Token} (h : c.token = token) (hne : token ≠ .endOfText) :
    (do return !(← atEnd) : Reading Bool) s c = .done true c := by
  simp [h, hne]

lemma word_ofWord {name : String} (h : c.token = .ofWord name) :
    word s c = .done (name, c.line) c.next := by
  rw [Token.ofWord] at h
  simp [word, h]

/-- A name that something is bound to, which is no reserved word. -/
lemma boundName_of_isReference {name : String} {keyword : Option String}
    (h : c.token = .word name keyword) (href : c.token.isReference) :
    boundName s c = .done (.node (.identifier name) c.line []) c.next := by
  rw [h, Token.isReference] at href
  cases keyword with
  | none => simp [boundName, h]
  | some word =>
      rw [Option.all_some, Bool.not_eq_true', isReserved, Bool.or_eq_false_iff] at href
      have hawait : word ≠ "await" := by
        rintro rfl
        revert href
        decide
      have hreserved : word ∉ alwaysReserved := by
        intro hm
        rw [List.contains_iff_mem.mpr hm] at href
        cases href.1
      simp [boundName, h, hawait, hreserved]

lemma boundName_ofWord {name : String} (h : c.token = .ofWord name) (hname : isReserved name = false) :
    boundName s c = .done (.node (.identifier name) c.line []) c.next :=
  boundName_of_isReference h (h ▸ Token.isReference_ofWord hname)

end Known

/-! ## Loops -/

namespace Reading

variable {α : Type}

/-- What a loop reads from a cursor on, and where it stops. -/
inductive Rounds (more : Reading Bool) (step : Reading α) (s : Setting) :
    Cursor → List α → Cursor → Prop where
  | stop {c last : Cursor} (h : more s c = .done false last) : Rounds more step s c [] last
  | round {c first second last : Cursor} {value : α} {values : List α}
      (hmore : more s c = .done true first) (hstep : step s first = .done value second)
      (hrest : Rounds more step s second values last) : Rounds more step s c (value :: values) last

variable {more : Reading Bool} {step : Reading α} {s : Setting} {c last : Cursor} {values : List α}

lemma repeatWhile_eq_done (h : Rounds more step s c values last) :
    ∀ (fuel : Nat) (read : List α), values.length < fuel →
      repeatWhile more step fuel read s c = .done (read.reverse ++ values) last := by
  induction h with
  | stop hmore =>
      intro fuel read hfuel
      obtain ⟨fuel, rfl⟩ := Nat.exists_eq_succ_of_ne_zero (Nat.ne_of_gt hfuel)
      simp only [repeatWhile, hmore, List.append_nil]
  | @round _ _ _ _ value values hmore hstep _ ih =>
      intro fuel read hfuel
      obtain ⟨fuel, rfl⟩ := Nat.exists_eq_succ_of_ne_zero (Nat.ne_of_gt (Nat.zero_lt_of_lt hfuel))
      simp only [repeatWhile, hmore, hstep]
      rw [ih fuel (value :: read) (Nat.lt_of_succ_lt_succ hfuel), List.reverse_cons, List.append_assoc,
        List.singleton_append]

/-- **A loop** reads what its rounds do, if there are not more of them than tokens. -/
lemma collect_eq_done (h : Rounds more step s c values last) (hbound : values.length < c.bound) :
    collect more step s c = .done values last :=
  repeatWhile_eq_done h c.bound [] hbound

/-- A loop that stops at once. -/
lemma collect_eq_nil (h : more s c = .done false last) (hbound : 0 < c.bound) :
    collect more step s c = .done [] last :=
  collect_eq_done (.stop h) hbound

lemma iterate_eq_done {step : α → Reading (α × Bool)} {value result : α}
    (h : step value s c = .done (result, false) last) (hbound : 0 < c.bound) :
    iterate step value s c = .done result last := by
  obtain ⟨fuel, hfuel⟩ := Nat.exists_eq_succ_of_ne_zero (Nat.ne_of_gt hbound)
  simp only [iterate, hfuel, iterateFrom, h]

/-! ## What was read -/

lemma bind_eq_done {β : Type} {step : Reading α} {next : α → Reading β} {value : β} :
    (step >>= next) s c = .done value last ↔
      ∃ first between, step s c = .done first between ∧ next first s between = .done value last := by
  rw [bind_apply]
  cases step s c <;> simp

lemma map_eq_done {β : Type} {f : α → β} {step : Reading α} {value : β} :
    (f <$> step) s c = .done value last ↔ ∃ first, step s c = .done first last ∧ f first = value := by
  rw [map_apply]
  cases step s c with
  | done first between => simp [and_comm]
  | failed fault between => simp

lemma exists_rounds_of_repeatWhile : ∀ {fuel : Nat} {read : List α} {c : Cursor},
    repeatWhile more step fuel read s c = .done values last →
      ∃ others, values = read.reverse ++ others ∧ Rounds more step s c others last
  | 0, read, c, h => by cases h
  | fuel + 1, read, c, h => by
      rw [repeatWhile] at h
      dsimp only at h
      split at h
      · cases h
      · next hmore =>
          cases h
          exact ⟨[], by rw [List.append_nil], .stop hmore⟩
      · next hmore =>
          split at h
          · cases h
          · next value second hstep =>
              obtain ⟨others, hvalues, hrounds⟩ := exists_rounds_of_repeatWhile h
              exact ⟨value :: others, by simp [hvalues], .round hmore hstep hrounds⟩

/-- **What a loop has read**, its rounds did. -/
lemma rounds_of_collect (h : collect more step s c = .done values last) :
    Rounds more step s c values last := by
  obtain ⟨others, rfl, hrounds⟩ := exists_rounds_of_repeatWhile h
  exact hrounds

/-- The first round of a loop that goes on. -/
lemma Rounds.first {first : Cursor} (h : Rounds more step s c values last)
    (hmore : more s c = .done true first) :
    ∃ value second others, values = value :: others ∧ step s first = .done value second ∧
      Rounds more step s second others last := by
  cases h with
  | stop hstop =>
      rw [hmore] at hstop
      cases hstop
  | round hround hstep hrest =>
      rw [hmore] at hround
      cases hround
      exact ⟨_, _, _, rfl, hstep, hrest⟩

/-- That whatever a step reads has a property. -/
def Yields (step : Reading α) (P : α → Prop) : Prop :=
  ∀ ⦃s c value last⦄, step s c = .done value last → P value

variable {β : Type} {P : α → Prop} {Q : β → Prop}

lemma Yields.pure {value : α} (h : P value) : Yields (pure value) P := by
  intro s c found last hdone
  cases hdone
  exact h

lemma Yields.fail {cause : Cause} : Yields (fail cause : Reading α) P := by
  intro s c found last hdone
  cases hdone

lemma Yields.failWith {fault : Fault} : Yields (failWith fault : Reading α) P := by
  intro s c found last hdone
  cases hdone

/-- What comes last counts. -/
lemma Yields.bind {step : Reading β} {next : β → Reading α} (h : ∀ value, Yields (next value) P) :
    Yields (step >>= next) P := by
  intro s c found last hdone
  obtain ⟨first, between, -, hnext⟩ := bind_eq_done.mp hdone
  exact h first hnext

/-- What comes last may need a property of what came first. -/
lemma Yields.bind_of {step : Reading β} {next : β → Reading α} (hstep : Yields step Q)
    (h : ∀ value, Q value → Yields (next value) P) : Yields (step >>= next) P := by
  intro s c found last hdone
  obtain ⟨first, between, hfirst, hnext⟩ := bind_eq_done.mp hdone
  exact h first (hstep hfirst) hnext

lemma Yields.attempt {step : Reading (Option α)}
    (h : Yields step fun found => ∀ value ∈ found, P value) :
    Yields (attempt step) fun found => ∀ value ∈ found, P value := by
  intro s c found last hdone
  rw [attempt_apply] at hdone
  split at hdone
  · next hstep =>
      cases hdone
      exact h hstep
  · cases hdone
    simp

lemma Yields.iterateFrom {step : α → Reading (α × Bool)}
    (h : ∀ value, P value → Yields (step value) fun found => P found.1) :
    ∀ (fuel : Nat) {value : α}, P value → Yields (iterateFrom step fuel value) P
  | 0, value, _ => .fail
  | fuel + 1, value, hvalue => by
      intro s c found last hdone
      rw [Reading.iterateFrom] at hdone
      dsimp only at hdone
      split at hdone
      · cases hdone
      · next hstep => exact Yields.iterateFrom h fuel (h _ hvalue hstep) hdone
      · next hstep =>
          cases hdone
          exact h _ hvalue hstep

/-- A property that every step of an iteration keeps. -/
lemma Yields.iterate {step : α → Reading (α × Bool)} {value : α} (hvalue : P value)
    (h : ∀ value, P value → Yields (step value) fun found => P found.1) :
    Yields (iterate step value) P :=
  fun _ c _ _ hdone => Yields.iterateFrom h c.bound hvalue hdone

end Reading

end AddonRegistry.TypeScript
