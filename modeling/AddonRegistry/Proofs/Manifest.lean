import AddonRegistry.Manifest
import AddonRegistry.Proofs.Except
import AddonRegistry.Proofs.Json.Values

/-!
# Where the name of a package comes from

A manifest is read member by member, and what is known of the name so far is kept on the way.  The members
that were read and this name say the same, as a list of members with the key of the name (`known`): it grows
by a member with that key only where it was empty.  So one equation of lists is kept by each member, and
says in the end that there was one such member.

* `written`, `named`, `known` — a name as a value, and the members that may supply it.
* `yields_readName`, `yields_readMember` — what is read at the name and at a member.
* `yields_nameInObject`, `yields_nameInElements` — the name in an object and in a list.
* `NamesPackage` — that an object names a package.
* **`packageName_eq_ok_iff`** — which texts name which package.
-/

namespace AddonRegistry.Manifest

open Json

/-! ## Names -/

/-- The key of the name. -/
def nameKey : List Nat := utf16 "name".toList

/-- The value that a name is written as. -/
def written (name : String) : Value := .string (utf16 name.toList)

/-- The members with the key of the name. -/
def named (members : List (List Nat × Value)) : List (List Nat × Value) :=
  members.filter (·.1 = nameKey)

/-- The member with a name that is known already. -/
def known (name : Option String) : List (List Nat × Value) :=
  name.toList.map fun name => (nameKey, written name)

variable {cur : Cursor} {text rest : List Char} {name : String} {before after : Option String}
  {member : List Nat × Value} {members : List (List Nat × Value)}

lemma written_inj {other : String} (h : written name = written other) : name = other :=
  String.toList_inj.mp (utf16_inj (Value.string.inj h))

lemma utf16_eq_nameKey_iff {key : String} : utf16 key.toList = nameKey ↔ key = "name" :=
  ⟨fun h => String.toList_inj.mp (utf16_inj h), fun h => by rw [h]; rfl⟩

lemma known_inj (h : known before = known after) : before = after := by
  cases before <;> cases after <;> simp_all [known]
  exact written_inj h

lemma named_of_eq (h : member.1 = nameKey) : named [member] = [member] := by
  simp [named, h]

lemma named_of_ne (h : member.1 ≠ nameKey) : named [member] = [] := by
  simp [named, h]

/-- A second name is not taken. -/
lemma known_append_singleton {value : Value} :
    known before ++ [(nameKey, value)] = known after ↔
      before = none ∧ ∃ name, after = some name ∧ value = written name := by
  cases before <;> cases after <;> simp [known]

/-! ## Readers of names -/

lemma not_yields_unexpected {wanted : String} : ¬ Yields (unexpected wanted cur) name rest := by
  rw [unexpected]
  split
  case h_5 | h_6 => exact not_yields_fault
  case h_8 =>
    split_ifs
    · exact not_yields_fault_behind
    · exact not_yields_faultAhead
  case h_9 => exact not_yields_faultAhead
  all_goals exact not_yields_fault_behind

/-- **A name** is read where it is written. -/
lemma yields_readName :
    Yields (readName cur) name rest ↔
      ∃ before text, IsBlank before ∧ Spells text (written name) ∧ cur.rest = before ++ (text ++ rest) := by
  obtain ⟨blank, hblank, hcur⟩ := exists_blanks cur
  rw [readName]
  constructor
  · intro h
    split at h
    · exact absurd h not_yields_fault
    · next hquote =>
        obtain ⟨text, htext, hrest⟩ := yields_readString.mp h
        refine ⟨blank, _, hblank, .string htext, ?_⟩
        rw [hcur, hquote, ← rest_next hquote, hrest]
        simp
    · exact absurd h not_yields_unexpected
  · rintro ⟨before, text, hbefore, htext, h⟩
    cases htext with
    | string hstring =>
        rw [List.cons_append, List.append_assoc] at h
        have hquote := rest_skipBlanks hbefore (by decide) h
        simp only [hquote]
        exact yields_readString.mpr ⟨_, hstring, rest_next hquote⟩

/-- A member that is read, and what is known of the name afterwards. -/
lemma exists_member_of_yields (h : Yields (readMember before cur) after rest) :
    ∃ key space blank inside member, Characters key member.1 ∧ IsBlank space ∧ IsBlank blank ∧
      Spells inside member.2 ∧ (∃ text : String, member.1 = utf16 text.toList) ∧
      known before ++ named [member] = known after ∧
      cur.rest = key ++ '"' :: (space ++ ':' :: (blank ++ (inside ++ rest))) := by
  rw [readMember] at h
  obtain ⟨⟨key, mid⟩, hmid, h⟩ := yields_bind.mp h
  obtain ⟨text, htext, hcur⟩ := yields_readString.mp ⟨mid, hmid, rfl⟩
  obtain ⟨space, hspace, hcolon⟩ := exists_blanks mid
  dsimp only at h
  split at h
  · exact absurd h not_yields_fault
  next hrepeated =>
  split at h
  · exact absurd h not_yields_fault
  · next hnext =>
      rw [hnext, ← rest_next hnext] at hcolon
      split at h
      · next hname =>
          obtain ⟨⟨value, last⟩, hlast, h⟩ := yields_bind.mp h
          obtain ⟨rfl, rfl⟩ := yields_ok.mp h
          obtain ⟨blank, inside, hblank, hinside, hrest⟩ := yields_readName.mp ⟨last, hlast, rfl⟩
          have hkey := utf16_eq_nameKey_iff.mpr hname
          refine ⟨text, space, blank, inside, (utf16 key.toList, written value), htext, hspace, hblank,
            hinside, ⟨key, rfl⟩, ?_, ?_⟩
          · cases before with
            | none => rw [named_of_eq hkey, hkey]; rfl
            | some name => exact absurd ⟨hname, rfl⟩ hrepeated
          · rw [hcur, hcolon, hrest]
      · next hname =>
          obtain ⟨last, hlast, h⟩ := yields_bind.mp h
          obtain ⟨rfl, rfl⟩ := yields_ok.mp h
          obtain ⟨blank, inside, value, hblank, hinside, hrest⟩ :=
            exists_value_of_stops ⟨last, hlast, rfl⟩
          have hkey := (not_congr utf16_eq_nameKey_iff).mpr hname
          refine ⟨text, space, blank, inside, (utf16 key.toList, value), htext, hspace, hblank, hinside,
            ⟨key, rfl⟩, ?_, ?_⟩
          · rw [named_of_ne hkey, List.append_nil]
          · rw [hcur, hcolon, hrest]
  · exact absurd h not_yields_faultAhead

lemma yields_readMember {key space blank inside : List Char} (hkey : Characters key member.1)
    (hspace : IsBlank space) (hblank : IsBlank blank) (hinside : Spells inside member.2)
    (hrest : EndsNumber rest) (htext : ∃ text : String, member.1 = utf16 text.toList)
    (hknown : known before ++ named [member] = known after)
    (h : cur.rest = key ++ '"' :: (space ++ ':' :: (blank ++ (inside ++ rest)))) :
    Yields (readMember before cur) after rest := by
  obtain ⟨units, value⟩ := member
  obtain ⟨text, rfl⟩ := htext
  obtain ⟨mid, hmid, hcolon⟩ := yields_readString.mpr ⟨key, hkey, h⟩
  have hnext := rest_skipBlanks hspace (by decide) hcolon
  rw [readMember]
  refine yields_bind.mpr ⟨_, hmid, ?_⟩
  dsimp only
  by_cases hname : text = "name"
  · have hkey := utf16_eq_nameKey_iff.mpr hname
    rw [named_of_eq hkey, hkey, known_append_singleton] at hknown
    obtain ⟨rfl, name, rfl, rfl⟩ := hknown
    obtain ⟨last, hlast, hbehind⟩ := yields_readName.mpr ⟨blank, inside, hblank, hinside, rest_next hnext⟩
    rw [if_neg (by simp)]
    simp only [hnext]
    rw [if_pos hname]
    exact yields_bind.mpr ⟨_, hlast, yields_ok.mpr ⟨rfl, hbehind⟩⟩
  · have hkey := (not_congr utf16_eq_nameKey_iff).mpr hname
    rw [named_of_ne hkey, List.append_nil] at hknown
    cases known_inj hknown
    have hfuel : inside.length ≤ 2 * mid.skipBlanks.rest.length := by
      rw [hnext]
      simp only [List.length_cons, List.length_append]
      omega
    obtain ⟨last, hlast, hbehind⟩ := stops_skipValue hinside hblank hrest hfuel (rest_next hnext)
    rw [if_neg fun hrepeated => hname hrepeated.1]
    simp only [hnext] at hlast ⊢
    rw [if_neg hname]
    exact yields_bind.mpr ⟨_, hlast, yields_ok.mpr ⟨rfl, hbehind⟩⟩

/-! ## Objects and lists -/

/-- That the keys of members are texts. -/
def HasTextKeys (members : List (List Nat × Value)) : Prop :=
  ∀ member ∈ members, ∃ text : String, member.1 = utf16 text.toList

lemma named_cons : named (member :: members) = named [member] ++ named members := by
  rw [named, List.filter_cons]
  split_ifs with h
  · rw [named_of_eq (by simpa using h)]
    rfl
  · rw [named_of_ne (by simpa using h)]
    rfl

lemma exists_members_of_yields : ∀ {fuel : Nat} {before : Option String} {cur : Cursor},
    Yields (nameInMembers fuel before cur) name rest →
      ∃ text members, Separated SpellsMember text members ∧ HasTextKeys members ∧
        known before ++ named members = known (some name) ∧ cur.rest = text ++ '\x7d' :: rest
  | 0, before, cur, h => absurd h not_yields_fault
  | fuel + 1, before, cur, h => by
      obtain ⟨blank, hblank, hcur⟩ := exists_blanks cur
      rw [nameInMembers] at h
      dsimp only at h
      split at h
      · exact absurd h not_yields_fault
      · next hquote =>
          obtain ⟨⟨after, last⟩, hlast, h⟩ := yields_bind.mp h
          obtain ⟨key, space, inner, inside, member, hkey, hspace, hinner, hinside, htext, hknown, hmember⟩ :=
            exists_member_of_yields ⟨last, hlast, rfl⟩
          obtain ⟨behind, hbehind, hrest⟩ := exists_blanks last
          have hspells := SpellsMember.pair hblank hkey hspace (.padded hinner hinside hbehind)
          rw [rest_next hquote] at hmember
          dsimp only at h
          split at h
          · exact absurd h not_yields_fault
          · next hcomma =>
              obtain ⟨text, members, hmembers, hkeys, hall, hmore⟩ := exists_members_of_yields h
              refine ⟨_, member :: members, .more hspells hmembers, List.forall_mem_cons.mpr ⟨htext, hkeys⟩,
                ?_, ?_⟩
              · rw [named_cons, ← List.append_assoc, hknown, hall]
              · rw [hcur, hquote, hmember, hrest, hcomma, ← rest_next hcomma, hmore]
                simp
          · next hclose =>
              split at h
              · next found =>
                  obtain ⟨rfl, hlast⟩ := yields_ok.mp h
                  refine ⟨_, [member], .one hspells, List.forall_mem_cons.mpr ⟨htext, nofun⟩, hknown, ?_⟩
                  rw [hcur, hquote, hmember, hrest, hclose, ← hlast, rest_next hclose]
                  simp
              · exact absurd h not_yields_fault
          · exact absurd h not_yields_faultAhead
      · exact absurd h not_yields_faultAhead
      · exact absurd h not_yields_faultAhead

/-- Where a name is known in the end, something is known after each member. -/
lemma exists_known_of_append {others : List (List Nat × Value)}
    (h : known before ++ (named [member] ++ others) = known (some name)) :
    ∃ after, known before ++ named [member] = known after := by
  by_cases hkey : member.1 = nameKey
  · rw [named_of_eq hkey] at h ⊢
    cases before with
    | none => exact ⟨some name, by simp_all [known]⟩
    | some other => exact absurd h (by simp [known])
  · exact ⟨before, by rw [named_of_ne hkey, List.append_nil]⟩

lemma yields_nameInMembers {rest : List Char} {name : String} : ∀ {fuel : Nat} {before : Option String}
    {cur : Cursor} {text : List Char} {members : List (List Nat × Value)},
    Separated SpellsMember text members → HasTextKeys members →
      known before ++ named members = known (some name) → text.length < fuel →
      cur.rest = text ++ '\x7d' :: rest → Yields (nameInMembers fuel before cur) name rest
  | fuel + 1, before, cur, text, members, htext, hkeys, hknown, hfuel, h => by
      obtain ⟨part, member, c, tail, hpart, hcut, hlength, hmore⟩ := htext.exists_cut '\x7d' rest
      have hc : c ∈ [',', ']', '\x7d'] ∧ c ∉ blanks := by
        rcases hmore with ⟨rfl, -⟩ | ⟨rfl, -⟩ <;> decide
      -- the member is read as in the whole object, whether others follow or not
      have hafter : (∃ text : String, member.1 = utf16 text.toList) ∧
          ∃ after, known before ++ named [member] = known after := by
        rcases hmore with ⟨-, -, rfl⟩ | ⟨-, more, others, -, rfl, -, -⟩
        · exact ⟨hkeys member List.mem_cons_self, some name, hknown⟩
        · rw [named_cons] at hknown
          exact ⟨hkeys member List.mem_cons_self, exists_known_of_append hknown⟩
      obtain ⟨hmember, after, hafter⟩ := hafter
      obtain ⟨blank, key, space, inner, inside, behind, hblank, hkey, hspace, hinner, hinside, hbehind,
        rfl⟩ := hpart.exists_parts
      rw [hcut] at h
      simp only [List.append_assoc, List.cons_append] at h
      have hquote := rest_skipBlanks hblank (by decide) h
      obtain ⟨last, hlast, hrest⟩ := yields_readMember hkey hspace hinner hinside
        ((endsValue_cons.mpr hc.1).endsNumber hbehind) hmember hafter (rest_next hquote)
      have hnext := rest_skipBlanks hbehind hc.2 hrest
      rw [nameInMembers]
      simp only [hquote]
      refine yields_bind.mpr ⟨_, hlast, ?_⟩
      rcases hmore with ⟨rfl, rfl, rfl⟩ | ⟨rfl, more, others, rfl, rfl, hothers, hshort⟩
      · cases known_inj (hafter.symm.trans hknown)
        simp only [hnext]
        exact yields_ok.mpr ⟨rfl, rest_next hnext⟩
      · rw [named_cons, ← List.append_assoc, hafter] at hknown
        simp only [hnext]
        exact yields_nameInMembers hothers (fun m hm => hkeys m (List.mem_cons_of_mem _ hm)) hknown
          (by omega) (rest_next hnext)

/-- **The name in an object** is that of the only member with the key of the name. -/
lemma yields_nameInObject :
    Yields (nameInObject cur) name rest ↔
      ∃ text members, Separated SpellsMember text members ∧ HasTextKeys members ∧
        named members = known (some name) ∧ cur.rest = text ++ '\x7d' :: rest := by
  rw [nameInObject]
  constructor
  · intro h
    obtain ⟨blank, hblank, hcur⟩ := exists_blanks cur
    split at h
    · exact absurd h not_yields_fault
    · exact absurd h not_yields_fault
    · obtain ⟨text, members, hmembers, hkeys, hnamed, hrest⟩ := exists_members_of_yields h
      refine ⟨blank ++ text, members, hmembers.padded_left fun _ _ => .padded_left hblank, hkeys, hnamed, ?_⟩
      rw [hcur, hrest, List.append_assoc]
  · rintro ⟨text, members, hmembers, hkeys, hnamed, h⟩
    obtain ⟨blank, c, more, hblank, rfl, rfl, hmembers⟩ :=
      hmembers.exists_first fun _ _ => SpellsMember.exists_first
    rw [List.append_assoc, List.cons_append] at h
    have hquote := rest_skipBlanks hblank (by decide) h
    simp only [hquote]
    refine yields_nameInMembers hmembers hkeys hnamed ?_ hquote
    simp only [List.length_cons, List.length_append]
    omega

/-- **The name in a list** is its only element. -/
lemma yields_nameInElements :
    Yields (nameInElements cur) name rest ↔
      ∃ text, Separated SpellsElement text [written name] ∧ cur.rest = text ++ ']' :: rest := by
  rw [nameInElements]
  constructor
  · intro h
    obtain ⟨blank, hblank, hcur⟩ := exists_blanks cur
    split at h
    · exact absurd h not_yields_fault
    · exact absurd h not_yields_fault
    · obtain ⟨⟨found, last⟩, hlast, h⟩ := yields_bind.mp h
      obtain ⟨inner, text, hinner, htext, hmore⟩ := yields_readName.mp ⟨last, hlast, rfl⟩
      obtain ⟨behind, hbehind, hrest⟩ := exists_blanks last
      dsimp only at h
      split at h
      · exact absurd h not_yields_fault
      · next hclose =>
          obtain ⟨rfl, hend⟩ := yields_ok.mp h
          refine ⟨_, .one (.padded (hblank.append hinner) htext hbehind), ?_⟩
          rw [hcur, hmore, hrest, hclose, ← hend, rest_next hclose]
          simp
      · split at h <;> exact absurd h not_yields_faultAhead
      · exact absurd h not_yields_faultAhead
  · rintro ⟨text, htext, h⟩
    cases htext with
    | one helement =>
        obtain ⟨blank, inside, behind, hblank, hinside, hbehind, rfl⟩ := helement.exists_parts
        cases hinside with
        | string hstring =>
            simp only [List.append_assoc, List.cons_append] at h
            have hquote := rest_skipBlanks hblank (by decide) h
            obtain ⟨last, hlast, hrest⟩ : Yields (readName cur.skipBlanks) name (behind ++ ']' :: rest) :=
              yields_readName.mpr ⟨[], _, isBlank_nil, .string hstring, by rw [hquote]; simp⟩
            have hclose := rest_skipBlanks hbehind (by decide) hrest
            simp only [hquote]
            refine yields_bind.mpr ⟨_, hlast, ?_⟩
            simp only [hclose]
            exact yields_ok.mpr ⟨rfl, rest_next hclose⟩
    | more helement hmore => cases hmore

/-! ## Manifests -/

/-- That a JSON value is an object which names a package: it has one member with the key of the name, whose
value is the name, and the keys of all members are texts. -/
def NamesPackage (value : Value) (name : String) : Prop :=
  ∃ members, value = .object members ∧ HasTextKeys members ∧ named members = [(nameKey, written name)]

/-- A text ends where nothing but blanks is left. -/
lemma ending_eq_ok_iff {found : String} {last : Cursor} :
    (match last.skipBlanks.rest with
      | [] => pure found
      | _ => last.skipBlanks.faultAhead .trailingCharacters) = .ok name ↔
      found = name ∧ IsBlank last.rest := by
  obtain ⟨behind, hbehind, hrest⟩ := exists_blanks last
  constructor
  · intro h
    split at h
    · next hend =>
        rw [hend, List.append_nil] at hrest
        exact ⟨Except.ok.inj h, hrest ▸ hbehind⟩
    · exact absurd h faultAhead_ne_ok
  · rintro ⟨rfl, h⟩
    rw [rest_skipBlanks_of_isBlank h]
    rfl

/-- **A manifest** is an object that names the package, or a list that holds nothing but its name. -/
lemma packageName_eq_ok_iff {text : String} :
    packageName text = .ok name ↔
      ∃ value, SpellsElement text.toList value ∧
        (NamesPackage value name ∨ value = .list [written name]) := by
  rw [packageName]
  dsimp only
  constructor
  · intro h
    obtain ⟨before, hbefore, htext⟩ := exists_blanks (Cursor.ofText text)
    change text.toList = _ at htext
    split at h
    · cases h
    · next hopen =>
        obtain ⟨⟨found, last⟩, hlast, h⟩ := bind_eq_ok_iff.mp h
        obtain ⟨rfl, hbehind⟩ := ending_eq_ok_iff.mp h
        obtain ⟨inside, hinside, hrest⟩ := yields_nameInElements.mp ⟨last, hlast, rfl⟩
        refine ⟨_, ?_, .inr rfl⟩
        rw [htext, hopen, ← rest_next hopen, hrest]
        simpa using SpellsElement.padded hbefore (.list hinside) hbehind
    · next hopen =>
        obtain ⟨⟨found, last⟩, hlast, h⟩ := bind_eq_ok_iff.mp h
        obtain ⟨rfl, hbehind⟩ := ending_eq_ok_iff.mp h
        obtain ⟨inside, members, hinside, hkeys, hnamed, hrest⟩ :=
          yields_nameInObject.mp ⟨last, hlast, rfl⟩
        refine ⟨_, ?_, .inl ⟨members, rfl, hkeys, hnamed⟩⟩
        rw [htext, hopen, ← rest_next hopen, hrest]
        simpa using SpellsElement.padded hbefore (.object hinside) hbehind
    · obtain ⟨⟨found, last⟩, hlast, -⟩ := bind_eq_ok_iff.mp h
      exact absurd ⟨last, hlast, rfl⟩ not_yields_unexpected
  · rintro ⟨value, hvalue, hname⟩
    obtain ⟨before, inside, behind, hbefore, hinside, hbehind, htext⟩ := hvalue.exists_parts
    change (Cursor.ofText text).rest = _ at htext
    rcases hname with ⟨members, rfl, hkeys, hnamed⟩ | rfl
    · cases hinside with
      | emptyObject => cases hnamed
      | object hinside =>
          simp only [List.append_assoc, List.cons_append, List.nil_append] at htext
          have hopen := rest_skipBlanks (c := '\x7b') hbefore (by decide) htext
          obtain ⟨last, hlast, hrest⟩ :=
            yields_nameInObject.mpr ⟨_, members, hinside, hkeys, hnamed, rest_next hopen⟩
          simp only [hopen]
          exact bind_eq_ok_iff.mpr ⟨_, hlast, ending_eq_ok_iff.mpr ⟨rfl, hrest ▸ hbehind⟩⟩
    · cases hinside with
      | list hinside =>
          simp only [List.append_assoc, List.cons_append, List.nil_append] at htext
          have hopen := rest_skipBlanks (c := '[') hbefore (by decide) htext
          obtain ⟨last, hlast, hrest⟩ := yields_nameInElements.mpr ⟨_, hinside, rest_next hopen⟩
          simp only [hopen]
          exact bind_eq_ok_iff.mpr ⟨_, hlast, ending_eq_ok_iff.mpr ⟨rfl, hrest ▸ hbehind⟩⟩

/-- An escape sequence in the key does not matter, and a name further inside does not count. -/
example :
    (packageName "\x7b\"a\": [\x7b\"name\": \"b\"\x7d], \"n\\u0061me\": \"pkg\"\x7d").toOption =
      some "pkg" := by
  decide +kernel

end AddonRegistry.Manifest
