import AddonRegistry.Json.Skip
import AddonRegistry.Unicode.Printable

/-!
# The manifest of a package

A manifest is a JSON text.  The name of the package is the member `name` of an object, or the only
element of a list; whatever else an object holds only has to be well-formed.

* `unexpected` — the fault where a value of another kind stands.
* `nameInMembers`, `nameInElements` — the name in an object and in a list.
* `packageName` — the name of the package of a manifest.
-/

namespace AddonRegistry.Manifest

open Json

/-- How a message calls what a manifest should be. -/
def wantedManifest : String := "struct PackageManifest"

/-- How a message calls what a name should be. -/
def wantedName : String := "a string"

/-- How a message calls a number. -/
def describeNumber : Number → String
  | .natural value => "integer `" ++ toString value ++ "`"
  | .negative value => "integer `-" ++ toString value ++ "`"
  | .real value => "floating point `" ++ floatText value ++ "`"

/-- The fault where a value of another kind stands than is wanted.  It is reported behind the value,
but in front of a list or an object. -/
def unexpected {α : Type} (wanted : String) (cur : Cursor) : Except Fault α := do
  match cur.rest with
  | 'n' :: _ => (← cur.next.readWord "ull".toList).fault (.wrongType "null" wanted)
  | 't' :: _ => (← cur.next.readWord "rue".toList).fault (.wrongType "boolean `true`" wanted)
  | 'f' :: _ => (← cur.next.readWord "alse".toList).fault (.wrongType "boolean `false`" wanted)
  | '"' :: _ =>
      let (text, cur) ← readString cur.next
      cur.fault (.wrongType ("string " ++ Unicode.quotedText text) wanted)
  | '[' :: _ => cur.fault (.wrongType "sequence" wanted)
  | '{' :: _ => cur.fault (.wrongType "map" wanted)
  | '-' :: _ =>
      let (number, cur) ← readNumber true cur.next
      cur.fault (.wrongType (describeNumber number) wanted)
  | c :: _ =>
      if c.isDigit then
        let (number, cur) ← readNumber false cur
        cur.fault (.wrongType (describeNumber number) wanted)
      else cur.faultAhead .expectedValue
  | [] => cur.faultAhead .expectedValue

/-- Reads a name. -/
def readName (cur : Cursor) : Except Fault (String × Cursor) :=
  let cur := cur.skipBlanks
  match cur.rest with
  | [] => cur.fault .endInValue
  | '"' :: _ => readString cur.next
  | _ => unexpected wantedName cur

/-- The cursor behind the end of an object, if it comes next. -/
def closeObject (cur : Cursor) : Cursor :=
  let cur := cur.skipBlanks
  match cur.rest with
  | '}' :: _ => cur.next
  | _ => cur

/-- Reads the key of a member and the colon behind it, and then the name or past the value. -/
def readMember (name : Option String) (cur : Cursor) : Except Fault (Option String × Cursor) := do
  let (key, cur) ← readString cur
  if key = "name" ∧ name.isSome then (closeObject cur).fault (.repeatedField "name")
  else
    let cur := cur.skipBlanks
    match cur.rest with
    | [] => cur.fault .endInObject
    | ':' :: _ =>
        if key = "name" then
          let (text, cur) ← readName cur.next
          return (some text, cur)
        else
          let cur ← skipValue (2 * cur.rest.length) cur.next
          return (name, cur)
    | _ => cur.faultAhead .expectedColon

/-- The name in an object, of which a member comes next; `fuel` exceeds the number of characters
left. -/
def nameInMembers : Nat → Option String → Cursor → Except Fault (String × Cursor)
  | 0, _, cur => cur.fault .endInObject
  | fuel + 1, name, cur => do
      let cur := cur.skipBlanks
      match cur.rest with
      | [] => cur.fault .endInValue
      | '"' :: _ =>
          let (name, cur) ← readMember name cur.next
          let cur := cur.skipBlanks
          match cur.rest with
          | [] => cur.fault .endInObject
          | ',' :: _ => nameInMembers fuel name cur.next
          | '}' :: _ =>
              match name with
              | some name => return (name, cur.next)
              | none => cur.next.fault (.missingField "name")
          | _ => cur.faultAhead .expectedObjectEnd
      | '}' :: _ => cur.faultAhead .trailingComma
      | _ => cur.faultAhead .keyNotString

/-- The name in an object, behind its opening brace. -/
def nameInObject (cur : Cursor) : Except Fault (String × Cursor) :=
  let cur := cur.skipBlanks
  match cur.rest with
  | [] => cur.fault .endInObject
  | '}' :: _ => cur.next.fault (.missingField "name")
  | _ => nameInMembers (cur.rest.length + 1) none cur

/-- The name in a list, behind its opening bracket. -/
def nameInElements (cur : Cursor) : Except Fault (String × Cursor) :=
  let cur := cur.skipBlanks
  match cur.rest with
  | [] => cur.fault .endInList
  | ']' :: _ => cur.next.fault (.wrongLength 0 (wantedManifest ++ " with 1 element"))
  | _ => do
      let (name, cur) ← readName cur
      let cur := cur.skipBlanks
      match cur.rest with
      | [] => cur.fault .endInList
      | ']' :: _ => return (name, cur.next)
      | ',' :: _ =>
          let cur := cur.next.skipBlanks
          match cur.rest with
          | ']' :: _ => cur.faultAhead .trailingComma
          | _ => cur.faultAhead .trailingCharacters
      | _ => cur.faultAhead .trailingCharacters

/-- The name of the package of a manifest. -/
def packageName (text : String) : Except Fault String := do
  let cur := (Cursor.ofText text).skipBlanks
  let (name, cur) ←
    match cur.rest with
    | [] => cur.fault .endInValue
    | '[' :: _ => nameInElements cur.next
    | '{' :: _ => nameInObject cur.next
    | _ => unexpected wantedManifest cur
  let cur := cur.skipBlanks
  match cur.rest with
  | [] => return name
  | _ => cur.faultAhead .trailingCharacters

end AddonRegistry.Manifest
