import AddonRegistry.Json.Number
import AddonRegistry.Json.Text

/-!
# Values that do not matter

`skipValue` finds the end of a value that nobody reads, or the first fault in it.  Keys in such a
value may be repeated, and nothing but their spelling is looked at.
-/

namespace AddonRegistry.Json

mutual

/-- The cursor behind a value; `fuel` exceeds twice the number of characters left, as every list and
every object takes two steps. -/
def skipValue : Nat → Cursor → Except Fault Cursor
  | 0, cur => cur.fault .endInValue
  | fuel + 1, cur =>
      let cur := cur.skipBlanks
      match cur.rest with
      | [] => cur.fault .endInValue
      | 'n' :: _ => cur.next.readWord "ull".toList
      | 't' :: _ => cur.next.readWord "rue".toList
      | 'f' :: _ => cur.next.readWord "alse".toList
      | '-' :: _ => skipNumber cur.next
      | '"' :: _ => skipString cur.next
      | '[' :: _ =>
          let cur := cur.next.skipBlanks
          match cur.rest with
          | [] => cur.fault .endInList
          | ']' :: _ => .ok cur.next
          | _ => skipElements fuel cur
      | '{' :: _ =>
          let cur := cur.next.skipBlanks
          match cur.rest with
          | [] => cur.fault .endInObject
          | '}' :: _ => .ok cur.next
          | _ => skipMembers fuel cur
      | c :: _ => if c.isDigit then skipNumber cur else cur.faultAhead .expectedValue

/-- The cursor behind a list, of which an element comes next. -/
def skipElements : Nat → Cursor → Except Fault Cursor
  | 0, cur => cur.fault .endInList
  | fuel + 1, cur => do
      let cur := (← skipValue fuel cur).skipBlanks
      match cur.rest with
      | [] => cur.fault .endInList
      | ',' :: _ => skipElements fuel cur.next
      | ']' :: _ => return cur.next
      | _ => cur.faultAhead .expectedListEnd

/-- The cursor behind an object, of which a member comes next. -/
def skipMembers : Nat → Cursor → Except Fault Cursor
  | 0, cur => cur.fault .endInObject
  | fuel + 1, cur => do
      let cur := cur.skipBlanks
      match cur.rest with
      | [] => cur.fault .endInObject
      | '"' :: _ =>
          let cur := (← skipString cur.next).skipBlanks
          match cur.rest with
          | [] => cur.fault .endInObject
          | ':' :: _ =>
              let cur := (← skipValue fuel cur.next).skipBlanks
              match cur.rest with
              | [] => cur.fault .endInObject
              | ',' :: _ => skipMembers fuel cur.next
              | '}' :: _ => return cur.next
              | _ => cur.faultAhead .expectedObjectEnd
          | _ => cur.faultAhead .expectedColon
      | _ => cur.faultAhead .keyNotString

end

end AddonRegistry.Json
