import AddonRegistry.Json.Cursor

/-!
# Strings in a JSON text

* `readString` — the text of a string, behind its opening quote.
* `skipString` — the end of a string whose text does not matter.  Its escapes only have to be
  spelled well: half of a surrogate pair is fine here, and not in a text that is read.
-/

namespace AddonRegistry.Json

/-- The value of a hexadecimal digit. -/
def hexDigit? (c : Char) : Option Nat :=
  if c.isDigit then some (c.toNat - '0'.toNat)
  else if 'a' ≤ c ∧ c ≤ 'f' then some (c.toNat - 'a'.toNat + 10)
  else if 'A' ≤ c ∧ c ≤ 'F' then some (c.toNat - 'A'.toNat + 10)
  else none

/-- The value of hexadecimal digits. -/
def hexValue? (digits : List Char) : Option Nat :=
  digits.foldlM (fun value c => (hexDigit? c).map (value * 16 + ·)) 0

/-- The number of bytes in characters. -/
def byteCount (text : List Char) : Nat := text.foldl (fun count c => count + c.utf8Size) 0

/-- The code unit that four hexadecimal digits stand for. -/
def readUnit (cur : Cursor) : Except Fault (Nat × Cursor) :=
  if byteCount (cur.rest.take 4) < 4 then (Cursor.skip 4 cur).fault .endInString
  else
    match cur.rest with
    | a :: b :: c :: d :: _ =>
        match hexValue? [a, b, c, d] with
        | some unit => .ok (unit, Cursor.skip 4 cur)
        | none => Cursor.faultBehind .invalidEscape 4 cur
    | _ => Cursor.faultBehind .invalidEscape 4 cur

/-- Whether a code unit is the first half of a pair. -/
def isHighSurrogate (unit : Nat) : Bool := 0xD800 ≤ unit && unit ≤ 0xDBFF

/-- Whether a code unit is the second half of a pair. -/
def isLowSurrogate (unit : Nat) : Bool := 0xDC00 ≤ unit && unit ≤ 0xDFFF

/-- The character that one code unit or a pair of them stands for. -/
def readUnits (cur : Cursor) : Except Fault (Char × Cursor) := do
  let (unit, cur) ← readUnit cur
  if isLowSurrogate unit then cur.fault .loneSurrogate
  else if isHighSurrogate unit then
    match cur.rest with
    | [] => cur.fault .endInString
    | '\\' :: _ =>
        let cur := cur.next
        match cur.rest with
        | [] => cur.fault .endInString
        | 'u' :: _ =>
            let (second, cur) ← readUnit cur.next
            if isLowSurrogate second then
              return (Char.ofNat (0x10000 + (unit - 0xD800) * 0x400 + (second - 0xDC00)), cur)
            else cur.fault .loneSurrogate
        | _ => cur.faultAhead .unfinishedSurrogatePair
    | _ => cur.faultAhead .unfinishedSurrogatePair
  else return (Char.ofNat unit, cur)

/-- The character that an escape of one letter stands for. -/
def simpleEscape? : Char → Option Char
  | '"' => some '"'
  | '\\' => some '\\'
  | '/' => some '/'
  | 'b' => some '\x08'
  | 'f' => some '\x0c'
  | 'n' => some '\n'
  | 'r' => some '\r'
  | 't' => some '\t'
  | _ => none

/-- The character that an escape stands for, behind its backslash. -/
def readEscape (cur : Cursor) : Except Fault (Char × Cursor) :=
  match cur.rest with
  | [] => cur.fault .endInString
  | 'u' :: _ => readUnits cur.next
  | c :: _ =>
      match simpleEscape? c with
      | some d => .ok (d, cur.next)
      | none => cur.faultAhead .invalidEscape

/-- Whether a character may not stand in a string. -/
def isControl (c : Char) : Bool := c.toNat < 0x20

/-- The characters up to the closing quote, in front of which those in `read` were read, the last
one first; `fuel` exceeds the number of characters left. -/
def readChars : Nat → List Char → Cursor → Except Fault (List Char × Cursor)
  | 0, _, cur => cur.fault .endInString
  | fuel + 1, read, cur =>
      match cur.rest with
      | [] => cur.fault .endInString
      | '"' :: _ => .ok (read.reverse, cur.next)
      | '\\' :: _ => do
          let (c, cur) ← readEscape cur.next
          readChars fuel (c :: read) cur
      | c :: _ =>
          if isControl c then cur.faultAhead .controlCharacter
          else readChars fuel (c :: read) cur.next

/-- The text of a string, behind its opening quote. -/
def readString (cur : Cursor) : Except Fault (String × Cursor) := do
  let (text, cur) ← readChars (cur.rest.length + 1) [] cur
  return (String.ofList text, cur)

/-- The cursor behind an escape, behind its backslash. -/
def skipEscape (cur : Cursor) : Except Fault Cursor :=
  match cur.rest with
  | [] => cur.fault .endInString
  | 'u' :: _ => (readUnit cur.next).map (·.2)
  | c :: _ => if (simpleEscape? c).isSome then .ok cur.next else cur.faultAhead .invalidEscape

/-- The cursor behind the closing quote; `fuel` exceeds the number of characters left. -/
def skipChars : Nat → Cursor → Except Fault Cursor
  | 0, cur => cur.fault .endInString
  | fuel + 1, cur =>
      match cur.rest with
      | [] => cur.fault .endInString
      | '"' :: _ => .ok cur.next
      | '\\' :: _ => do skipChars fuel (← skipEscape cur.next)
      | c :: _ => if isControl c then cur.fault .controlCharacter else skipChars fuel cur.next

/-- The cursor behind a string, of which the opening quote has been read. -/
def skipString (cur : Cursor) : Except Fault Cursor := skipChars (cur.rest.length + 1) cur

end AddonRegistry.Json
