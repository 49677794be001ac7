import AddonRegistry.Json.Cursor
import AddonRegistry.Json.Shortest

/-!
# Numbers in a JSON text

A number without point and exponent is an integer if it fits in 64 bits, and all others are
floating-point numbers.  Their value is found with one multiplication or division: as many digits as
fit in 64 bits, times a power of ten.

* `readNumber` — a number, of which a minus sign has been read.
* `skipNumber` — the end of a number whose value does not matter, however large it is.
-/

namespace AddonRegistry.Json

/-- A number. -/
inductive Number where
  | natural (value : Nat)
  /-- Minus a positive number. -/
  | negative (value : Nat)
  | real (value : Float)

/-- The first number that does not fit in 64 bits. -/
def wordLimit : Nat := 0x10000000000000000

/-- The value of a digit. -/
def digitValue (c : Char) : Nat := c.toNat - '0'.toNat

/-- Reads digits behind a significand as long as it fits in 64 bits; the number of digits that were
read comes with it. -/
def extend (significand : Nat) : List Char → Nat × Nat
  | [] => (significand, 0)
  | c :: rest =>
      let longer := significand * 10 + digitValue c
      if longer < wordLimit then
        let (whole, count) := extend longer rest
        (whole, count + 1)
      else (significand, 0)

/-- The digits that come next. -/
def digitsAt (cur : Cursor) : List Char := cur.rest.takeWhile Char.isDigit

/-- The cursor behind the digits that come next. -/
def skipDigits (cur : Cursor) : Cursor := Cursor.skip (digitsAt cur).length cur

/-- A number times a power of ten, if it is not too large; `fuel` bounds the number of divisions. -/
def timesPowerOfTen : Nat → Float → Int → Option Float
  | _, x, .ofNat power =>
      if power ≤ 308 then
        let product := x * Float.ofScientific 1 false power
        if product.isInf then none else some product
      else if x == 0 then some x
      else none
  | fuel, x, .negSucc power =>
      if power < 308 then some (x / Float.ofScientific 1 false (power + 1))
      else
        match fuel with
        | 0 => some x
        | fuel + 1 =>
            if x == 0 then some x
            else timesPowerOfTen fuel (x / Float.ofScientific 1 false 308) (.negSucc power + 308)

/-- The floating-point number with given parts. -/
def floatOfParts (negative : Bool) (significand : Nat) (exponent : Int) (cur : Cursor) :
    Except Fault (Number × Cursor) :=
  match timesPowerOfTen 4 significand.toUInt64.toFloat exponent with
  | some x => .ok (.real (if negative then -x else x), cur)
  | none => cur.fault .numberTooLarge

/-- The exponent that digits stand for, or how many of them are too many. -/
def exponentOf (value read : Nat) : List Char → Except Nat Nat
  | [] => .ok value
  | c :: rest =>
      let longer := value * 10 + digitValue c
      if longer < 0x80000000 then exponentOf longer (read + 1) rest else .error (read + 1)

/-- Reads the exponent of a number, behind its letter. -/
def readExponent (negative : Bool) (significand : Nat) (exponent : Int) (cur : Cursor) :
    Except Fault (Number × Cursor) :=
  let (down, cur) :=
    match cur.rest with
    | '-' :: _ => (true, cur.next)
    | '+' :: _ => (false, cur.next)
    | _ => (false, cur)
  match digitsAt cur with
  | [] => if cur.rest.isEmpty then cur.fault .endInValue else cur.faultAhead .invalidNumber
  | digits =>
      match exponentOf 0 0 digits with
      | .ok power =>
          floatOfParts negative significand (if down then exponent - power else exponent + power)
            (skipDigits cur)
      | .error read =>
          if significand ≠ 0 && !down then (Cursor.skip read cur).fault .numberTooLarge
          else .ok (.real (if negative then -0.0 else 0.0), skipDigits cur)

/-- Whether a letter starts an exponent. -/
def startsExponent (cur : Cursor) : Bool :=
  match cur.rest with
  | 'e' :: _ | 'E' :: _ => true
  | _ => false

/-- Reads the places of a number, behind its point. -/
def readPlaces (negative : Bool) (significand : Nat) (exponent : Int) (cur : Cursor) :
    Except Fault (Number × Cursor) :=
  match digitsAt cur with
  | [] => if cur.rest.isEmpty then cur.fault .endInValue else cur.faultAhead .invalidNumber
  | digits =>
      let (significand, count) := extend significand digits
      let cur := skipDigits cur
      if startsExponent cur then readExponent negative significand (exponent - count) cur.next
      else floatOfParts negative significand (exponent - count) cur

/-- The integer with a sign and a value. -/
def integer (negative : Bool) (value : Nat) : Number :=
  if !negative then .natural value
  else if value = 0 || 0x8000000000000000 < value then .real (-(value.toUInt64.toFloat))
  else .negative value

/-- Reads a number, of which a minus sign has been read. -/
def readNumber (negative : Bool) (cur : Cursor) : Except Fault (Number × Cursor) :=
  match digitsAt cur with
  | [] => if cur.rest.isEmpty then cur.fault .endInValue else cur.faultAhead .invalidNumber
  | '0' :: _ :: _ => cur.next.faultAhead .invalidNumber
  | digits =>
      let (significand, count) := extend 0 digits
      let dropped : Int := digits.length - count
      let cur := skipDigits cur
      match cur.rest with
      | '.' :: _ => readPlaces negative significand dropped cur.next
      | _ =>
          if startsExponent cur then readExponent negative significand dropped cur.next
          else if dropped = 0 then .ok (integer negative significand, cur)
          else floatOfParts negative significand dropped cur

/-- The cursor behind an exponent, of which the letter has been read. -/
def skipExponent (cur : Cursor) : Except Fault Cursor :=
  let cur :=
    match cur.rest with
    | '-' :: _ | '+' :: _ => cur.next
    | _ => cur
  if (digitsAt cur).isEmpty then cur.faultAhead .invalidNumber else .ok (skipDigits cur)

/-- The cursor behind a number, of which a minus sign has been read. -/
def skipNumber (cur : Cursor) : Except Fault Cursor :=
  match digitsAt cur with
  | [] => cur.faultAhead .invalidNumber
  | '0' :: _ :: _ => cur.next.faultAhead .invalidNumber
  | _ =>
      let cur := skipDigits cur
      match cur.rest with
      | '.' :: _ =>
          let cur := cur.next
          if (digitsAt cur).isEmpty then cur.faultAhead .invalidNumber
          else
            let cur := skipDigits cur
            if startsExponent cur then skipExponent cur.next else .ok cur
      | _ => if startsExponent cur then skipExponent cur.next else .ok cur

end AddonRegistry.Json
