/-!
# Numbers in decimal

A binary floating-point number is written with the fewest digits that read back as the same number.
Several numbers of that many digits may do so; the one nearest to the exact value is taken, and
halfway between two of them the one with the even last digit.

* `Decimal` — digits and a power of ten.
* `shortest` — the digits of a number.
* `floatText` — how they are written: with a point, unless the exponent is large.
-/

namespace AddonRegistry.Json

/-- The number `digits` times ten to the power `exponent`. -/
structure Decimal where
  digits : Nat
  exponent : Int
  deriving DecidableEq, Repr

/-- A positive fraction. -/
structure Fraction where
  numerator : Nat
  denominator : Nat

namespace Fraction

/-- A fraction times a power of `base`. -/
def scale (base : Nat) (f : Fraction) : Int → Fraction
  | .ofNat power => ⟨f.numerator * Nat.pow base power, f.denominator⟩
  | .negSucc power => ⟨f.numerator, f.denominator * Nat.pow base (power + 1)⟩

/-- Whether a fraction is at most another. -/
def le (f g : Fraction) : Bool := f.numerator * g.denominator ≤ g.numerator * f.denominator

/-- The largest power of ten that is not above a fraction, for fractions below one: the number of
places to move; `fuel` bounds it. -/
def placesDown : Nat → Fraction → Nat
  | 0, _ => 0
  | fuel + 1, f =>
      if f.denominator ≤ f.numerator then 0
      else placesDown fuel ⟨f.numerator * 10, f.denominator⟩ + 1

/-- The exponent of the largest power of ten that is not above a fraction. -/
def decimalExponent (f : Fraction) : Int :=
  if f.denominator ≤ f.numerator then
    ((Nat.toDigits 10 (f.numerator / f.denominator)).length : Int) - 1
  else -(placesDown 400 f : Int)

/-- The distance of a fraction from a multiple of a power of ten. -/
def distance (f : Fraction) (d : Decimal) : Fraction :=
  let grid := f.scale 10 (-d.exponent)
  let point := d.digits * grid.denominator
  ⟨if point ≤ grid.numerator then grid.numerator - point else point - grid.numerator,
    grid.denominator⟩

end Fraction

/-- A positive binary number with the numbers halfway to its neighbours, in quarters of the unit of
its last place. -/
structure Binary where
  significand : Nat
  exponent : Int
  /-- Whether the neighbour below is only half as far as the one above. -/
  isPower : Bool

namespace Binary

/-- The bit in front of the point of a significand, which is not stored. -/
def leadingBit : Nat := 0x10000000000000

/-- The parts of a positive floating-point number that is not infinite. -/
def ofFloat (x : Float) : Binary :=
  let bits : Nat := x.toBits.toNat
  let fraction : Nat := bits % leadingBit
  let biased : Nat := bits / leadingBit % 2048
  if biased = 0 then ⟨fraction, -1074, false⟩
  else ⟨fraction + leadingBit, (biased : Int) - 1075, fraction = 0 && 1 < biased⟩

/-- A number of quarters of the unit of the last place. -/
def quarters (b : Binary) (count : Nat) : Fraction :=
  Fraction.scale 2 ⟨count, 1⟩ (b.exponent - 2)

/-- The exact value. -/
def value (b : Binary) : Fraction := b.quarters (4 * b.significand)

/-- Whether a decimal number is nearer to this number than to its neighbours.  Halfway, the number
with the even significand wins. -/
def readsAs (b : Binary) (d : Decimal) : Bool :=
  let low := b.quarters (4 * b.significand - if b.isPower then 1 else 2)
  let high := b.quarters (4 * b.significand + 2)
  let exact := Fraction.scale 10 ⟨d.digits, 1⟩ d.exponent
  if b.significand % 2 = 0 then low.le exact && exact.le high
  else !(exact.le low) && !(high.le exact)

/-- The nearest decimal number with a number of digits that reads as this number; halfway between
two of them, the even one. -/
def withDigits? (b : Binary) (count : Nat) : Option Decimal :=
  let exponent := b.value.decimalExponent - (count : Int) + 1
  let grid := b.value.scale 10 (-exponent)
  let lower : Decimal := ⟨grid.numerator / grid.denominator, exponent⟩
  let upper : Decimal := ⟨grid.numerator / grid.denominator + 1, exponent⟩
  match b.readsAs lower, b.readsAs upper with
  | true, true =>
      let below := b.value.distance lower
      let above := b.value.distance upper
      some <|
        if !below.le above then upper
        else if !above.le below then lower
        else if lower.digits % 2 = 0 then lower else upper
  | true, false => some lower
  | false, true => some upper
  | false, false => none

/-- The shortest decimal number that reads as this number. -/
def shortest (b : Binary) : Decimal :=
  ((List.range 17).findSome? fun count => b.withDigits? (count + 1)).getD ⟨0, 0⟩

end Binary

/-- A decimal number without zeros at the end of its digits; `fuel` bounds their number. -/
def Decimal.stripZeros : Nat → Decimal → Decimal
  | 0, d => d
  | fuel + 1, d =>
      if d.digits % 10 = 0 ∧ d.digits ≠ 0 then stripZeros fuel ⟨d.digits / 10, d.exponent + 1⟩ else d

/-- A number of zeros. -/
def zeros (count : Int) : List Char := List.replicate count.toNat '0'

/-- A power of ten behind its letter; the sign is always there. -/
def powerText (power : Int) : List Char :=
  'e' :: (if power < 0 then '-' else '+') :: Nat.toDigits 10 power.natAbs

/-- A decimal number with a point.  Beyond sixteen places in front of the point or five behind it,
the power of ten is written behind the digits. -/
def Decimal.text (d : Decimal) : List Char :=
  let digits := Nat.toDigits 10 d.digits
  let point : Int := digits.length + d.exponent
  if 0 ≤ d.exponent ∧ point ≤ 16 then digits ++ zeros d.exponent ++ ['.', '0']
  else if 0 < point ∧ point ≤ 16 then digits.take point.toNat ++ '.' :: digits.drop point.toNat
  else if -5 < point ∧ point ≤ 0 then '0' :: '.' :: (zeros (-point) ++ digits)
  else
    match digits with
    | [digit] => digit :: powerText (point - 1)
    | first :: rest => first :: '.' :: (rest ++ powerText (point - 1))
    | [] => []

/-- The bit of the sign. -/
def signBit : Nat := 0x8000000000000000

/-- The text of a floating-point number that is not infinite. -/
def floatText (x : Float) : String :=
  let sign := if signBit ≤ x.toBits.toNat then ['-'] else []
  if x.toBits.toNat % signBit = 0 then String.ofList (sign ++ "0.0".toList)
  else
    String.ofList (sign ++ (Decimal.stripZeros 400 (Binary.ofFloat x).shortest).text)

end AddonRegistry.Json
