import ObjectModel.Decimal.Binary

/-! # Shortest digits

The fewest decimal digits that identify a binary magnitude: of all decimals that lie among the reals rounding
to it, one with the fewest digits, and of those the nearest; between two equally near ones the larger.
The selection works on exact integers.
-/

namespace ObjectModel.Decimal

/-- The number of decimal digits of a number; zero has one. -/
def digitCount (number : Nat) : Nat := (Nat.toDigits 10 number).length

/-- A decimal `0.d₁d₂… * 10 ^ point`, its digits most significant first and without zeros at the end. -/
structure Digits where
  digits : List Char
  point : Int
  deriving DecidableEq, Repr

/-- The digits of a number without the zeros at its end. -/
def significantDigits (number : Nat) : List Char :=
  ((Nat.toDigits 10 number).reverse.dropWhile (· = '0')).reverse

namespace Binary

/-- The least power of ten above a magnitude that is not zero. -/
def scale (magnitude : Binary) : Int :=
  if magnitude.denominator ≤ magnitude.numerator then
    digitCount (magnitude.numerator / magnitude.denominator)
  else
    1 - (digitCount ((magnitude.denominator - 1) / magnitude.numerator) : Int)

/-- The factor by which the numerator grows on the grid of the given power of ten. -/
def gridUp (power : Int) : Nat := Nat.pow 10 (-power).toNat

/-- The factor by which the denominator grows on the grid of the given power of ten. -/
def gridDown (power : Int) : Nat := Nat.pow 10 power.toNat

/-- Whether `count * 10 ^ power` lies among the reals that round to the magnitude; an end of that
interval belongs to it when the significand is even. -/
def readsBack (magnitude : Binary) (count : Nat) (power : Int) : Bool :=
  let unit := Nat.pow 2 magnitude.exponent.toNat * gridUp power
  let least := 4 * magnitude.significand - (if magnitude.narrowBelow then 1 else 2)
  let greatest := 4 * magnitude.significand + 2
  let position := 4 * count * (magnitude.denominator * gridDown power)
  if magnitude.significand % 2 = 0 then least * unit ≤ position && position ≤ greatest * unit
  else least * unit < position && position < greatest * unit

/-- The point of the grid of the given power of ten that identifies the magnitude and is nearest to it. -/
def nearestOn (magnitude : Binary) (power : Int) : Option Nat :=
  let above := magnitude.numerator * gridUp power
  let below := magnitude.denominator * gridDown power
  let floor := above / below
  match magnitude.readsBack floor power, magnitude.readsBack (floor + 1) power with
  | true, true => if 2 * above < (2 * floor + 1) * below then some floor else some (floor + 1)
  | true, false => some floor
  | false, true => some (floor + 1)
  | false, false => none

/-- The decimal `count * 10 ^ power` with its digits spelled out. -/
def spell (count : Nat) (power : Int) : Digits :=
  { digits := significantDigits count, point := digitCount count + power }

/-- The exact decimal expansion of the magnitude. -/
def exact (magnitude : Binary) : Digits :=
  spell (magnitude.numerator * Nat.pow 5 (-magnitude.exponent).toNat) (min magnitude.exponent 0)

/-- The shortest decimal that identifies a magnitude other than zero: the grids from one digit to
seventeen are tried in turn. -/
def shortest (magnitude : Binary) : Digits :=
  let found := (List.range 17).findSome? fun (extra : Nat) =>
    let power := magnitude.scale - (extra + 1)
    (magnitude.nearestOn power).map (spell · power)
  found.getD magnitude.exact

end Binary

end ObjectModel.Decimal
