/-! # Binary magnitudes

A binary64 word read as exact integers: a finite magnitude is `significand * 2 ^ exponent`. Everything that
is said about the decimal text of a number is said about these two integers.
-/

namespace ObjectModel.Decimal

/-- A finite magnitude of a binary64 word, `significand * 2 ^ exponent`. -/
structure Binary where
  significand : Nat
  exponent : Int
  /-- The gap to the magnitude below is half the gap to the magnitude above. -/
  narrowBelow : Bool
  deriving DecidableEq, Repr

def isNegative (bits : UInt64) : Bool := 0x8000000000000000 ≤ bits.toNat

def exponentField (bits : UInt64) : Nat := bits.toNat / 0x10000000000000 % 0x800

def fractionField (bits : UInt64) : Nat := bits.toNat % 0x10000000000000

/-- Whether a word is one of the values that are not numbers. -/
def isNotNumber (bits : UInt64) : Bool := exponentField bits = 2047 && fractionField bits ≠ 0

def isInfinite (bits : UInt64) : Bool := exponentField bits = 2047 && fractionField bits = 0

/-- The magnitude of a word that is neither infinite nor without number. -/
def Binary.ofBits (bits : UInt64) : Binary :=
  if exponentField bits = 0 then
    { significand := fractionField bits, exponent := -1074, narrowBelow := false }
  else
    { significand := 0x10000000000000 + fractionField bits
      exponent := (exponentField bits : Int) - 1075
      narrowBelow := fractionField bits = 0 && 1 < exponentField bits }

namespace Binary

/-- The numerator of the magnitude as a fraction of integers. -/
def numerator (magnitude : Binary) : Nat := magnitude.significand * Nat.pow 2 magnitude.exponent.toNat

/-- The denominator of the magnitude as a fraction of integers; never zero. -/
def denominator (magnitude : Binary) : Nat := Nat.pow 2 (-magnitude.exponent).toNat

def isWhole (magnitude : Binary) : Bool := magnitude.numerator % magnitude.denominator = 0

end Binary

end ObjectModel.Decimal
