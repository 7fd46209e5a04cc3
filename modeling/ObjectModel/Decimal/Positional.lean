import ObjectModel.Decimal.Shortest

/-! # Positional text

The text of a binary64 word with the shortest digits and never an exponent. A whole number has no point here;
`decimalText` is the form in which numbers are displayed to a reader, with `.0` after whole numbers below
`10 ^ 16`.
-/

namespace ObjectModel.Decimal

/-- Digits set out around their point. -/
def Digits.positional (decimal : Digits) : List Char :=
  let length := decimal.digits.length
  if decimal.point ≤ 0 then
    '0' :: '.' :: List.replicate (-decimal.point).toNat '0' ++ decimal.digits
  else if (length : Int) ≤ decimal.point then
    decimal.digits ++ List.replicate (decimal.point.toNat - length) '0'
  else
    decimal.digits.take decimal.point.toNat ++ '.' :: decimal.digits.drop decimal.point.toNat

/-- The text of a finite magnitude. -/
def Binary.positional (magnitude : Binary) : String :=
  if magnitude.significand = 0 then "0" else String.ofList magnitude.shortest.positional

def signText (bits : UInt64) : String := if isNegative bits then "-" else ""

/-- The shortest positional text of a word. -/
def positionalText (bits : UInt64) : String :=
  if isNotNumber bits then "NaN"
  else if isInfinite bits then signText bits ++ "inf"
  else signText bits ++ (Binary.ofBits bits).positional

/-- The displayed text of a word: whole numbers below `10 ^ 16` end in `.0`, the infinities are spelled
out. -/
def decimalText (bits : UInt64) : String :=
  if isNotNumber bits then "NaN"
  else if isInfinite bits then signText bits ++ "Infinity"
  else
    let magnitude := Binary.ofBits bits
    let small := magnitude.isWhole && magnitude.numerator < 10000000000000000 * magnitude.denominator
    signText bits ++ magnitude.positional ++ (if small then ".0" else "")

end ObjectModel.Decimal
