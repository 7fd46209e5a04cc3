/-! # Hexadecimal digits

Numbers written in base sixteen with small letters, either as short as possible or padded with zeros.
-/

namespace ObjectModel.Text

/-- The digits of a number in base sixteen, most significant first; zero is one digit. -/
def hexDigits (number : Nat) : List Char := Nat.toDigits 16 number

/-- The digits in base sixteen, padded with zeros on the left to the given width. -/
def paddedHex (width number : Nat) : String :=
  let digits := hexDigits number
  String.ofList (List.replicate (width - digits.length) '0' ++ digits)

/-- Sixteen digits in base sixteen: the form in which handles and words are shown. -/
def hex16 (number : Nat) : String := paddedHex 16 number

end ObjectModel.Text
