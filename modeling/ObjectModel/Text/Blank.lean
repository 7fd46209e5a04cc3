/-! # Blank characters

The characters with the Unicode property `White_Space`, and the texts that remain when they are taken
off both ends.
-/

namespace ObjectModel.Text

/-- Closed ranges of code points, ascending and apart: the property `White_Space`. -/
def blankRanges : List (Nat × Nat) :=
  [(0x09, 0x0D), (0x20, 0x20), (0x85, 0x85), (0xA0, 0xA0), (0x1680, 0x1680), (0x2000, 0x200A),
    (0x2028, 0x2029), (0x202F, 0x202F), (0x205F, 0x205F), (0x3000, 0x3000)]

/-- Whether a code point lies in one of the ranges. -/
def inRanges (ranges : List (Nat × Nat)) (code : Nat) : Bool :=
  ranges.any fun range => range.1 ≤ code && code ≤ range.2

def isBlank (character : Char) : Bool := inRanges blankRanges character.toNat

def trimEnd (text : List Char) : List Char := (text.reverse.dropWhile isBlank).reverse

def trim (text : List Char) : List Char := trimEnd (text.dropWhile isBlank)

theorem length_trimEnd_le (text : List Char) : (trimEnd text).length ≤ text.length := by
  have bound := (List.dropWhile_sublist isBlank (l := text.reverse)).length_le
  simpa [trimEnd] using bound

theorem length_trim_le (text : List Char) : (trim text).length ≤ text.length :=
  Nat.le_trans (length_trimEnd_le _) (List.dropWhile_sublist isBlank).length_le

end ObjectModel.Text
