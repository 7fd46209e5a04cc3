import ObjectModel.Config.Items
import ObjectModel.Config.Raw
import ObjectModel.Text.Blank

/-! # Literals

The value on the right of an assignment: a quoted text, a list in brackets, one of the words `nil`, `true` and
`false`, an integer of 64 bits, or any other word, which stands for itself.
-/

namespace ObjectModel.Config

open Text

/-- The character that stands for an escaped one. -/
def unescape (character : Char) : Char :=
  if character = 'n' then '\n' else if character = 't' then '\t' else character

/-- The text up to the closing quote; after that quote only blanks may follow. -/
def readQuoted (quote : Char) : List Char → Option (List Char)
  | [] => none
  | ['\\'] => none
  | '\\' :: escaped :: rest => (readQuoted quote rest).map (unescape escaped :: ·)
  | character :: rest =>
      if character = quote then (if rest.all isBlank then some [] else none)
      else (readQuoted quote rest).map (character :: ·)

/-- The number that a text of digits stands for. -/
def readDigits (digits : List Char) : Option Nat :=
  if digits ≠ [] && digits.all Char.isDigit then
    some (digits.foldl (fun number digit => number * 10 + (digit.toNat - 48)) 0)
  else none

/-- An integer of 64 bits: digits, with a sign in front if wanted. -/
def readInt (text : List Char) : Option Int :=
  let signed : Option Int :=
    match text with
    | '-' :: digits => (readDigits digits).map fun number => -(number : Int)
    | '+' :: digits => (readDigits digits).map Int.ofNat
    | digits => (readDigits digits).map Int.ofNat
  signed.filter fun number => -0x8000000000000000 ≤ number && number < 0x8000000000000000

/-- A word without quotes and brackets. -/
def readWord (text : List Char) : Raw :=
  if text = "nil".toList then .null
  else if text = "true".toList then .bool true
  else if text = "false".toList then .bool false
  else match readInt text with
    | some number => .int number
    | none => .text (String.ofList text)

/-- The text between an opening bracket and a closing one at the end, without the blanks around it. -/
def bracketed (rest : List Char) : Option (List Char) :=
  if rest.getLast? = some ']' then some (trim rest.dropLast) else none

theorem length_bracketed {rest inner : List Char} (found : bracketed rest = some inner) :
    inner.length + 1 ≤ rest.length := by
  unfold bracketed at found
  split at found
  · cases found
    have shorter := length_trim_le rest.dropLast
    cases rest with
    | nil => simp_all
    | cons first more => simp only [List.length_dropLast, List.length_cons] at shorter ⊢; omega
  · cases found

mutual

/-- The value of a text without blanks at its ends, or nothing if its quotes or brackets are broken. -/
def readValue (text : List Char) : Option Raw :=
  match text with
  | [] => some (readWord [])
  | first :: rest =>
      if isQuote first then (readQuoted first rest).map fun content => .text (String.ofList content)
      else if first = '[' then
        match found : bracketed rest with
        | none => none
        | some [] => some (.list [])
        | some inner =>
            match cuts : splitItems inner with
            | none => none
            | some items =>
                have : extent items < rest.length + 1 :=
                  Nat.lt_succ_of_le (extent_splitItems cuts ▸ length_bracketed found)
                (readItems items).map .list
      else some (readWord (first :: rest))
termination_by text.length

/-- The values of several items, if each of them has one. -/
def readItems (items : List (List Char)) : Option (List Raw) :=
  match items with
  | [] => some []
  | item :: rest => do
      let value ← readValue (trim item)
      let values ← readItems rest
      pure (value :: values)
termination_by extent items
decreasing_by
  · exact Nat.lt_of_le_of_lt (length_trim_le item) (length_lt_extent item rest)
  · exact extent_lt_extent item rest

end

end ObjectModel.Config
