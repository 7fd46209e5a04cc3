import ObjectModel.Text.Digits
import ObjectModel.Text.Glyph

/-! # Quoted texts

A text between double quotes, readable on one line: the quote, the backslash and the usual controls have
short escapes, any other character without a glyph of its own is shown by its number.
-/

namespace ObjectModel.Text

/-- A character shown by its number: `\u`, then the shortest hexadecimal form in braces. -/
def numberEscape (character : Char) : List Char :=
  '\\' :: 'u' :: '\x7b' :: hexDigits character.toNat ++ ['\x7d']

/-- The form of a character inside a quoted text. -/
def quotedChar (character : Char) : List Char :=
  if character = '\x00' then ['\\', '0']
  else if character = '\t' then ['\\', 't']
  else if character = '\r' then ['\\', 'r']
  else if character = '\n' then ['\\', 'n']
  else if character = '\\' then ['\\', '\\']
  else if character = '\"' then ['\\', '\"']
  else if isHidden character then numberEscape character
  else [character]

/-- The text in double quotes, escaped. -/
def quoted (text : String) : String :=
  String.ofList ('\"' :: text.toList.flatMap quotedChar ++ ['\"'])

end ObjectModel.Text
