/-! # Raw configuration values

What a configuration source yields before it is checked: texts, but also the other literals that a
configuration file can hold, and why a table of texts cannot be made from them.
-/

namespace ObjectModel.Config

/-- A literal of a configuration source. -/
inductive Raw
  | text (content : String)
  | int (number : Int)
  | bool (flag : Bool)
  | null
  | list (items : List Raw)
  deriving Repr

/-- The name of the class to which a literal belongs. -/
def Raw.className : Raw → String
  | .text _ => "String"
  | .int _ => "Integer"
  | .bool true => "TrueClass"
  | .bool false => "FalseClass"
  | .null => "NilClass"
  | .list _ => "Array"

/-- Why a configuration cannot be made, or a key not be read. -/
inductive Failure
  /-- The value of a key is not a text. -/
  | valueNotText (key kind : String)
  /-- A key is not a text. -/
  | keyNotText (kind : String)
  /-- A key occurs twice. -/
  | duplicateKey (key : String)
  /-- A line, counted from one, is no assignment. -/
  | malformedLine (line : Nat) (text : String)
  /-- The requested key is not in the table. -/
  | missingKey (key : String)
  /-- A file cannot be read. -/
  | unreadable (path reason : String)
  deriving DecidableEq, Repr

/-- The text of a failure. -/
def Failure.message : Failure → String
  | .valueNotText key kind => "value of " ++ key ++ " must be a String, not " ++ kind
  | .keyNotText kind => "configuration keys must be Strings, not " ++ kind
  | .duplicateKey key => "duplicate configuration key " ++ key
  | .malformedLine line text => "line " ++ toString line ++ ": cannot parse '" ++ text ++ "'"
  | .missingKey key => "key not found: " ++ key
  | .unreadable path reason => "cannot read " ++ path ++ ": " ++ reason

end ObjectModel.Config
