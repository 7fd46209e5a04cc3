import ObjectModel.Text.Digits

/-! # JSON texts

The values that the command line prints as JSON, on one line and without blanks. The members of an object
are written in the order of their names, and of two members of one name the later one counts.
-/

namespace ObjectModel.Text

/-- What is printed as JSON: texts, truth values, the absent value, lists and flat objects. -/
inductive Json
  | null
  | bool (value : Bool)
  | text (value : String)
  | list (items : List Json)
  | object (members : List (String × Json))

namespace Json

/-- The form of a character inside a JSON string: short escapes, then numbers for the other controls. -/
def stringChar (character : Char) : List Char :=
  if character = '\"' then ['\\', '\"']
  else if character = '\\' then ['\\', '\\']
  else if character = '\n' then ['\\', 'n']
  else if character = '\r' then ['\\', 'r']
  else if character = '\t' then ['\\', 't']
  else if character = '\x08' then ['\\', 'b']
  else if character = '\x0c' then ['\\', 'f']
  else if character.toNat < 0x20 then '\\' :: 'u' :: (paddedHex 4 character.toNat).toList
  else [character]

/-- A text as a JSON string. -/
def string (text : String) : String :=
  String.ofList ('\"' :: text.toList.flatMap stringChar ++ ['\"'])

/-- Puts a member into a list sorted by name; a member of the same name is replaced. -/
def insertMember (name : String) (value : String) :
    List (String × String) → List (String × String)
  | [] => [(name, value)]
  | (other, old) :: rest =>
      if name = other then (name, value) :: rest
      else if name < other then (name, value) :: (other, old) :: rest
      else (other, old) :: insertMember name value rest

mutual

/-- The text of a value. -/
def render : Json → String
  | .null => "null"
  | .bool value => if value then "true" else "false"
  | .text value => string value
  | .list items => "[" ++ ",".intercalate (renderAll items) ++ "]"
  | .object members =>
      let sorted := (renderMembers members).foldl
        (fun done member => insertMember member.1 member.2 done) []
      "\x7b" ++ ",".intercalate (sorted.map fun member => string member.1 ++ ":" ++ member.2) ++ "\x7d"

/-- The texts of several values. -/
def renderAll : List Json → List String
  | [] => []
  | item :: rest => render item :: renderAll rest

/-- The members of an object with their values written out, in the given order. -/
def renderMembers : List (String × Json) → List (String × String)
  | [] => []
  | (name, value) :: rest => (name, render value) :: renderMembers rest

end

end Json

end ObjectModel.Text
