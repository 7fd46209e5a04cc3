/-! # Names

Which texts may name a constant or an instance variable, and the constant names under which a text
such as `Shift_JIS` or `eucJP` is reachable. All letters and digits here are the ASCII ones. Names joined by
double colons make a path.
-/

namespace ObjectModel.Name

/-- A capital letter from `A` to `Z`. -/
def isCapital (character : Char) : Bool := 'A' ≤ character && character ≤ 'Z'

/-- A small letter from `a` to `z`. -/
def isSmall (character : Char) : Bool := 'a' ≤ character && character ≤ 'z'

def isNumeral (character : Char) : Bool := '0' ≤ character && character ≤ '9'

/-- A letter or a digit. -/
def isLetterOrNumeral (character : Char) : Bool :=
  isCapital character || isSmall character || isNumeral character

def isInner (character : Char) : Bool := isLetterOrNumeral character || character = '_'

/-- A capital letter followed by letters, digits and underscores. -/
def isConstantChars : List Char → Bool
  | [] => false
  | first :: rest => isCapital first && rest.all isInner

/-- An `@`, then a letter or an underscore, then letters, digits and underscores. -/
def isVariableChars : List Char → Bool
  | '@' :: first :: rest => (isCapital first || isSmall first || first = '_') && rest.all isInner
  | _ => false

def isConstant (text : String) : Bool := isConstantChars text.toList

def isVariable (text : String) : Bool := isVariableChars text.toList

/-- The capital form of a small letter; other characters stay. -/
def capital (character : Char) : Char :=
  if isSmall character then Char.ofNat (character.toNat - 32) else character

/-- A character with everything but letters and digits replaced by an underscore. -/
def innerForm (character : Char) : Char := if isLetterOrNumeral character then character else '_'

/-- A text spelled as a constant name: inner characters only, with a capital first letter. -/
def constantForm : List Char → List Char
  | [] => []
  | first :: rest => capital (innerForm first) :: rest.map innerForm

/-- The constant names of a text: its constant form and the same in capitals, if these are names at
all. -/
def constantSpellings (text : String) : List String :=
  let base := constantForm text.toList
  let capitals := base.map capital
  if isConstantChars base then
    String.ofList base :: (if capitals = base then [] else [String.ofList capitals])
  else []

/-! ## Paths -/

/-- Cuts a path at its first double colon. -/
def cutPath : List Char → List Char × Option (List Char)
  | [] => ([], none)
  | ':' :: ':' :: rest => ([], some rest)
  | character :: rest =>
      let (segment, more) := cutPath rest
      (character :: segment, more)

/-- The segments of a path between double colons, at most as many as the given bound. -/
def segmentsWithin : Nat → List Char → List String
  | 0, _ => []
  | fuel + 1, path =>
      let (segment, rest) := cutPath path
      String.ofList segment :: (rest.map (segmentsWithin fuel)).getD []

/-- The segments of a path between double colons. -/
def segments (path : String) : List String :=
  segmentsWithin (path.length + 1) path.toList

end ObjectModel.Name
