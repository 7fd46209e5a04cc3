/-! # Items of a list

A list literal is cut at its commas, except at those inside a quoted text or inside a nested list. The cut
loses nothing: the items joined by commas are the text again.
-/

namespace ObjectModel.Config

def isQuote (character : Char) : Bool := character = '\"' || character = '\x27'

/-- Where a reader of a list stands, going from left to right. -/
inductive Place
  /-- Outside quotes, inside the given number of brackets. -/
  | outside (depth : Nat)
  /-- Inside a text opened by the given quote. -/
  | inside (quote : Char) (depth : Nat)
  /-- Inside a quoted text, right after a backslash. -/
  | escaped (quote : Char) (depth : Nat)
  deriving DecidableEq, Repr

namespace Place

/-- Where the reader stands after one more character. A closing bracket without an opening one
changes nothing. -/
def step : Place → Char → Place
  | .outside depth, character =>
      if isQuote character then .inside character depth
      else if character = '[' then .outside (depth + 1)
      else if character = ']' then .outside (depth - 1)
      else .outside depth
  | .inside quote depth, character =>
      if character = '\\' then .escaped quote depth
      else if character = quote then .outside depth
      else .inside quote depth
  | .escaped quote depth, _ => .inside quote depth

/-- Whether a character read at a place separates two items. -/
def separates (place : Place) (character : Char) : Bool := place = .outside 0 && character = ','

/-- Whether a text may end at a place: no quote is open. -/
def isClosed : Place → Bool
  | .outside _ => true
  | _ => false

end Place

/-- Puts a character in front of the first of several pieces. -/
def attachFirst (character : Char) : List (List Char) → List (List Char)
  | [] => [[character]]
  | first :: rest => (character :: first) :: rest

/-- The pieces between the separating commas of a text that is read from the given place. -/
def cut (place : Place) : List Char → List (List Char)
  | [] => [[]]
  | character :: rest =>
      let pieces := cut (place.step character) rest
      if place.separates character then [] :: pieces else attachFirst character pieces

/-- The items of a list, if every quote in it is closed. -/
def splitItems (text : List Char) : Option (List (List Char)) :=
  if (text.foldl Place.step (.outside 0)).isClosed then some (cut (.outside 0) text) else none

/-- The characters that several pieces take up, with one more for each piece. -/
def extent : List (List Char) → Nat
  | [] => 0
  | piece :: rest => piece.length + 1 + extent rest

theorem length_lt_extent (piece : List Char) (rest : List (List Char)) :
    piece.length < extent (piece :: rest) := by
  simp only [extent]
  omega

theorem extent_lt_extent (piece : List Char) (rest : List (List Char)) :
    extent rest < extent (piece :: rest) := by
  simp only [extent]
  omega

theorem extent_attachFirst (character : Char) {pieces : List (List Char)} (filled : pieces ≠ []) :
    extent (attachFirst character pieces) = extent pieces + 1 := by
  cases pieces with
  | nil => exact absurd rfl filled
  | cons first rest => simp [extent, attachFirst]; omega

theorem cut_ne_nil (place : Place) (text : List Char) : cut place text ≠ [] := by
  cases text with
  | nil => simp [cut]
  | cons character rest =>
      by_cases separates : place.separates character = true
      · simp [cut, separates]
      · simp only [cut, separates, Bool.false_eq_true, if_false]
        cases cut (place.step character) rest <;> simp [attachFirst]

/-- The pieces and the commas between them take up the whole text. -/
theorem extent_cut (place : Place) (text : List Char) :
    extent (cut place text) = text.length + 1 := by
  induction text generalizing place with
  | nil => simp [cut, extent]
  | cons character rest ih =>
      by_cases separates : place.separates character = true
      · have extended := ih (place.step character)
        simp only [cut, separates, if_true, extent, List.length_nil, List.length_cons]
        omega
      · simp only [cut, separates, Bool.false_eq_true, if_false]
        rw [extent_attachFirst character (cut_ne_nil _ _), ih, List.length_cons]

theorem extent_splitItems {text : List Char} {items : List (List Char)}
    (split : splitItems text = some items) : extent items = text.length + 1 := by
  unfold splitItems at split
  split at split
  · cases split
    exact extent_cut _ text
  · cases split

end ObjectModel.Config
