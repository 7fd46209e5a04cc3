/-! # Symbols

A symbol stands for a text by its position in a table of names. The table hands out positions in the order in
which texts are first seen and never forgets one.
-/

namespace ObjectModel

/-- A name by its position in the table of names. -/
structure Symbol where
  index : Nat
  deriving DecidableEq, Repr

/-- The symbol at a position, of which the low 32 bits are kept. -/
def Symbol.ofNat (position : Nat) : Symbol := ⟨position % 0x100000000⟩

/-- The table of names, in the order in which they were first seen. -/
structure Interner where
  names : List String
  deriving DecidableEq, Repr

namespace Interner

def empty : Interner := ⟨[]⟩

def size (interner : Interner) : Nat := interner.names.length

def isEmpty (interner : Interner) : Bool := interner.names.isEmpty

/-- The symbol of a text that is in the table. -/
def find? (interner : Interner) (text : String) : Option Symbol :=
  (interner.names.findIdx? (· = text)).map Symbol.mk

def contains (interner : Interner) (text : String) : Bool := (interner.find? text).isSome

/-- The text of a symbol, if the table has handed it out. -/
def text? (interner : Interner) (symbol : Symbol) : Option String := interner.names[symbol.index]?

/-- The symbol of a text, and the table that has it; a text seen for the first time goes to the end. -/
def intern (interner : Interner) (text : String) : Symbol × Interner :=
  match interner.find? text with
  | some symbol => (symbol, interner)
  | none => (⟨interner.names.length⟩, ⟨interner.names ++ [text]⟩)

/-- Interns several texts in turn. -/
def internAll (interner : Interner) (texts : List String) : Interner :=
  texts.foldl (fun table text => (table.intern text).2) interner

end Interner

end ObjectModel
