/-! # Ordered tables

A table maps keys to entries and remembers the order in which its keys arrived. Writing to a key that is
present moves nothing; erasing a key closes the gap.
-/

namespace ObjectModel

/-- A table in order of arrival. -/
structure Table (κ α : Type) where
  entries : List (κ × α)
  deriving DecidableEq, Repr

namespace Table

variable {κ α : Type} [DecidableEq κ]

def empty : Table κ α := ⟨[]⟩

def keys (table : Table κ α) : List κ := table.entries.map Prod.fst

def size (table : Table κ α) : Nat := table.entries.length

def isEmpty (table : Table κ α) : Bool := table.entries.isEmpty

/-- The first entry of a key in a list of pairs. -/
def look (key : κ) : List (κ × α) → Option α
  | [] => none
  | (other, entry) :: rest => if other = key then some entry else look key rest

def find? (table : Table κ α) (key : κ) : Option α := look key table.entries

def contains (table : Table κ α) (key : κ) : Bool := (table.find? key).isSome

/-- A list of pairs with the entry of a key replaced, or put at the end if the key is new. -/
def put (key : κ) (entry : α) : List (κ × α) → List (κ × α)
  | [] => [(key, entry)]
  | (other, old) :: rest =>
      if other = key then (key, entry) :: rest else (other, old) :: put key entry rest

/-- The table with an entry for a key: in place if the key is present, else at the end. -/
def insert (table : Table κ α) (key : κ) (entry : α) : Table κ α := ⟨put key entry table.entries⟩

/-- The table without a key; the other entries keep their order. -/
def erase (table : Table κ α) (key : κ) : Table κ α :=
  ⟨table.entries.filter fun pair => pair.1 ≠ key⟩

/-- The table with the entry of a key changed, if it has one. -/
def adjust (table : Table κ α) (key : κ) (change : α → α) : Table κ α :=
  match table.find? key with
  | some entry => table.insert key (change entry)
  | none => table

theorem look_put_self (key : κ) (entry : α) (pairs : List (κ × α)) :
    look key (put key entry pairs) = some entry := by
  induction pairs with
  | nil => simp [put, look]
  | cons pair rest ih =>
      by_cases same : pair.1 = key <;> simp [put, look, same, ih]

theorem look_put_of_ne {key other : κ} (distinct : other ≠ key) (entry : α)
    (pairs : List (κ × α)) : look other (put key entry pairs) = look other pairs := by
  induction pairs with
  | nil => simp [put, look, Ne.symm distinct]
  | cons pair rest ih =>
      by_cases same : pair.1 = key
      · simp [put, look, same, Ne.symm distinct]
      · simp [put, look, same, ih]

@[simp] theorem find?_insert_self (table : Table κ α) (key : κ) (entry : α) :
    (table.insert key entry).find? key = some entry :=
  look_put_self key entry table.entries

theorem find?_insert_of_ne {key other : κ} (distinct : other ≠ key) (table : Table κ α)
    (entry : α) : (table.insert key entry).find? other = table.find? other :=
  look_put_of_ne distinct entry table.entries

end Table

end ObjectModel
