import ObjectModel.Graph.Ancestry

/-! # Looking up methods and constants

A method is the first entry of its name along the ancestors, unless that is a tombstone. A constant is found in
the same way, except that modules are searched on in `Object`.
-/

namespace ObjectModel.Graph

/-! ## Methods -/

/-- The first entry of a name along the ancestors of a class, tombstones included. -/
def firstEntry? (graph : Graph) (id : ClassId) (name : Symbol) : Option MethodEntry :=
  (graph.ancestors id).findSome? fun ancestor => (graph.record ancestor).methods.find? name

/-- The method of a name for instances of a class. -/
def findMethod? (graph : Graph) (id : ClassId) (name : Symbol) : Option MethodEntry :=
  (graph.firstEntry? id name).filter MethodEntry.isDefined

/-- Puts an entry into a list that is sorted by the positions of the names. -/
def insertByName (pair : Symbol × MethodEntry) :
    List (Symbol × MethodEntry) → List (Symbol × MethodEntry)
  | [] => [pair]
  | other :: rest =>
      if pair.1.index ≤ other.1.index then pair :: other :: rest
      else other :: insertByName pair rest

/-- The entries of the method table of a class, sorted by the positions of their names. -/
def sortedMethods (graph : Graph) (id : ClassId) : List (Symbol × MethodEntry) :=
  (graph.record id).methods.entries.foldr insertByName []

/-- Of entries in order of precedence, the names whose first entry is a method that may be called from
outside. The given names were seen before. -/
def visibleNames (seen : List Symbol) : List (Symbol × MethodEntry) → List Symbol
  | [] => []
  | (name, entry) :: rest =>
      if name ∈ seen then visibleNames seen rest
      else if entry.isDefined && !entry.isPrivate then name :: visibleNames (name :: seen) rest
      else visibleNames (name :: seen) rest

/-- The names of the methods of a class that may be called from outside, its ancestors included if
wanted. -/
def instanceMethods (graph : Graph) (id : ClassId) (inherited : Bool) : List Symbol :=
  let searched := if inherited then graph.ancestors id else [id]
  visibleNames [] (searched.flatMap graph.sortedMethods)

/-- Whether instances of a class have a method of a name that may be called from outside. -/
def methodDefined (graph : Graph) (id : ClassId) (name : Symbol) : Bool :=
  (graph.findMethod? id name).any fun entry => !entry.isPrivate

/-! ## Constants -/

/-- The entry of a constant in the table of a class, with the class. -/
def ownConstant? (graph : Graph) (id : ClassId) (name : Symbol) :
    Option (ClassId × ConstantEntry) :=
  ((graph.record id).constants.find? name).map fun entry => (id, entry)

/-- The entry of a constant as seen from a class, with the class in whose table it stands. -/
def resolveConstant? (graph : Graph) (id : ClassId) (name : Symbol) :
    Option (ClassId × ConstantEntry) :=
  let found := (graph.ancestors id).findSome? fun ancestor => graph.ownConstant? ancestor name
  found <|> (if graph.isModule id then graph.ownConstant? CoreClass.object.id name else none)

/-- The ancestors of a class whose constants are listed as its own: all of `Object`, for any other class
those that stand before `Object`. -/
def constantScopes (graph : Graph) (id : ClassId) : List ClassId :=
  ((graph.ancestors id).filter (· ≠ id)).takeWhile fun ancestor =>
    ancestor ≠ CoreClass.object.id || id = CoreClass.object.id

/-- The names of the public constants of a class, with those of its ancestors if wanted, each once. -/
def constantNames (graph : Graph) (id : ClassId) (inherited : Bool) : List Symbol :=
  let further := if inherited then graph.constantScopes id else []
  ((id :: further).flatMap fun scope => (graph.record scope).publicConstants).eraseDups

end ObjectModel.Graph
