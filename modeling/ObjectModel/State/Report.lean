import ObjectModel.State.Constant
import ObjectModel.State.Variable

/-! # Reports

What can be told of a value, of a class and of a heap object without calling any of their methods.
-/

namespace ObjectModel

/-- A value as it is seen from outside. Strings and arrays of a class of their own tell its name. -/
inductive View
  | nil
  | bool (flag : Bool)
  | int (number : Int)
  | float (bits : UInt64)
  | symbol (name : String)
  | text (content : String) (className : Option String)
  | array (items : List View) (className : Option String)
  | cls (name : String)
  | encoding (name : String)
  | object (className : String) (position : Nat)

/-- What is told of a class. -/
structure ClassReport where
  id : ClassId
  record : ClassRecord
  display : String
  superclass : Option String
  owner : Option String
  includes : List String
  prepends : List String
  constants : List (String × ConstantEntry)
  ownVariables : List (String × Value)
  /-- The names and entries of the class's own methods, by the positions of the names. -/
  methods : List (String × MethodEntry)

/-- What is told of a heap object. -/
structure ObjectReport where
  object : HeapObject
  className : String
  dispatchName : String
  ownVariables : List (String × Value)

/-- What is told of a method that was found. -/
structure MethodReport where
  name : String
  owner : String
  entry : MethodEntry

/-- What is told of a constant that was found. -/
structure ConstantReport where
  owner : String
  entry : ConstantEntry

namespace State

/-- The name of the class of a heap object, unless it is the given core class. -/
def classUnless (state : State) (core : CoreClass) (object : HeapObject) : Option String :=
  if object.cls = core.id then none else some (state.graph.displayName object.cls)

/-- A value as it is seen from outside, with a bound on the depth of arrays within arrays. -/
def viewWithin (state : State) : Nat → Value → View
  | 0, _ => .nil
  | fuel + 1, value =>
      match value with
      | .nil => .nil
      | .bool flag => .bool flag
      | .int number => .int number
      | .float bits => .float bits
      | .symbol name => .symbol (state.symbolText name)
      | .cls id => .cls (state.graph.displayName id)
      | .encoding id => .encoding (Encoding.nameOf id)
      | .str id =>
          let object := state.heap.object id
          .text (object.text?.getD "") (state.classUnless .string object)
      | .object id =>
          let object := state.heap.object id
          match object.items? with
          | some items =>
              .array (items.map (state.viewWithin fuel)) (state.classUnless .array object)
          | none => .object (state.graph.displayName object.cls) id.index

/-- A value as it is seen from outside. -/
def view (state : State) (value : Value) : View := state.viewWithin (state.heap.size + 1) value

/-- The names and values of a table of variables. -/
def namedVariables (state : State) (table : Table Symbol Value) : List (String × Value) :=
  table.entries.map fun (name, value) => (state.symbolText name, value)

/-- The report of a class. -/
def classReport (state : State) (id : ClassId) : ClassReport :=
  let record := state.graph.record id
  { id, record
    display := state.graph.displayName id
    superclass := record.superclass.map state.graph.displayName
    owner := record.owner.map state.graph.displayName
    includes := record.includes.map state.graph.displayName
    prepends := record.prepends.map state.graph.displayName
    constants := record.constants.entries.map fun (name, entry) => (state.symbolText name, entry)
    ownVariables := state.namedVariables record.ownVariables
    methods := (state.graph.sortedMethods id).map fun (name, entry) =>
      (state.symbolText name, entry) }

/-- The report of the heap object at a position, if there is one. -/
def objectReport? (state : State) (position : Nat) : Option ObjectReport :=
  (state.heap.get? ⟨position⟩).map fun object =>
    { object
      className := state.graph.displayName object.cls
      dispatchName := state.graph.displayName object.dispatchClass
      ownVariables := state.namedVariables object.ownVariables }

/-- The report of a constant, if there is one. -/
def constantReport? (state : State) (scope : ClassId) (name : String) (ownOnly : Bool) :
    Option ConstantReport :=
  (state.resolveConstant? scope name ownOnly).map fun (owner, entry) =>
    { owner := state.graph.displayName owner, entry }

end State

end ObjectModel
