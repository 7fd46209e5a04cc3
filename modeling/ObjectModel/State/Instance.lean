import ObjectModel.State.Show

/-! # Values and their classes

Where the search for the methods of a value begins, and how a value comes to have methods of its own. Values of
classes have their metaclass; other objects get a singleton class when it is first needed.
-/

namespace ObjectModel

def metaclassOf (id : ClassId) : Action ClassId := growGraph fun graph => graph.metaclassOf id

/-- The class at which the search for a value's methods begins. -/
def dispatchClass (value : Value) : Action ClassId :=
  match value with
  | .str id | .object id => ask fun state => (state.heap.object id).dispatchClass
  | .cls id => metaclassOf id
  | _ => ask fun state => state.classOf value

/-- The singleton class of a heap object. -/
def objectSingleton (value : Value) (id : ObjectId) : Action ClassId := do
  let object ← ask fun state => state.heap.object id
  match object.singleton with
  | some singleton => pure singleton
  | none =>
      let singleton ← growGraph fun graph => graph.newObjectSingleton value object.cls
      changeObject id fun object => { object with singleton := some singleton }
      pure singleton

/-- The class that holds the methods of a value alone. Nil and the truth values answer their classes;
numbers, symbols and encodings have none. -/
def singletonClassOf (value : Value) : Action ClassId :=
  match value with
  | .cls id => metaclassOf id
  | .str id | .object id => objectSingleton value id
  | .nil | .bool _ => ask fun state => state.classOf value
  | _ => refuse (.typeMismatch "can't define singleton")

/-- Whether a value is one of a class. -/
def isA (value : Value) (cls : ClassId) : Action Bool := do
  let start ← dispatchClass value
  ask fun state => state.graph.isKindOf start cls

end ObjectModel
