import ObjectModel.Builtin
import ObjectModel.Table
import ObjectModel.Value

/-! # The heap

The objects that have state of their own. They are added at the end and never taken away.
-/

namespace ObjectModel

/-- What an object holds besides its instance variables. -/
inductive Payload
  | plain
  | text (content : String)
  | array (items : List Value)
  deriving DecidableEq, Repr

/-- An object of the heap. -/
structure HeapObject where
  cls : ClassId
  /-- The class of the methods of this object alone, once it was needed. -/
  singleton : Option ClassId
  ownVariables : Table Symbol Value
  isFrozen : Bool
  payload : Payload
  deriving DecidableEq, Repr

namespace HeapObject

/-- An object as it is when it is made. -/
def fresh (cls : ClassId) (payload : Payload) : HeapObject :=
  { cls, singleton := none, ownVariables := Table.empty, isFrozen := false, payload }

/-- The class at which the search for the object's methods begins. -/
def dispatchClass (object : HeapObject) : ClassId := object.singleton.getD object.cls

/-- The text that the object holds, if it is a string. -/
def text? (object : HeapObject) : Option String :=
  match object.payload with
  | .text content => some content
  | _ => none

/-- The items that the object holds, if it is an array. -/
def items? (object : HeapObject) : Option (List Value) :=
  match object.payload with
  | .array items => some items
  | _ => none

/-- Sets an instance variable. -/
def putVariable (name : Symbol) (value : Value) (object : HeapObject) : HeapObject :=
  { object with ownVariables := object.ownVariables.insert name value }

end HeapObject

/-- The objects in the order in which they were made. -/
structure Heap where
  objects : List HeapObject
  deriving DecidableEq, Repr

namespace Heap

def empty : Heap := ⟨[]⟩

def size (heap : Heap) : Nat := heap.objects.length

def get? (heap : Heap) (id : ObjectId) : Option HeapObject := heap.objects[id.index]?

/-- The object that stands at a position where there is none. -/
def missing : HeapObject := .fresh CoreClass.object.id .plain

def object (heap : Heap) (id : ObjectId) : HeapObject := (heap.get? id).getD missing

/-- Adds an object and tells its position. -/
def add (heap : Heap) (object : HeapObject) : ObjectId × Heap :=
  (⟨heap.size⟩, ⟨heap.objects ++ [object]⟩)

/-- The heap with the object at a position changed. -/
def update (heap : Heap) (id : ObjectId) (change : HeapObject → HeapObject) : Heap :=
  ⟨heap.objects.modify id.index change⟩

end Heap

end ObjectModel
