import ObjectModel.State.Constant

/-! # Defining classes and making objects

Classes and modules are made without a name or defined as constants of a scope; a definition under a name that is
taken reopens what is there, if it fits. Objects are made by the class of which they are instances.
-/

namespace ObjectModel

/-- Makes a class without a name. -/
def newClass (superclass : ClassId) : Action ClassId := do
  let state ← get
  let (id, graph) ← settle (state.graph.newClass superclass)
  set { state with graph }
  pure id

def newModule : Action ClassId := growGraph Graph.newModule

/-- The proper class that a value is, if it is one. -/
def State.properClass? (state : State) : Value → Option ClassId
  | .cls id => if (state.graph.record id).kind = .cls then some id else none
  | _ => none

/-- The module that a value is, if it is one. -/
def State.module? (state : State) : Value → Option ClassId
  | .cls id => if state.graph.isModule id then some id else none
  | _ => none

/-- Reopens a class: a superclass that is given has to be the one that the class has. -/
def reopenClass (existing : Value) (name : String) (superclass : Option ClassId) :
    Action ClassId := do
  let state ← get
  match state.properClass? existing with
  | none => refuse (.typeMismatch (name ++ " is not a class"))
  | some id =>
      if superclass.isSome && state.graph.superclass? id ≠ superclass then
        refuse (.typeMismatch ("superclass mismatch for class " ++ name))
      else pure id

/-- Defines or reopens a class. -/
def defineClass (scope : ClassId) (name : String) (superclass : Option ClassId) :
    Action ClassId := do
  checkNotFrozen scope
  match ← ask fun state => state.ownConstant? scope name with
  | some existing => reopenClass existing name superclass
  | none =>
      let id ← newClass (superclass.getD CoreClass.object.id)
      assignConstant scope name (.cls id)
      pure id

/-- Defines or reopens a module. -/
def defineModule (scope : ClassId) (name : String) : Action ClassId := do
  checkNotFrozen scope
  match ← ask fun state => state.ownConstant? scope name with
  | some existing =>
      match ← ask fun state => state.module? existing with
      | some id => pure id
      | none => refuse (.typeMismatch (name ++ " is not a module"))
  | none =>
      let id ← newModule
      assignConstant scope name (.cls id)
      pure id

/-- The core classes whose instances are not made by allocation. -/
def unallocatable : List CoreClass :=
  [.integer, .float, .symbol, .nilClass, .trueClass, .falseClass, .encoding]

/-- Makes an instance of a proper class, without setting it up. -/
def allocateInstance (cls : ClassId) : Action Value := do
  let state ← get
  let inherits (core : CoreClass) : Bool := state.graph.isKindOf cls core.id
  if inherits .moduleClass then
    if inherits .classClass then return .cls (← newClass CoreClass.object.id)
    else return .cls (← newModule)
  else if unallocatable.any inherits then
    refuse (.typeMismatch ("allocator undefined for " ++ state.graph.displayName cls))
  else if inherits .string then return .str (← addObject (.fresh cls (.text "")))
  else if inherits .array then return .object (← addObject (.fresh cls (.array [])))
  else return .object (← addObject (.fresh cls .plain))

/-- Makes an instance of a class, without setting it up. -/
def allocate (cls : ClassId) : Action Value := do
  let state ← get
  match (state.graph.record cls).kind with
  | .cls => allocateInstance cls
  | .singleton => refuse (.typeMismatch "can't create instance of singleton class")
  | .mixin => refuse (.typeMismatch (state.graph.displayName cls ++ " is a module"))

end ObjectModel
