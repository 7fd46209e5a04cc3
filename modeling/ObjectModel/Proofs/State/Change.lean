import ObjectModel.Proofs.State.Sound

/-! # Changes

The changes of which everything that is done to a state consists, and the condition under which each of them keeps the
laws: what it names is there. The guards under which operations make a change are told apart from that, since the
class graph can also be built on without them.
-/

namespace ObjectModel

/-- Whether a body is that of a builtin method. -/
def Body.isBuiltin : Body → Bool
  | .builtin .. => true
  | _ => false

/-- A change of the state. -/
inductive Change
  | intern (name : String)
  | newClass (superclass : ClassId)
  | newModule
  | metaclassOf (id : ClassId)
  | newSingleton (value : Value) (id : ObjectId)
  | includeModule (id mixin : ClassId)
  | prependModule (id mixin : ClassId)
  | putMethod (id : ClassId) (name : Symbol) (body : Body) (visibility : Visibility)
  | eraseMethod (id : ClassId) (name : Symbol)
  | putConstant (scope : ClassId) (name : Symbol) (value : Value)
  | flagConstant (scope : ClassId) (name : Symbol) (change : ConstantEntry → ConstantEntry)
  | eraseConstant (scope : ClassId) (name : Symbol)
  | nameClass (scope id : ClassId) (name : String)
  | putVariable (value : Value) (name : Symbol) (content : Value)
  | freeze (value : Value)
  | addObject (object : HeapObject)
  | setText (id : ObjectId) (content : String)
  | assignDefaults (defaults : Encoding.Defaults)
  | setVariable (name : String) (value : Value)
  | warn (warning : Warning)
  | installBuiltins

namespace State

/-- The state with its class graph changed. -/
def withGraph (state : State) (graph : Graph) : State := { state with graph }

/-- The state with the record of a class changed. -/
def changeClass (state : State) (id : ClassId) (change : ClassRecord → ClassRecord) : State :=
  { state with graph := state.graph.update id change }

/-- The state with an object of the heap changed. -/
def changeObject (state : State) (id : ObjectId) (change : HeapObject → HeapObject) : State :=
  { state with heap := state.heap.update id change }

/-- The state with what a change of the class graph leads to, if it is not refused. -/
def orSame {α : Type} (state : State) (result : Except Fault (α × Graph)) : State :=
  match result with
  | .ok (_, graph) => state.withGraph graph
  | .error _ => state

end State

namespace Change

/-- The state after a change. -/
def apply (state : State) : Change → State
  | intern name => { state with names := (state.names.intern name).2 }
  | newClass superclass => state.orSame (state.graph.newClass superclass)
  | newModule => state.withGraph state.graph.newModule.2
  | metaclassOf id => state.withGraph (state.graph.metaclassOf id).2
  | newSingleton value id =>
      let (singleton, graph) := state.graph.newObjectSingleton value (state.heap.object id).cls
      (state.withGraph graph).changeObject id fun object => { object with singleton := some singleton }
  | includeModule id mixin => state.orSame (state.graph.includeModule id mixin)
  | prependModule id mixin => state.orSame (state.graph.prependModule id mixin)
  | putMethod id name body visibility =>
      state.changeClass id (.putMethod name { owner := id, body, visibility })
  | eraseMethod id name => state.changeClass id (.eraseMethod name)
  | putConstant scope name value => state.changeClass scope (.putConstant name value)
  | flagConstant scope name change => state.changeClass scope (.flagConstant name change)
  | eraseConstant scope name => state.changeClass scope (.eraseConstant name)
  | nameClass scope id name =>
      state.changeClass id fun record => { record with owner := some scope, name := some name }
  | putVariable value name content =>
      match value with
      | .str id | .object id => state.changeObject id (.putVariable name content)
      | .cls id => state.changeClass id (.putVariable name content)
      | _ => state
  | freeze value =>
      match value with
      | .str id | .object id => state.changeObject id fun object => { object with isFrozen := true }
      | .cls id => state.changeClass id fun record => { record with isFrozen := true }
      | _ => state
  | addObject object => { state with heap := (state.heap.add object).2 }
  | setText id content => state.changeObject id fun object => { object with payload := .text content }
  | assignDefaults defaults => { state with defaults }
  | setVariable name value =>
      { state with scriptVariables := state.scriptVariables.insert name value }
  | warn warning => { state with warnings := state.warnings ++ [warning] }
  | installBuiltins => state.installBuiltins

/-- What a change names is there. -/
def Fits (state : State) : Change → Prop
  | intern _ | newModule | warn _ | installBuiltins => True
  | newClass superclass => state.graph.Has superclass
  | metaclassOf id | eraseMethod id _ | eraseConstant id _ => state.graph.Has id
  | newSingleton value id =>
      state.Has value ∧ value.objectId? = some id ∧ (state.heap.object id).singleton = none
  | includeModule id mixin | prependModule id mixin => state.graph.Has id ∧ state.graph.Has mixin
  | putMethod id name body _ => state.graph.Has id ∧ state.names.Has name ∧ state.FitsBody body
  | putConstant scope name value => state.graph.Has scope ∧ state.names.Has name ∧ state.Has value
  | flagConstant scope _ change =>
      state.graph.Has scope ∧ ∀ entry : ConstantEntry, (change entry).value = entry.value
  | nameClass scope id _ => state.graph.Has scope ∧ state.graph.Has id
  | putVariable value name content => state.Has value ∧ state.names.Has name ∧ state.Has content
  | freeze value => state.Has value
  | addObject object => state.FitsObject state.heap.next object ∧ object.singleton = none
  | setText id _ => state.Has (.str id)
  | assignDefaults defaults =>
      defaults.external.index < Encoding.catalog.length ∧
        ∀ id, defaults.internal = some id → id.index < Encoding.catalog.length
  | setVariable _ value => state.Has value

end Change

namespace State

/-- The method table of a class may be changed. -/
def IsMutable (state : State) (id : ClassId) : Prop :=
  (state.graph.record id).isFrozen = false ∧
    ¬ (state.options.sealCore ∧ (state.graph.record id).isCore) ∧
    ∀ attached, (state.graph.record id).attached = some attached → state.isFrozen attached = false

/-- A class has a method with a body. -/
def HasMethod (state : State) (id : ClassId) (body : Body) : Prop :=
  ∃ name entry, state.graph.findMethod? id name = some entry ∧ entry.body = body

end State

namespace Change

/-- Where a single builtin body is put in, the class has a method with that body already. -/
def Copies (state : State) : Change → Prop
  | putMethod id _ body _ => body.isBuiltin → state.HasMethod id body
  | _ => True

/-- The guards of the operations: frozen and sealed things stay as they are, builtin methods are only copied,
a class gets its name only once, and defaults change by one assignment at a time. -/
def Guarded (state : State) : Change → Prop
  | includeModule id _ | prependModule id _ | eraseMethod id _ => state.IsMutable id
  | putMethod id name body visibility =>
      state.IsMutable id ∧ Copies state (.putMethod id name body visibility)
  | putConstant scope _ _ | flagConstant scope _ _ => (state.graph.record scope).isFrozen = false
  | nameClass _ id _ =>
      (state.graph.record id).name = none ∧ (state.graph.record id).isSingleton = false
  | putVariable value _ _ => state.isFrozen value = false
  | setText id _ => (state.heap.object id).isFrozen = false
  | assignDefaults defaults => ∃ assignment, defaults = state.defaults.assign assignment
  | _ => True

theorem Guarded.copies {state : State} {change : Change} (hguarded : change.Guarded state) :
    change.Copies state := by
  cases change with
  | putMethod => exact hguarded.2
  | _ => trivial

end Change

end ObjectModel
