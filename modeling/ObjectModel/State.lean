import ObjectModel.Config.Settings
import ObjectModel.Encoding.Defaults
import ObjectModel.Graph.Lookup
import ObjectModel.Graph.Metaclass
import ObjectModel.Graph.Mixin
import ObjectModel.Heap

/-! # States and actions

The state of a running object model, and actions on it. An action ends with a result or is stopped, by a fault
or because calls were nested too deeply; what it did to the state until then stays done.
-/

namespace ObjectModel

/-- What is chosen when an object model is set up. -/
structure Options where
  /-- Whether strings written as literals are frozen from the start. -/
  frozenLiterals : Bool
  /-- Whether the method tables of the core classes may not be changed. -/
  sealCore : Bool
  /-- Whether strings made from configuration values are frozen. -/
  policy : Config.Policy
  /-- The name of the external default encoding. -/
  defaultExternal : String
  deriving DecidableEq, Repr

/-- The choices when nothing is chosen. -/
def Options.standard : Options :=
  { frozenLiterals := false, sealCore := false, policy := .mutable, defaultExternal := "UTF-8" }

/-- Something about a constant that is worth a warning. -/
structure Warning where
  message : String
  scope : String
  name : String
  deriving DecidableEq, Repr

/-- The state of a running object model. -/
structure State where
  graph : Graph
  names : Interner
  heap : Heap
  defaults : Encoding.Defaults
  configuration : Config.Settings
  options : Options
  /-- How often the builtin methods were put into their classes. -/
  installations : Nat
  /-- The variables of the scripts that run on this state. -/
  scriptVariables : Table String Value
  /-- The warnings so far, the latest last. -/
  warnings : List Warning

/-- Why an action was stopped. -/
inductive Halt
  | fault (fault : Fault)
  /-- Calls were nested more deeply than was allowed. -/
  | exhausted
  deriving DecidableEq, Repr

/-- A change of the state that gives a result or is stopped. -/
abbrev Action (α : Type) := ExceptT Halt (StateM State) α

/-- What runs the body of a method on a receiver and arguments. -/
abbrev Runner := Body → Value → List Value → Action Value

def refuse {α : Type} (fault : Fault) : Action α := throw (.fault fault)

def ask {α : Type} (read : State → α) : Action α := do return read (← get)

/-- Takes a result, or stops with its fault. -/
def settle {α : Type} : Except Fault α → Action α
  | .ok result => pure result
  | .error fault => refuse fault

/-- Changes the class graph. -/
def changeGraph (change : Graph → Graph) : Action Unit :=
  modify fun state => { state with graph := change state.graph }

/-- Changes the record of a class. -/
def changeClass (id : ClassId) (change : ClassRecord → ClassRecord) : Action Unit :=
  changeGraph fun graph => graph.update id change

/-- Changes an object of the heap. -/
def changeObject (id : ObjectId) (change : HeapObject → HeapObject) : Action Unit :=
  modify fun state => { state with heap := state.heap.update id change }

/-- Extends the class graph and gives the position of the new record. -/
def growGraph (grow : Graph → ClassId × Graph) : Action ClassId := do
  let state ← get
  let (id, graph) := grow state.graph
  set { state with graph }
  pure id

/-- Puts an object on the heap. -/
def addObject (object : HeapObject) : Action ObjectId := do
  let state ← get
  let (id, heap) := state.heap.add object
  set { state with heap }
  pure id

/-- The symbol of a name. -/
def intern (name : String) : Action Symbol := do
  let state ← get
  let (symbol, names) := state.names.intern name
  set { state with names }
  pure symbol

/-- Adds a warning. -/
def warn (message scope name : String) : Action Unit :=
  modify fun state => { state with warnings := state.warnings ++ [{ message, scope, name }] }

/-! ## New objects -/

/-- A new string. -/
def newString (content : String) : Action Value := do
  return .str (← addObject (.fresh CoreClass.string.id (.text content)))

/-- A new array. -/
def newArray (items : List Value) : Action Value := do
  return .object (← addObject (.fresh CoreClass.array.id (.array items)))

/-- A new string as a literal gives it. -/
def newLiteral (content : String) : Action Value := do
  let id ← addObject (.fresh CoreClass.string.id (.text content))
  if ← ask (·.options.frozenLiterals) then
    changeObject id fun object => { object with isFrozen := true }
  pure (.str id)

/-- A new string with the configuration value of a key, if there is one. -/
def configValue (key : String) : Action Value := do
  match ← ask (·.configuration.table.find? key) with
  | none => pure .nil
  | some entry =>
      let object := HeapObject.fresh CoreClass.string.id (.text entry.value)
      return .str (← addObject { object with isFrozen := entry.frozen })

end ObjectModel
