import ObjectModel.Builtin.Classes
import ObjectModel.Builtin.Encodings
import ObjectModel.Builtin.Numbers
import ObjectModel.Builtin.Objects
import ObjectModel.State.Report

/-! # Performing operations

What each operation does to its operands, and what it answers.
-/

namespace ObjectModel

/-! ## Builtin methods -/

/-- Runs a builtin routine. -/
def Routine.perform (run : Runner) (routine : Routine) (receiver : Value)
    (arguments : List Value) : Action Value :=
  match routine with
  | .basic routine => Builtin.runBasic run routine receiver arguments
  | .kernel routine => Builtin.runKernel run routine receiver arguments
  | .moduleRoutine routine => Builtin.runModule routine receiver arguments
  | .classRoutine routine => Builtin.runClass run routine receiver arguments
  | .singular routine => Builtin.runSingular routine receiver arguments
  | .string routine => Builtin.runString routine receiver arguments
  | .symbol routine => Builtin.runSymbol routine receiver arguments
  | .number routine => Builtin.runNumber routine receiver arguments
  | .array routine => Builtin.runArray run routine receiver arguments
  | .comparable routine => Builtin.runComparable run routine receiver arguments
  | .encoding routine => Builtin.runEncoding run routine receiver arguments

/-- Puts one builtin method into the class for which it is meant. -/
def State.installOne (installation : Nat) (state : State) (registration : Registration) : State :=
  let builtin := registration.builtin
  let (owner, graph) :=
    if builtin.onMetaclass then state.graph.metaclassOf builtin.owner.id
    else (builtin.owner.id, state.graph)
  let (symbol, names) := state.names.intern registration.name
  let entry : MethodEntry :=
    { owner, body := .builtin builtin installation, visibility := registration.visibility }
  { state with graph := graph.update owner (.putMethod symbol entry), names }

/-- Puts the builtin methods into their classes, in place of what is there under their names. -/
def State.installBuiltins (state : State) : State :=
  let installed := Builtin.registrations.foldl (State.installOne state.installations) state
  { installed with installations := state.installations + 1 }

/-! ## Answers -/

/-- What an operation answers. -/
inductive Answer
  | nothing
  | value (value : Value)
  | flag (flag : Bool)
  | index (index : Option Nat)
  | text (content : String)
  | names (names : List String)
  | counts (classes objects : Nat)
  | builtins (names : List String)
  | cls (report : ClassReport)
  | object (report : Option ObjectReport)
  | method (report : Option MethodReport)
  | constant (report : Option ConstantReport)
  | slot (content : Option Value)

/-- The value of an answer, nil if it has none. -/
def Answer.toValue : Answer → Value
  | .value content => content
  | _ => .nil

/-- The report of the method that a value has under a name. -/
def reportMethod (receiver : Value) (name : String) : Action (Option MethodReport) := do
  match ← findMethod receiver name with
  | none => pure none
  | some entry =>
      ask fun state => some { name, owner := state.graph.displayName entry.owner, entry }

open Builtin (argument expectClass)

/-- The class that an operand is, or nothing if it is nil. -/
def optionalClass (operand : Value) : Action (Option ClassId) :=
  match operand with
  | .nil => pure none
  | value => return some (← expectClass value)

/-- Performs an operation on its operands. -/
def Operation.perform (run : Runner) (operation : Operation Body) (operands : List Value) :
    Action Answer := do
  let first := argument operands 0
  let second := argument operands 1
  match operation with
  | .evaluate => pure (.value first)
  | .defineClass name =>
      let scope ← expectClass first
      let superclass ← optionalClass second
      return .value (.cls (← ObjectModel.defineClass scope name superclass))
  | .defineModule name =>
      let scope ← expectClass first
      return .value (.cls (← ObjectModel.defineModule scope name))
  | .newClass => return .value (.cls (← ObjectModel.newClass (← expectClass first)))
  | .newModule => return .value (.cls (← ObjectModel.newModule))
  | .includeModule =>
      let id ← expectClass first
      return .flag (← ObjectModel.includeModule id (← expectClass second))
  | .prependModule =>
      let id ← expectClass first
      return .flag (← ObjectModel.prependModule id (← expectClass second))
  | .ancestors =>
      let id ← expectClass first
      ask fun state => .names ((state.graph.ancestors id).map state.graph.displayName)
  | .superclass =>
      let id ← expectClass first
      ask fun state => .value (((state.graph.superclass? id).map Value.cls).getD .nil)
  | .classOf => ask fun state => .value (.cls (state.classOf first))
  | .dispatchClass => return .value (.cls (← ObjectModel.dispatchClass first))
  | .singletonClassOf => return .value (.cls (← ObjectModel.singletonClassOf first))
  | .isA => return .flag (← ObjectModel.isA first (← expectClass second))
  | .classReport =>
      let id ← expectClass first
      ask fun state => .cls (state.classReport id)
  | .counts => ask fun state => .counts state.graph.size state.heap.size
  | .allocate => return .value (← ObjectModel.allocate (← expectClass first))
  | .instantiate =>
      return .value (← Builtin.instantiate run (← expectClass first) (operands.drop 1))
  | .objectReport position => ask fun state => .object (state.objectReport? position)
  | .defineMethod name body =>
      return .value (.symbol (← ObjectModel.defineMethod (← expectClass first) name body))
  | .defineSingletonMethod name body =>
      return .value (.symbol (← ObjectModel.defineSingletonMethod first name body))
  | .removeMethod name =>
      ObjectModel.removeMethod (← expectClass first) name
      pure .nothing
  | .undefMethod name =>
      ObjectModel.undefMethod (← expectClass first) name
      pure .nothing
  | .aliasMethod name old =>
      return .value (.symbol (← ObjectModel.aliasMethod (← expectClass first) name old))
  | .setVisibility name visibility =>
      ObjectModel.setVisibility (← expectClass first) name visibility
      pure .nothing
  | .instanceMethods inherited =>
      let id ← expectClass first
      ask fun state => .names ((state.graph.instanceMethods id inherited).map state.symbolText)
  | .methodDefined name =>
      let id ← expectClass first
      ask fun state => .flag (state.methodDefined id name)
  | .findMethod name => return .method (← reportMethod first name)
  | .respondTo name includePrivate =>
      return .flag (← ObjectModel.respondTo first name includePrivate)
  | .invoke name => return .value (← ObjectModel.invoke run first name (operands.drop 1))
  | .send name => return .value (← ObjectModel.send run first name (operands.drop 1))
  | .sendSymbol name =>
      let symbol ← ObjectModel.intern name
      return .value (← dispatch run false first symbol (operands.drop 1))
  | .installBuiltins =>
      modify State.installBuiltins
      pure .nothing
  | .builtinNames => pure (.builtins (Builtin.registrations.map Registration.name))
  | .intern name => return .index (some (← ObjectModel.intern name).index)
  | .lookupSymbol name => ask fun state => .index ((state.names.find? name).map Symbol.index)
  | .symbolName symbol => ask fun state => .text (state.symbolText (Symbol.ofNat symbol))
  | .constantSet name =>
      return .value (← ObjectModel.constantSet (← expectClass first) name second)
  | .constantGet name => return .value (← ObjectModel.constantGet (← expectClass first) name)
  | .constantResolve name ownOnly =>
      let scope ← expectClass first
      ask fun state => .constant (state.constantReport? scope name ownOnly)
  | .constantDefined name inherited =>
      return .flag (← ObjectModel.constantDefined (← expectClass first) name inherited)
  | .constantRemove name =>
      return .value ((← ObjectModel.constantRemove (← expectClass first) name).getD .nil)
  | .ownConstants =>
      let scope ← expectClass first
      ask fun state => .names (state.ownConstants scope)
  | .constants inherited =>
      let scope ← expectClass first
      ask fun state => .names (state.constants scope inherited)
  | .privateConstant name =>
      setConstantPrivate true (← expectClass first) name
      pure .nothing
  | .publicConstant name =>
      setConstantPrivate false (← expectClass first) name
      pure .nothing
  | .deprecateConstant name =>
      ObjectModel.deprecateConstant (← expectClass first) name
      pure .nothing
  | .variableGet name => return .slot (← ObjectModel.variableGet first name)
  | .variableSet name => return .value (← ObjectModel.variableSet first name second)
  | .variableNames =>
      ask fun state => .names ((state.variablesOf first).keys.map state.symbolText)
  | .freeze =>
      ObjectModel.freeze first
      pure (.value first)
  | .isFrozen => ask fun state => .flag (state.isFrozen first)
  | .objectId => pure (.value first.identity)
  | .toText => ask fun state => .text (state.toText first)
  | .inspect => ask fun state => .text (state.inspect first)
  | .describeReceiver => ask fun state => .text (state.describeReceiver first)
  | .defaultInternal => ask fun state => .value state.defaultInternal
  | .defaultExternal => ask fun state => .value state.defaultExternal
  | .setDefaultInternal => return .value (← ObjectModel.setDefaultInternal run first)
  | .setDefaultExternal => return .value (← ObjectModel.setDefaultExternal run first)
  | .configValue key => return .value (← ObjectModel.configValue key)

end ObjectModel
