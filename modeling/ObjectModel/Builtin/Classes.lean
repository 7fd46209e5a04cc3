import ObjectModel.Builtin.Arguments
import ObjectModel.State.Define

/-! # What classes and modules can do

Reflection and definition: the builtin methods of classes and modules, and those of classes alone.
-/

namespace ObjectModel.Builtin

/-- Does something with each of several names in turn. -/
def eachName (arguments : List Value) (act : String → Action Unit) : Action Unit :=
  arguments.forM fun value => do act (← expectName value)

/-- The constant at the end of a path that starts in a scope. -/
def constantAt (scope : ClassId) : List String → Action Value
  | [] => pure .nil
  | [name] => ObjectModel.constantGet scope name
  | name :: rest => do
      let value ← ObjectModel.constantGet scope name
      constantAt (← expectClass value) rest

/-- Mixes in modules, the last one first, so that the first one ends up in front. -/
def mixAll (arguments : List Value) (mix : ClassId → Action Bool) : Action Unit :=
  arguments.reverse.forM fun value => do
    let _ ← mix (← expectClass value)

/-- Whether a class has a module among its ancestors; only modules may be asked for. -/
def includesModule (id : ClassId) (value : Value) : Action Value := do
  let mixin ← expectClass value
  let state ← get
  if !state.graph.isModule mixin then
    refuse (.typeMismatch
      ("wrong argument type " ++ state.className value ++ " (expected Module)"))
  else pure (.bool (id ≠ mixin && mixin ∈ state.graph.ancestors id))

/-- Defines a reader and a writer, or one of them, for an attribute, and gives their symbols. -/
def defineAttribute (id : ClassId) (reader writer : Bool) (name : String) :
    Action (List Value) := do
  let slot := "@" ++ name
  if !Name.isVariable slot then refuse (.variableName slot)
  let readers ← if reader then
      pure [Value.symbol (← ObjectModel.defineMethod id name (.reader slot))]
    else pure []
  let writers ← if writer then
      pure [Value.symbol (← ObjectModel.defineMethod id (name ++ "=") (.writer slot))]
    else pure []
  pure (readers ++ writers)

/-- Defines attributes in turn, and gives the symbols of their methods. -/
def defineAttributes (id : ClassId) (reader writer : Bool) : List Value → Action (List Value)
  | [] => pure []
  | value :: rest => do
      let defined ← defineAttribute id reader writer (← expectName value)
      return defined ++ (← defineAttributes id reader writer rest)

/-- One value as it is, several as an array, none as nil. -/
def bundle : List Value → Action Value
  | [] => pure .nil
  | [value] => pure value
  | values => newArray values

/-- The methods of classes and modules. -/
def runModule (routine : ModuleRoutine) (receiver : Value) (arguments : List Value) :
    Action Value := do
  match routine with
  | .nameText =>
      checkArity (.exactly 0) arguments
      let id ← expectClass receiver
      match ← ask fun state => (state.graph.record id).name with
      | some name => newString name
      | none => pure .nil
  | .display =>
      checkArity (.exactly 0) arguments
      let id ← expectClass receiver
      newString (← ask fun state => state.graph.displayName id)
  | .constants =>
      checkArity (.between 0 1) arguments
      let id ← expectClass receiver
      let inherited := arguments = [] || (argument arguments 0).isTruthy
      newArray ((← ask fun state => state.graph.constantNames id inherited).map .symbol)
  | .constantGet =>
      checkArity (.between 1 2) arguments
      let id ← expectClass receiver
      let path ← expectName (argument arguments 0)
      constantAt id (Name.segments path)
  | .constantSet =>
      checkArity (.exactly 2) arguments
      let id ← expectClass receiver
      let name ← expectName (argument arguments 0)
      ObjectModel.constantSet id name (argument arguments 1)
  | .constantDefined =>
      checkArity (.between 1 2) arguments
      let id ← expectClass receiver
      let name ← expectName (argument arguments 0)
      let inherited := arguments.length < 2 || (argument arguments 1).isTruthy
      return .bool (← ObjectModel.constantDefined id name inherited)
  | .ancestors =>
      checkArity (.exactly 0) arguments
      let id ← expectClass receiver
      newArray ((← ask fun state => state.graph.ancestors id).map .cls)
  | .includeModules =>
      checkArity (.atLeast 1) arguments
      let id ← expectClass receiver
      mixAll arguments (includeModule id)
      pure receiver
  | .includes =>
      checkArity (.exactly 1) arguments
      let id ← expectClass receiver
      includesModule id (argument arguments 0)
  | .prependModules =>
      checkArity (.atLeast 1) arguments
      let id ← expectClass receiver
      mixAll arguments (prependModule id)
      pure receiver
  | .privateConstant =>
      let id ← expectClass receiver
      eachName arguments (setConstantPrivate true id)
      pure receiver
  | .publicConstant =>
      let id ← expectClass receiver
      eachName arguments (setConstantPrivate false id)
      pure receiver
  | .deprecateConstant =>
      let id ← expectClass receiver
      eachName arguments (ObjectModel.deprecateConstant id)
      pure receiver
  | .attributes reader writer =>
      let id ← expectClass receiver
      newArray (← defineAttributes id reader writer arguments)
  | .instanceMethods =>
      checkArity (.between 0 1) arguments
      let id ← expectClass receiver
      let inherited := arguments = [] || (argument arguments 0).isTruthy
      newArray ((← ask fun state => state.graph.instanceMethods id inherited).map .symbol)
  | .methodDefined =>
      checkArity (.exactly 1) arguments
      let id ← expectClass receiver
      let name ← expectName (argument arguments 0)
      ask fun state => .bool (state.methodDefined id name)
  | .removeMethod =>
      let id ← expectClass receiver
      eachName arguments (ObjectModel.removeMethod id)
      pure receiver
  | .undefMethod =>
      let id ← expectClass receiver
      eachName arguments (ObjectModel.undefMethod id)
      pure receiver
  | .aliasMethod =>
      checkArity (.exactly 2) arguments
      let id ← expectClass receiver
      let name ← expectName (argument arguments 0)
      let old ← expectName (argument arguments 1)
      return .symbol (← ObjectModel.aliasMethod id name old)
  | .setVisibility visibility =>
      let id ← expectClass receiver
      eachName arguments fun name => ObjectModel.setVisibility id name visibility
      bundle arguments
  | .matches =>
      checkArity (.exactly 1) arguments
      let id ← expectClass receiver
      return .bool (← ObjectModel.isA (argument arguments 0) id)

/-- Makes a class object and, for others, sets it up with the arguments. -/
def instantiate (run : Runner) (cls : ClassId) (arguments : List Value) : Action Value := do
  let value ← ObjectModel.allocate cls
  let _ ← ObjectModel.send run value "initialize" arguments
  pure value

/-- Makes a string of a class, with the text of another string if one is given. -/
def makeString (cls : ClassId) (arguments : List Value) : Action Value := do
  checkArity (.between 0 1) arguments
  let value ← ObjectModel.allocate cls
  match arguments.head?, value.objectId? with
  | some content, some id => do
      let content ← expectText content
      changeObject id fun object => { object with payload := .text content }
  | _, _ => pure ()
  pure value

/-- Makes what a class makes: a class, a module, a string or an instance. -/
def makeInstance (run : Runner) (cls : ClassId) (arguments : List Value) : Action Value := do
  let state ← get
  let inherits (core : CoreClass) : Bool := state.graph.isKindOf cls core.id
  if (state.graph.record cls).isSingleton then ObjectModel.allocate cls
  else if inherits .classClass then
    checkArity (.between 0 1) arguments
    let superclass ← match arguments.head? with
      | some value => expectClass value
      | none => pure CoreClass.object.id
    return .cls (← newClass superclass)
  else if inherits .moduleClass then
    checkArity (.exactly 0) arguments
    return .cls (← newModule)
  else if inherits .string then makeString cls arguments
  else instantiate run cls arguments

/-- The methods of classes alone. -/
def runClass (run : Runner) (routine : ClassRoutine) (receiver : Value) (arguments : List Value) :
    Action Value := do
  match routine with
  | .make =>
      let cls ← expectClass receiver
      makeInstance run cls arguments
  | .allocate =>
      checkArity (.exactly 0) arguments
      let cls ← expectClass receiver
      ObjectModel.allocate cls
  | .superclass =>
      checkArity (.exactly 0) arguments
      let cls ← expectClass receiver
      match ← ask fun state => state.graph.superclass? cls with
      | some superclass => pure (.cls superclass)
      | none => pure .nil

end ObjectModel.Builtin
