import ObjectModel.State.Show

/-! # Instance variables and freezing

Objects and classes have instance variables and can be frozen, after which they no longer change. All other values
are frozen from the start.
-/

namespace ObjectModel

/-- Whether a value is frozen. -/
def State.isFrozen (state : State) : Value → Bool
  | .str id | .object id => (state.heap.object id).isFrozen
  | .cls id => (state.graph.record id).isFrozen
  | _ => true

/-- The table of the instance variables of a value. -/
def State.variablesOf (state : State) : Value → Table Symbol Value
  | .str id | .object id => (state.heap.object id).ownVariables
  | .cls id => (state.graph.record id).ownVariables
  | _ => Table.empty

/-- Freezes a value. -/
def freeze (value : Value) : Action Unit :=
  match value with
  | .str id | .object id => changeObject id fun object => { object with isFrozen := true }
  | .cls id => changeClass id fun record => { record with isFrozen := true }
  | _ => pure ()

/-- Stops because a value is frozen. -/
def refuseFrozen {α : Type} (value : Value) : Action α := do
  refuse (.frozen (← ask fun state => state.inspect value))

/-- The symbol of a text that names an instance variable. -/
def variableSymbol (name : String) : Action Symbol :=
  if Name.isVariable name then intern name else refuse (.variableName name)

/-- The value of an instance variable, if it was set. -/
def variableGet (value : Value) (name : String) : Action (Option Value) := do
  let symbol ← variableSymbol name
  ask fun state => (state.variablesOf value).find? symbol

/-- Sets an instance variable. -/
def variableSet (value : Value) (name : String) (content : Value) : Action Value := do
  let symbol ← variableSymbol name
  if ← ask fun state => state.isFrozen value then refuseFrozen value
  match value with
  | .str id | .object id => changeObject id (.putVariable symbol content)
  | .cls id => changeClass id (.putVariable symbol content)
  | _ => refuseFrozen value
  pure content

end ObjectModel
