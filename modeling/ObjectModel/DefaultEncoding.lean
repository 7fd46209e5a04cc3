import ObjectModel.Dispatch

/-! # Assigning default encodings

A default encoding is assigned from nil, an encoding, the name of one, or an object that converts to a text by its
method `to_str`. The conversion runs before anything is assigned.
-/

namespace ObjectModel

/-- Converts a value to a text by its method `to_str`. -/
def convertToText (run : Runner) (value : Value) : Action Encoding.Converted := do
  let result ← send run value "to_str" []
  ask fun state =>
    match state.text? result with
    | some content => .text content
    | none => .other (state.className result)

/-- What a value stands for when it is assigned to a default. -/
def encodingArgument (run : Runner) (value : Value) : Action Encoding.Argument := do
  match value with
  | .nil => pure .nil
  | .encoding id => pure (.encoding id)
  | .str _ => ask fun state => .name ((state.text? value).getD "")
  | _ =>
      if ← respondTo value "to_str" true then
        let converted ← convertToText run value
        ask fun state => .convertible (state.className value) (.ok converted)
      else ask fun state => .inconvertible (state.className value)

/-- Assigns to the defaults what a value stands for. -/
def assignDefault (run : Runner) (value : Value)
    (assign : Encoding.Defaults → Encoding.Argument → Except Fault Encoding.Defaults) :
    Action Unit := do
  let argument ← encodingArgument run value
  let state ← get
  let defaults ← settle (assign state.defaults argument)
  set { state with defaults }

/-- The internal default encoding, or nil. -/
def State.defaultInternal (state : State) : Value :=
  match state.defaults.internal with
  | some id => .encoding id
  | none => .nil

def State.defaultExternal (state : State) : Value := .encoding state.defaults.external

/-- Assigns the internal default encoding, and gives it back. -/
def setDefaultInternal (run : Runner) (value : Value) : Action Value := do
  assignDefault run value Encoding.Defaults.assignInternal
  ask State.defaultInternal

/-- Assigns the external default encoding, and gives it back. -/
def setDefaultExternal (run : Runner) (value : Value) : Action Value := do
  assignDefault run value Encoding.Defaults.assignExternal
  ask State.defaultExternal

end ObjectModel
