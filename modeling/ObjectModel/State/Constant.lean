import ObjectModel.State.Show

/-! # Constants

Constants are read, assigned and removed by name. A class or module without a name takes that of the first
constant to which it is assigned.
-/

namespace ObjectModel

/-- Stops if a class is frozen. -/
def checkNotFrozen (id : ClassId) : Action Unit := do
  let state ← get
  if (state.graph.record id).isFrozen then refuse (.frozen (state.graph.displayName id))

/-- Stops unless a text may name a constant. -/
def checkConstantName (name : String) : Action Unit :=
  if Name.isConstant name then pure () else refuse (.constantName name)

namespace State

/-- The value of a constant in the table of a class. -/
def ownConstant? (state : State) (scope : ClassId) (name : String) : Option Value := do
  let symbol ← state.names.find? name
  let entry ← (state.graph.record scope).constants.find? symbol
  pure entry.value

/-- The entry of a constant as seen from a class, or in its own table only, with the class in whose
table it stands. -/
def resolveConstant? (state : State) (scope : ClassId) (name : String) (ownOnly : Bool) :
    Option (ClassId × ConstantEntry) := do
  let symbol ← state.names.find? name
  if ownOnly then state.graph.ownConstant? scope symbol
  else state.graph.resolveConstant? scope symbol

/-- A scope as it stands before a constant: nothing for the outermost one. -/
def qualifier (state : State) (scope : ClassId) : String :=
  if scope = CoreClass.object.id then "" else state.graph.displayName scope

/-- The name that a class gets from a constant. -/
def qualifiedName (state : State) (scope : ClassId) (name : String) : String :=
  if scope = CoreClass.object.id then name else state.graph.displayName scope ++ "::" ++ name

/-- The names of the constants of a class in its own table. -/
def ownConstants (state : State) (scope : ClassId) : List String :=
  (state.graph.record scope).constants.keys.map state.symbolText

/-- The names of the public constants of a class. -/
def constants (state : State) (scope : ClassId) (inherited : Bool) : List String :=
  (state.graph.constantNames scope inherited).map state.symbolText

end State

/-- The value of a constant that has to be there and to be public. -/
def constantGet (scope : ClassId) (name : String) : Action Value := do
  checkConstantName name
  let state ← get
  match state.resolveConstant? scope name false with
  | none => refuse (.noConstant (state.graph.displayName scope) name)
  | some (owner, entry) =>
      if entry.isPrivate then refuse (.privateConstant (state.qualifier owner) name)
      if entry.isDeprecated then
        warn "deprecated constant referenced" (state.qualifier owner) name
      pure entry.value

/-- Whether a constant is there. -/
def constantDefined (scope : ClassId) (name : String) (inherited : Bool) : Action Bool := do
  checkConstantName name
  ask fun state => (state.resolveConstant? scope name (!inherited)).isSome

/-- Gives a class the name of a constant if it has none; singleton classes never get one. -/
def nameClass (scope : ClassId) (name : String) (value : Value) : Action Unit :=
  match value with
  | .cls id => do
      let state ← get
      let record := state.graph.record id
      if record.name.isNone && !record.isSingleton then
        let qualified := state.qualifiedName scope name
        changeClass id fun record => { record with owner := some scope, name := some qualified }
  | _ => pure ()

/-- Assigns a constant in a scope that may be changed. -/
def assignConstant (scope : ClassId) (name : String) (value : Value) : Action Unit := do
  checkConstantName name
  let symbol ← intern name
  let state ← get
  changeClass scope (.putConstant symbol value)
  if (state.graph.record scope).constants.contains symbol then
    warn "already initialized constant" (state.graph.displayName scope) name
  nameClass scope name value

/-- Assigns a constant. -/
def constantSet (scope : ClassId) (name : String) (value : Value) : Action Value := do
  checkNotFrozen scope
  assignConstant scope name value
  pure value

/-- Changes the flags of a constant in the table of a class. -/
def flagConstant (scope : ClassId) (name : String) (change : ConstantEntry → ConstantEntry) :
    Action Unit := do
  checkNotFrozen scope
  let state ← get
  let symbol := (state.names.find? name).filter (state.graph.record scope).constants.contains
  match symbol with
  | some symbol => changeClass scope (.flagConstant symbol change)
  | none => refuse (.constantNotDefined (state.graph.displayName scope) name)

/-- Makes a constant private or public. -/
def setConstantPrivate (isPrivate : Bool) (scope : ClassId) (name : String) : Action Unit :=
  flagConstant scope name fun entry => { entry with isPrivate }

/-- Marks a constant as one that should no longer be used. -/
def deprecateConstant (scope : ClassId) (name : String) : Action Unit :=
  flagConstant scope name fun entry => { entry with isDeprecated := true }

/-- Removes a constant, and gives the value that it had. -/
def constantRemove (scope : ClassId) (name : String) : Action (Option Value) := do
  let state ← get
  match state.names.find? name with
  | none => pure none
  | some symbol =>
      changeClass scope (.eraseConstant symbol)
      pure (((state.graph.record scope).constants.find? symbol).map ConstantEntry.value)

end ObjectModel
