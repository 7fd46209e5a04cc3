import ObjectModel.State.Constant
import ObjectModel.State.Instance
import ObjectModel.State.Variable

/-! # Changing method tables

Methods are defined, removed, hidden, copied under another name and given another visibility; modules are mixed
in. The tables of frozen classes, of the singleton classes of frozen objects and, if they are sealed, of the core
classes stay as they are.
-/

namespace ObjectModel

/-- Stops if the method table of a class may not be changed. -/
def checkMutable (id : ClassId) : Action Unit := do
  checkNotFrozen id
  let state ← get
  let record := state.graph.record id
  if state.options.sealCore && record.isCore then
    refuse (.frozen (state.graph.displayName id))
  match record.attached with
  | some attached => if state.isFrozen attached then refuseFrozen attached
  | none => pure ()

/-- Puts a method into the table of a class. -/
def addMethod (id : ClassId) (name : String) (body : Body) (visibility : Visibility) :
    Action Symbol := do
  checkMutable id
  let symbol ← intern name
  changeClass id (.putMethod symbol { owner := id, body, visibility })
  pure symbol

/-- Defines a public method. -/
def defineMethod (id : ClassId) (name : String) (body : Body) : Action Symbol :=
  addMethod id name body .pub

/-- Defines a method of one value alone. -/
def defineSingletonMethod (value : Value) (name : String) (body : Body) : Action Symbol := do
  let singleton ← singletonClassOf value
  defineMethod singleton name body

/-- Stops because a class has no method of a name. -/
def refuseUndefined {α : Type} (id : ClassId) (name : String) : Action α := do
  refuse (.methodNotDefined name (← ask fun state => state.graph.displayName id))

/-- Whether the table of a class itself has a method of a name. -/
def State.ownsMethod (state : State) (id : ClassId) (name : Symbol) : Bool :=
  ((state.graph.record id).methods.find? name).any MethodEntry.isDefined

/-- The symbol of a name under which a class has a method, with the entry of that method. -/
def State.methodNamed? (state : State) (id : ClassId) (name : String) :
    Option (Symbol × MethodEntry) := do
  let symbol ← state.names.find? name
  let entry ← state.graph.findMethod? id symbol
  pure (symbol, entry)

/-- Takes a method out of the table of a class; those further up are seen again. -/
def removeMethod (id : ClassId) (name : String) : Action Unit := do
  checkMutable id
  let state ← get
  match (state.names.find? name).filter (state.ownsMethod id) with
  | some symbol => changeClass id (.eraseMethod symbol)
  | none => refuseUndefined id name

/-- Hides a method from a class and its descendants, wherever it was found. -/
def undefMethod (id : ClassId) (name : String) : Action Unit := do
  checkMutable id
  match ← ask fun state => state.methodNamed? id name with
  | some (symbol, _) =>
      changeClass id (.putMethod symbol { owner := id, body := .tombstone, visibility := .pub })
  | none => refuseUndefined id name

/-- Copies a method under another name into the table of a class. -/
def aliasMethod (id : ClassId) (name old : String) : Action Symbol := do
  match ← ask fun state => state.methodNamed? id old with
  | some (_, entry) => addMethod id name entry.body entry.visibility
  | none => refuseUndefined id old

/-- Gives a method another visibility; one that is inherited is copied for that. -/
def setVisibility (id : ClassId) (name : String) (visibility : Visibility) : Action Unit := do
  match ← ask fun state => state.methodNamed? id name with
  | some (_, entry) =>
      if entry.visibility ≠ visibility then
        let _ ← addMethod id name entry.body visibility
  | none => refuseUndefined id name

/-- Mixes a module into a class whose method table may be changed. -/
def mixIn (id : ClassId) (mix : Graph → Except Fault (Bool × Graph)) : Action Bool := do
  checkMutable id
  let state ← get
  let (added, graph) ← settle (mix state.graph)
  set { state with graph }
  pure added

/-- Includes a module in a class. -/
def includeModule (id mixin : ClassId) : Action Bool :=
  mixIn id fun graph => graph.includeModule id mixin

/-- Prepends a module to a class. -/
def prependModule (id mixin : ClassId) : Action Bool :=
  mixIn id fun graph => graph.prependModule id mixin

/-- Whether instances of a class have a method of a name that may be called from outside. -/
def State.methodDefined (state : State) (id : ClassId) (name : String) : Bool :=
  (state.methodNamed? id name).any fun found => !found.2.isPrivate

end ObjectModel
