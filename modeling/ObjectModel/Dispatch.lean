import ObjectModel.State.Instance
import ObjectModel.State.Method

/-! # Dispatch

Calling a method of a value by name. A method that is not found is asked of the hook `method_missing`, which gets
its symbol in front of the arguments; if there is no such hook either, the call fails.
-/

namespace ObjectModel

def missingName : String := "method_missing"

/-- The method of a value that a name stands for. A name that was never interned stands for none. -/
def findMethod (receiver : Value) (name : String) : Action (Option MethodEntry) := do
  match ← ask fun state => state.names.find? name with
  | none => pure none
  | some symbol =>
      let start ← dispatchClass receiver
      ask fun state => state.graph.findMethod? start symbol

/-- Whether a value has a method of a name, private ones counted if wanted. -/
def respondTo (receiver : Value) (name : String) (includePrivate : Bool) : Action Bool := do
  let found ← findMethod receiver name
  pure (found.any fun entry => includePrivate || !entry.isPrivate)

/-- Stops because a value has no method of a name. -/
def refuseMissing {α : Type} (receiver : Value) (name : String) : Action α := do
  refuse (.noMethod name (← ask fun state => state.describeReceiver receiver))

/-- Calls the hook for missing methods in place of a method that was not found. The hook itself is not
replaced by the hook. -/
def callMissing (run : Runner) (receiver : Value) (name : Symbol) (arguments : List Value) :
    Action Value := do
  let missing ← intern missingName
  let start ← dispatchClass receiver
  let state ← get
  match if name = missing then none else state.graph.findMethod? start missing with
  | some hook => run hook.body receiver (.symbol name :: arguments)
  | none => refuseMissing receiver (state.symbolText name)

/-- Calls the method of a symbol. A private method is refused if the visibility counts. -/
def dispatch (run : Runner) (checked : Bool) (receiver : Value) (name : Symbol)
    (arguments : List Value) : Action Value := do
  let start ← dispatchClass receiver
  let state ← get
  match state.graph.findMethod? start name with
  | none => callMissing run receiver name arguments
  | some entry =>
      if checked && entry.isPrivate then
        refuse (.privateMethod (state.symbolText name) (state.describeReceiver receiver))
      else run entry.body receiver arguments

/-- Whether a value has a hook for missing methods other than the one that only fails. -/
def hasCustomMissing (receiver : Value) : Action Bool := do
  let hook ← findMethod receiver missingName
  pure (hook.any fun entry => !entry.body.isStockMissing)

/-- Calls the method of a name. No method table can hold a name that was never interned, so such a name goes
straight to the hook for missing methods, and is interned only if there is one that makes something of it. -/
def dispatchName (run : Runner) (checked : Bool) (receiver : Value) (name : String)
    (arguments : List Value) : Action Value := do
  match ← ask fun state => state.names.find? name with
  | some symbol => dispatch run checked receiver symbol arguments
  | none =>
      if ← hasCustomMissing receiver then
        let symbol ← intern name
        callMissing run receiver symbol arguments
      else refuseMissing receiver name

/-- Calls a method from outside; private methods are refused. -/
def invoke (run : Runner) (receiver : Value) (name : String) (arguments : List Value) :
    Action Value :=
  dispatchName run true receiver name arguments

/-- Calls a method whatever its visibility. -/
def send (run : Runner) (receiver : Value) (name : String) (arguments : List Value) : Action Value :=
  dispatchName run false receiver name arguments

end ObjectModel
