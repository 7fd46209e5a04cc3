import ObjectModel.Dispatch

/-! # Arguments of builtin methods

Every builtin first checks how many arguments it was given, and then that they are of the kinds that it needs.
-/

namespace ObjectModel.Builtin

/-- The numbers of arguments that a builtin takes. -/
inductive Arity
  | exactly (count : Nat)
  | atLeast (count : Nat)
  | between (least greatest : Nat)
  deriving DecidableEq, Repr

/-- Whether a number of arguments is right. -/
def Arity.allows (arity : Arity) (given : Nat) : Bool :=
  match arity with
  | .exactly count => given = count
  | .atLeast count => count ≤ given
  | .between least greatest => least ≤ given && given ≤ greatest

/-- The numbers of arguments as a message tells them. -/
def Arity.text : Arity → String
  | .exactly count => toString count
  | .atLeast count => toString count ++ "+"
  | .between least greatest => toString least ++ ".." ++ toString greatest

/-- Stops unless the number of arguments is right. -/
def checkArity (arity : Arity) (arguments : List Value) : Action Unit :=
  if arity.allows arguments.length then pure ()
  else refuse (.argument ("wrong number of arguments (given " ++ toString arguments.length ++
    ", expected " ++ arity.text ++ ")"))

/-- The argument at a position, nil if there is none. -/
def argument (arguments : List Value) (position : Nat) : Value :=
  (arguments[position]?).getD .nil

/-- Stops because of the kind of a value, which is shown in the message. -/
def refuseKind {α : Type} (value : Value) (complaint : String) : Action α := do
  refuse (.typeMismatch ((← ask fun state => state.inspect value) ++ complaint))

/-- The name that a symbol or a string gives. -/
def expectName (value : Value) : Action String := do
  match value with
  | .symbol name => ask fun state => state.symbolText name
  | .str _ => ask fun state => (state.text? value).getD ""
  | _ => refuseKind value " is not a symbol nor a string"

/-- The class or module that a value is. -/
def expectClass (value : Value) : Action ClassId :=
  match value with
  | .cls id => pure id
  | _ => refuseKind value " is not a class/module"

/-- Stops because a value does not convert to an instance of a class. -/
def refuseConversion {α : Type} (value : Value) (needed : String) : Action α := do
  refuse (.noImplicitConversion (← ask fun state => state.className value) needed)

/-- The text that a string holds. -/
def expectText (value : Value) : Action String := do
  match ← ask fun state => state.text? value with
  | some content => pure content
  | none => refuseConversion value "String"

/-- The number that an integer is. -/
def expectInt (value : Value) : Action Int :=
  match value with
  | .int number => pure number
  | _ => refuseConversion value "Integer"

end ObjectModel.Builtin
