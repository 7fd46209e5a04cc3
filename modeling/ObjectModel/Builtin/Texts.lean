import ObjectModel.Builtin.Arguments

/-! # What strings, symbols and arrays can do

The builtin methods of strings, which are ordered by code points, of symbols and of arrays.
-/

namespace ObjectModel.Builtin

/-- An order as an integer: -1, 0 or 1. -/
def orderValue : Ordering → Value
  | .lt => .int (-1)
  | .eq => .int 0
  | .gt => .int 1

/-- The methods of strings. -/
def runString (routine : StringRoutine) (receiver : Value) (arguments : List Value) :
    Action Value := do
  match routine with
  | .toText =>
      checkArity (.exactly 0) arguments
      if (← ask fun state => state.classOf receiver) = CoreClass.string.id then pure receiver
      else newString (← expectText receiver)
  | .equal =>
      checkArity (.exactly 1) arguments
      ask fun state =>
        match state.text? (argument arguments 0) with
        | some other => .bool (state.text? receiver = some other)
        | none => .bool false
  | .compare =>
      checkArity (.exactly 1) arguments
      ask fun state =>
        match state.text? receiver, state.text? (argument arguments 0) with
        | some own, some other => orderValue (Ord.compare own other)
        | _, _ => .nil
  | .concat =>
      checkArity (.exactly 1) arguments
      let own ← expectText receiver
      let other ← expectText (argument arguments 0)
      newString (own ++ other)
  | .length =>
      checkArity (.exactly 0) arguments
      return .ofInt (← expectText receiver).length
  | .toSymbol =>
      checkArity (.exactly 0) arguments
      return .symbol (← intern (← expectText receiver))

/-- The methods of symbols. -/
def runSymbol (routine : SymbolRoutine) (receiver : Value) (arguments : List Value) :
    Action Value := do
  checkArity (.exactly 0) arguments
  match routine with
  | .toText => newString (← ask fun state => state.toText receiver)
  | .itself => pure receiver
  | .length => ask fun state => .ofInt (state.toText receiver).length

/-- The items of an array. -/
def expectItems (value : Value) : Action (List Value) := do
  match ← ask fun state => state.items? value with
  | some items => pure items
  | none => refuseKind value " is not an Array"

/-- The item at a position, which is counted from the end if it is negative; nil if there is none. -/
def itemAt (items : List Value) (position : Int) : Value :=
  let position := if position < 0 then position + items.length else position
  if position < 0 then .nil else argument items position.toNat

/-- Whether one of several values answers yes when it is asked whether it equals another one. -/
def anyEqual (run : Runner) (other : Value) : List Value → Action Bool
  | [] => pure false
  | item :: rest => do
      let answer ← ObjectModel.send run item "==" [other]
      if answer.isTruthy then pure true else anyEqual run other rest

/-- The methods of arrays. -/
def runArray (run : Runner) (routine : ArrayRoutine) (receiver : Value) (arguments : List Value) :
    Action Value := do
  match routine with
  | .length =>
      checkArity (.exactly 0) arguments
      return .ofInt (← expectItems receiver).length
  | .index =>
      checkArity (.exactly 1) arguments
      let items ← expectItems receiver
      return itemAt items (← expectInt (argument arguments 0))
  | .first =>
      checkArity (.exactly 0) arguments
      return argument (← expectItems receiver) 0
  | .includes =>
      checkArity (.exactly 1) arguments
      let items ← expectItems receiver
      return .bool (← anyEqual run (argument arguments 0) items)
  | .itself =>
      checkArity (.exactly 0) arguments
      pure receiver

end ObjectModel.Builtin
