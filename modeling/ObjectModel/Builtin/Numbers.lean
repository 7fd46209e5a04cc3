import ObjectModel.Builtin.Texts

/-! # What numbers and comparable objects can do

Integers and floats are compared exactly among integers and as floats otherwise. Arithmetic on integers fails
rather than lose digits. Comparable objects are compared by what their method `<=>` answers.
-/

namespace ObjectModel.Builtin

/-- A number as a float. -/
def asFloat? : Value → Option Float
  | .int number => some (Float.ofInt number)
  | .float bits => some (Float.ofBits bits)
  | _ => none

/-- The order of two floats, if they have one. -/
def compareFloats (first second : Float) : Option Ordering :=
  if first < second then some .lt
  else if first == second then some .eq
  else if first > second then some .gt
  else none

/-- The order of two numbers, if they have one. -/
def compareNumbers (first second : Value) : Option Ordering :=
  match first, second with
  | .int first, .int second => some (Ord.compare first second)
  | _, _ => do compareFloats (← asFloat? first) (← asFloat? second)

/-- An arithmetic operation: its sign, and what it does to integers and to floats. -/
structure Arithmetic where
  sign : String
  onInts : Int → Int → Int
  onFloats : Float → Float → Float

/-- The result of an operation on an integer and another number. -/
def calculate (operation : Arithmetic) (receiver other : Value) : Action Value := do
  let own ← expectInt receiver
  match other with
  | .int number =>
      let result := operation.onInts own number
      if Value.leastInt ≤ result && result ≤ Value.greatestInt then pure (.int result)
      else refuse (.argument ("integer overflow in " ++ operation.sign))
  | .float bits => pure (.ofFloat (operation.onFloats (Float.ofInt own) (Float.ofBits bits)))
  | _ => do
      refuse (.typeMismatch
        ((← ask fun state => state.className other) ++ " can't be coerced into Integer"))

/-- The methods of numbers. -/
def runNumber (routine : NumberRoutine) (receiver : Value) (arguments : List Value) :
    Action Value := do
  match routine with
  | .integerText =>
      checkArity (.exactly 0) arguments
      newString (toString (← expectInt receiver))
  | .floatText =>
      checkArity (.exactly 0) arguments
      newString (Decimal.decimalText (Word.ofValue receiver).bits)
  | .equal =>
      checkArity (.exactly 1) arguments
      pure (.bool (compareNumbers receiver (argument arguments 0) = some .eq))
  | .compare =>
      checkArity (.exactly 1) arguments
      pure (((compareNumbers receiver (argument arguments 0)).map orderValue).getD .nil)
  | .add =>
      checkArity (.exactly 1) arguments
      calculate ⟨"+", (· + ·), (· + ·)⟩ receiver (argument arguments 0)
  | .subtract =>
      checkArity (.exactly 1) arguments
      calculate ⟨"-", (· - ·), (· - ·)⟩ receiver (argument arguments 0)
  | .multiply =>
      checkArity (.exactly 1) arguments
      calculate ⟨"*", (· * ·), (· * ·)⟩ receiver (argument arguments 0)

/-- The order of two values by the answer of `<=>`, none if that is not an integer. -/
def compareBySend (run : Runner) (first second : Value) : Action (Option Ordering) := do
  match ← ObjectModel.send run first "<=>" [second] with
  | .int number => pure (some (Ord.compare number 0))
  | _ => pure none

/-- The order of two values that have to have one. -/
def ordered (run : Runner) (first second : Value) : Action Ordering := do
  match ← compareBySend run first second with
  | some order => pure order
  | none =>
      let state ← get
      refuse (.argument ("comparison of " ++ state.className first ++ " with " ++
        state.inspect second ++ " failed"))

/-- A value brought between two bounds. -/
def clamp (run : Runner) (value least greatest : Value) : Action Value := do
  if (← ordered run least greatest) = .gt then
    refuse (.argument "min argument must be less than or equal to max argument")
  if (← ordered run value least) = .lt then return least
  if (← ordered run value greatest) = .gt then return greatest
  pure value

/-- The methods that come with `Comparable`. -/
def runComparable (run : Runner) (routine : ComparableRoutine) (receiver : Value)
    (arguments : List Value) : Action Value := do
  match routine with
  | .equal =>
      checkArity (.exactly 1) arguments
      if receiver = argument arguments 0 then pure (.bool true)
      else return .bool ((← compareBySend run receiver (argument arguments 0)) = some .eq)
  | .less =>
      checkArity (.exactly 1) arguments
      return .bool ((← ordered run receiver (argument arguments 0)) = .lt)
  | .lessOrEqual =>
      checkArity (.exactly 1) arguments
      return .bool ((← ordered run receiver (argument arguments 0)) ≠ .gt)
  | .greater =>
      checkArity (.exactly 1) arguments
      return .bool ((← ordered run receiver (argument arguments 0)) = .gt)
  | .greaterOrEqual =>
      checkArity (.exactly 1) arguments
      return .bool ((← ordered run receiver (argument arguments 0)) ≠ .lt)
  | .between =>
      checkArity (.exactly 2) arguments
      let least ← ordered run receiver (argument arguments 0)
      let greatest ← ordered run receiver (argument arguments 1)
      pure (.bool (least ≠ .lt && greatest ≠ .gt))
  | .clamp =>
      checkArity (.exactly 2) arguments
      clamp run receiver (argument arguments 0) (argument arguments 1)

end ObjectModel.Builtin
