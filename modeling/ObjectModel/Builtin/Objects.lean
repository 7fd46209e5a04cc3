import ObjectModel.Builtin.Arguments

/-! # What objects can do

The builtin methods of all objects, and those of nil and the truth values.
-/

namespace ObjectModel.Builtin

/-- The methods of every object. -/
def runBasic (run : Runner) (routine : BasicRoutine) (receiver : Value) (arguments : List Value) :
    Action Value := do
  match routine, arguments with
  | .construct, _ => pure .nil
  | .identical, _ =>
      checkArity (.exactly 1) arguments
      pure (.bool (receiver = argument arguments 0))
  | .negate, _ =>
      checkArity (.exactly 0) arguments
      pure (.bool !receiver.isTruthy)
  | .notEqual, _ =>
      checkArity (.exactly 1) arguments
      let equal ← ObjectModel.send run receiver "==" arguments
      pure (.bool !equal.isTruthy)
  | .identity, _ =>
      checkArity (.exactly 0) arguments
      pure receiver.identity
  | .send, [] | .missing, [] => refuse (.argument "no method name given")
  | .send, name :: rest =>
      let name ← expectName name
      ObjectModel.send run receiver name rest
  | .missing, name :: _ =>
      let name ← expectName name
      refuseMissing receiver name

/-- The methods that come with `Kernel`. -/
def runKernel (run : Runner) (routine : KernelRoutine) (receiver : Value) (arguments : List Value) :
    Action Value := do
  match routine with
  | .classOf =>
      checkArity (.exactly 0) arguments
      ask fun state => .cls (state.classOf receiver)
  | .singletonClass =>
      checkArity (.exactly 0) arguments
      return .cls (← singletonClassOf receiver)
  | .objectId =>
      checkArity (.exactly 0) arguments
      pure receiver.identity
  | .send =>
      checkArity (.atLeast 1) arguments
      let name ← expectName (argument arguments 0)
      ObjectModel.send run receiver name (arguments.drop 1)
  | .publicSend =>
      checkArity (.atLeast 1) arguments
      let name ← expectName (argument arguments 0)
      ObjectModel.invoke run receiver name (arguments.drop 1)
  | .respondTo =>
      checkArity (.between 1 2) arguments
      let name ← expectName (argument arguments 0)
      return .bool (← ObjectModel.respondTo receiver name (argument arguments 1).isTruthy)
  | .variableGet =>
      checkArity (.exactly 1) arguments
      let name ← expectName (argument arguments 0)
      return (← ObjectModel.variableGet receiver name).getD .nil
  | .variableSet =>
      checkArity (.exactly 2) arguments
      let name ← expectName (argument arguments 0)
      ObjectModel.variableSet receiver name (argument arguments 1)
  | .variableNames =>
      checkArity (.exactly 0) arguments
      newArray ((← ask fun state => (state.variablesOf receiver).keys).map .symbol)
  | .isFrozen =>
      checkArity (.exactly 0) arguments
      ask fun state => .bool (state.isFrozen receiver)
  | .freeze =>
      checkArity (.exactly 0) arguments
      ObjectModel.freeze receiver
      pure receiver
  | .isA =>
      checkArity (.exactly 1) arguments
      let cls ← expectClass (argument arguments 0)
      return .bool (← ObjectModel.isA receiver cls)
  | .instanceOf =>
      checkArity (.exactly 1) arguments
      let cls ← expectClass (argument arguments 0)
      ask fun state => .bool (state.classOf receiver = cls)
  | .inspect =>
      checkArity (.exactly 0) arguments
      newString (← ask fun state => state.inspect receiver)
  | .toText =>
      checkArity (.exactly 0) arguments
      newString (← ask fun state => state.toText receiver)
  | .isNil =>
      checkArity (.exactly 0) arguments
      pure (.bool (receiver = .nil))

/-- The methods of nil and the truth values. -/
def runSingular (routine : SingularRoutine) (receiver : Value) (arguments : List Value) :
    Action Value := do
  match routine with
  | .toText =>
      checkArity (.exactly 0) arguments
      newString (← ask fun state => state.toText receiver)
  | .inspect =>
      checkArity (.exactly 0) arguments
      newString (← ask fun state => state.inspect receiver)
  | .both =>
      checkArity (.exactly 1) arguments
      pure (.bool (receiver.isTruthy && (argument arguments 0).isTruthy))
  | .either =>
      checkArity (.exactly 1) arguments
      pure (.bool (receiver.isTruthy || (argument arguments 0).isTruthy))
  | .isNil =>
      checkArity (.exactly 0) arguments
      pure (.bool true)
  | .toArray =>
      checkArity (.exactly 0) arguments
      newArray []

end ObjectModel.Builtin
