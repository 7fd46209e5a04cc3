import ObjectModel.Perform

/-! # Running method bodies

The meaning of expressions and of method bodies. Bodies call methods and methods run bodies; the two are tied
together by a bound on how deeply calls may be nested.
-/

namespace ObjectModel

/-- The class found by constants, one after the other, starting in a class. -/
def State.classAt? (state : State) (scope : ClassId) : List String → Option ClassId
  | [] => some scope
  | name :: rest =>
      match state.resolveConstant? scope name false with
      | some (_, { value := .cls id, .. }) => state.classAt? id rest
      | _ => none

/-- Performs an operation and keeps its value in a variable if one is named. -/
def performInto (run : Runner) (operation : Operation Body) (operands : List Value)
    (target : Option String) : Action Answer := do
  let answer ← operation.perform run operands
  match target, answer with
  | some name, .value value =>
      modify fun state => { state with scriptVariables := state.scriptVariables.insert name value }
  | _, _ => pure ()
  pure answer

mutual

/-- The value of an expression in a call with a receiver and arguments. -/
def Expr.evaluate (run : Runner) (receiver : Value) (arguments : List Value) :
    Expr → Action Value
  | .constant value => pure value
  | .named name => ask fun state => (state.scriptVariables.find? name).getD .nil
  | .text content => newString content
  | .literal content => newLiteral content
  | .symbol name => do return .symbol (← intern name)
  | .array items => do newArray (← Expr.evaluateAll run receiver arguments items)
  | .classAt path => do
      let state ← get
      match state.classAt? CoreClass.object.id path with
      | some id => pure (.cls id)
      | none => refuse (.noConstant CoreClass.object.name ("::".intercalate path))
  | .metaclass of => do
      return .cls (← singletonClassOf (← of.evaluate run receiver arguments))
  | .encoding name => do return .encoding (← settle (Encoding.named name))
  | .receiver => pure receiver
  | .argument position => pure (Builtin.argument arguments position)
  | .arguments => newArray arguments
  | .sequence items => do
      return (← Expr.evaluateAll run receiver arguments items).getLast?.getD .nil
  | .choose condition yes no => do
      if (← condition.evaluate run receiver arguments).isTruthy then
        yes.evaluate run receiver arguments
      else no.evaluate run receiver arguments
  | .raise fault => refuse fault
  | .perform operation operands target => do
      let values ← Expr.evaluateAll run receiver arguments operands
      return (← performInto run (operation.map .script) values target).toValue

/-- The values of several expressions, evaluated in order. -/
def Expr.evaluateAll (run : Runner) (receiver : Value) (arguments : List Value) :
    List Expr → Action (List Value)
  | [] => pure []
  | item :: rest => do
      let value ← item.evaluate run receiver arguments
      return value :: (← Expr.evaluateAll run receiver arguments rest)

end

/-- Runs a body, with a given way to run the bodies that it calls. -/
def Body.runWith (run : Runner) (body : Body) (receiver : Value) (arguments : List Value) :
    Action Value := do
  match body with
  | .builtin method _ => method.routine.perform run receiver arguments
  | .reader name =>
      Builtin.checkArity (.exactly 0) arguments
      return (← variableGet receiver name).getD .nil
  | .writer name =>
      Builtin.checkArity (.exactly 1) arguments
      variableSet receiver name (Builtin.argument arguments 0)
  | .script expression => expression.evaluate run receiver arguments
  | .tombstone => refuseMissing receiver ""

/-- Runs bodies, with calls nested at most as deeply as the given bound. -/
def runBody : Nat → Runner
  | 0 => fun _ _ _ => throw .exhausted
  | depth + 1 => Body.runWith (runBody depth)

end ObjectModel
