import ObjectModel.State.Initial
import ObjectModel.Interpreter

/-! # Sessions

Several object models that share their default encodings and their configuration, and the steps that are run on
them. A step that is refused changes nothing more; the steps after it are run all the same.
-/

namespace ObjectModel

/-- An operation with the expressions of its operands, the object model on which it runs and the variable
that keeps its value. -/
structure Step where
  model : Nat
  operation : Operation Expr
  operands : List Expr
  target : Option String

/-- What is chosen when a session is set up. -/
structure Setup where
  options : Options
  configuration : Config.Source
  models : Nat

/-- Why a session cannot be set up. -/
inductive SetupFailure
  | encoding (fault : Fault)
  | configuration (failure : Config.Failure)

/-- The object models of a session and the default encodings that they share. -/
structure Session where
  models : List State
  defaults : Encoding.Defaults

/-- What came out of a step: its answer or why it was stopped, the warnings on the way, and the state of
the object model after it. -/
structure Outcome where
  result : Except Halt Answer
  warnings : List Warning
  state : State

namespace Session

/-- The depth to which calls may be nested. -/
def depth : Nat := 1000000

/-- A new session. -/
def start (setup : Setup) : Except SetupFailure Session := do
  let defaults ← (Encoding.Defaults.ofName setup.options.defaultExternal).mapError .encoding
  let configuration ←
    (Config.Settings.ofSource setup.configuration setup.options.policy).mapError .configuration
  let model := State.initial setup.options defaults configuration
  pure { models := List.replicate setup.models model, defaults }

/-- Evaluates the operands of an operation and performs it, outside any body. -/
def runOperation (operation : Operation Expr) (operands : List Expr) (target : Option String) :
    Action Answer := do
  let run := runBody depth
  let values ← Expr.evaluateAll run .nil [] operands
  performInto run (operation.map .script) values target

/-- Runs a step on its object model, which sees the shared defaults as they are and leaves them as it
changed them. -/
def runStep (session : Session) (step : Step) : Option (Outcome × Session) :=
  (session.models[step.model]?).map fun model =>
    let ready := { model with defaults := session.defaults, warnings := [] }
    let (result, state) := (runOperation step.operation step.operands step.target).run.run ready
    ({ result, warnings := state.warnings, state },
      { models := session.models.set step.model state, defaults := state.defaults })

end Session

end ObjectModel
