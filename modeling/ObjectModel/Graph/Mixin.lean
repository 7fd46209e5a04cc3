import ObjectModel.Graph.Ancestry

/-! # Mixing in modules

A module is mixed into a class after the class or in front of it. Nothing happens if the class has it already,
and a module that has the class among its own ancestors is refused.
-/

namespace ObjectModel.Graph

/-- Whether a module can be mixed into a class: it has to be a module, and the class may not be among
its ancestors; nothing is to be done if the module is among those of the class. -/
def checkMixin (graph : Graph) (id mixin : ClassId) (cyclic : String) : Except Fault Bool :=
  if !graph.isModule mixin then throw (.typeMismatch "wrong argument type (expected Module)")
  else if mixin ∈ graph.ancestors id then pure false
  else if id ∈ graph.ancestors mixin then throw (.argument cyclic)
  else pure true

/-- Includes a module in a class, and tells whether the class did not have it yet. -/
def includeModule (graph : Graph) (id mixin : ClassId) : Except Fault (Bool × Graph) := do
  if ← graph.checkMixin id mixin "cyclic include detected" then
    pure (true, graph.update id (.addInclude mixin))
  else
    pure (false, graph)

/-- Prepends a module to a class, and tells whether the class did not have it yet. -/
def prependModule (graph : Graph) (id mixin : ClassId) : Except Fault (Bool × Graph) := do
  if ← graph.checkMixin id mixin "cyclic prepend detected" then
    pure (true, graph.update id (.addPrepend mixin))
  else
    pure (false, graph)

end ObjectModel.Graph
