import ObjectModel.Graph

/-! # Ancestors

The order in which a class is searched. Each class of the superclass chain brings with it a local part: its
prepended modules, the class, its included modules, each module with the modules that it brings itself. What
would come a second time is left out.
-/

namespace ObjectModel.Graph

/-- The superclass chain of a class, at most as long as the given bound. -/
def chainWithin (graph : Graph) : Nat → ClassId → List ClassId
  | 0, _ => []
  | fuel + 1, id =>
      id :: (match graph.superclass? id with
        | some superclass => graph.chainWithin fuel superclass
        | none => [])

/-- A class, its superclass, the superclass of that, and so on. A superclass is older than its subclass,
so the position of a class bounds its chain. -/
def superclassChain (graph : Graph) (id : ClassId) : List ClassId :=
  graph.chainWithin (id.index + 1) id

/-- The local part of a class, with a bound on the depth of modules within modules. -/
def localWithin (graph : Graph) : Nat → ClassId → List ClassId
  | 0, _ => []
  | fuel + 1, id =>
      (graph.record id).prepends.flatMap (graph.localWithin fuel) ++
        id :: (graph.record id).includes.flatMap (graph.localWithin fuel)

/-- The local part of a class. No module brings itself, so the number of classes bounds the depth. -/
def localPart (graph : Graph) (id : ClassId) : List ClassId := graph.localWithin graph.size id

/-- The classes and modules along which a class is searched, each once. -/
def ancestors (graph : Graph) (id : ClassId) : List ClassId :=
  ((graph.superclassChain id).flatMap graph.localPart).eraseDups

/-- Whether a class is another one or has it among its ancestors. -/
def isKindOf (graph : Graph) (id ancestor : ClassId) : Bool :=
  id = ancestor || ancestor ∈ graph.ancestors id

end ObjectModel.Graph
