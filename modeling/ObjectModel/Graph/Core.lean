import ObjectModel.Graph.Metaclass

/-! # The core graph

The classes from which everything starts. The first four refer to each other, so the metaclasses are made only
once all of them are there; the metaclass of `BasicObject` inherits from `Class`, which closes the circle.
-/

namespace ObjectModel

/-- Whether a core class is a module. -/
def CoreClass.kind : CoreClass → ClassKind
  | kernel | comparable => .mixin
  | _ => .cls

/-- The superclass of a core class. -/
def CoreClass.superclass? : CoreClass → Option CoreClass
  | basicObject | kernel | comparable => none
  | object => some basicObject
  | moduleClass => some object
  | classClass => some moduleClass
  | _ => some object

/-- The modules that a core class includes. -/
def CoreClass.includes : CoreClass → List CoreClass
  | object => [kernel]
  | integer | float | string => [comparable]
  | _ => []

/-- The symbol of the name of a core class; these names are the first that are interned. -/
def CoreClass.nameSymbol (core : CoreClass) : Symbol := ⟨core.id.index⟩

/-- The record of a core class before it has a name. -/
def CoreClass.record (core : CoreClass) : ClassRecord :=
  { ClassRecord.fresh core.kind (core.superclass?.map CoreClass.id) none true with
    includes := core.includes.map CoreClass.id }

namespace Graph

/-- Gives a core class its metaclass and its name. -/
def nameCore (graph : Graph) (core : CoreClass) : Graph :=
  let (_, graph) := graph.metaclassOf core.id
  let graph := graph.update core.id fun record =>
    { record with name := some core.name, owner := some CoreClass.object.id }
  graph.update CoreClass.object.id (.putConstant core.nameSymbol (.cls core.id))

/-- The graph of the core classes. The root also has a constant for itself, so that it can be named from
where `Object` is not seen. -/
def core : Graph :=
  let graph : Graph := ⟨CoreClass.all.map CoreClass.record⟩
  let graph := CoreClass.all.foldl nameCore graph
  graph.update CoreClass.basicObject.id
    (.putConstant CoreClass.basicObject.nameSymbol (.cls CoreClass.basicObject.id))

end Graph

end ObjectModel
