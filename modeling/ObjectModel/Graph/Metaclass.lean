import ObjectModel.Graph

/-! # New classes and their metaclasses

A class gets a record and at once a metaclass: the singleton class that holds the methods of the class itself.
The metaclass of a class inherits from the metaclass of its superclass. The metaclass of a metaclass is made when
it is first needed.
-/

namespace ObjectModel.Graph

/-- The metaclass of a class, made if it is not there yet, with a bound on the superclasses that are passed
on the way up. -/
def metaclassWithin : Nat → ClassId → Graph → ClassId × Graph
  | 0, _, graph => (CoreClass.classClass.id, graph)
  | fuel + 1, id, graph =>
      let record := graph.record id
      match record.metaclass with
      | some metaclass => (metaclass, graph)
      | none =>
          let (parent, graph) :=
            match record.kind, record.superclass with
            | .mixin, _ => (CoreClass.moduleClass.id, graph)
            | _, some superclass => metaclassWithin fuel superclass graph
            | _, none => (CoreClass.classClass.id, graph)
          let (metaclass, graph) :=
            graph.add (.fresh .singleton (some parent) (some (.cls id)) record.isCore)
          (metaclass, graph.update id fun record => { record with metaclass := some metaclass })

/-- The metaclass of a class, made if it is not there yet. It inherits from `Module` for a module, from
`Class` for the root, and else from the metaclass of the superclass. -/
def metaclassOf (graph : Graph) (id : ClassId) : ClassId × Graph :=
  metaclassWithin (id.index + 1) id graph

/-- Makes a class without a name under a superclass that is a proper class. -/
def newClass (graph : Graph) (superclass : ClassId) : Except Fault (ClassId × Graph) :=
  match (graph.record superclass).kind with
  | .mixin => throw (.typeMismatch "superclass must be a Class")
  | .singleton => throw (.typeMismatch "can't make subclass of singleton class")
  | .cls =>
      let (id, graph) := graph.add (.fresh .cls (some superclass) none false)
      pure (id, (graph.metaclassOf id).2)

/-- Makes a module without a name. -/
def newModule (graph : Graph) : ClassId × Graph :=
  let (id, graph) := graph.add (.fresh .mixin none none false)
  (id, (graph.metaclassOf id).2)

/-- Makes the singleton class of a heap object of a class. -/
def newObjectSingleton (graph : Graph) (object : Value) (cls : ClassId) : ClassId × Graph :=
  graph.add (.fresh .singleton (some cls) (some object) false)

end ObjectModel.Graph
