import ObjectModel.Class
import ObjectModel.Fault
import ObjectModel.Text.Digits
import ObjectModel.Word

/-! # The class graph

All class records, each known by its position. Records are added at the end and never taken away, so a position
once handed out stays valid.
-/

namespace ObjectModel

/-- The class records in the order in which they were made. -/
structure Graph where
  classes : List ClassRecord

namespace Graph

def empty : Graph := ⟨[]⟩

def size (graph : Graph) : Nat := graph.classes.length

/-- The record that stands at a position where there is none. -/
def missing : ClassRecord := .fresh .cls none none false

def record (graph : Graph) (id : ClassId) : ClassRecord := (graph.classes[id.index]?).getD missing

/-- The graph with the record at a position changed. -/
def update (graph : Graph) (id : ClassId) (change : ClassRecord → ClassRecord) : Graph :=
  ⟨graph.classes.modify id.index change⟩

/-- Adds a record and tells its position. -/
def add (graph : Graph) (record : ClassRecord) : ClassId × Graph :=
  (⟨graph.size⟩, ⟨graph.classes ++ [record]⟩)

def superclass? (graph : Graph) (id : ClassId) : Option ClassId := (graph.record id).superclass

def isModule (graph : Graph) (id : ClassId) : Bool := (graph.record id).isModule

/-- The class of a class taken as a value: `Module` for modules, else `Class`. -/
def classOfClass (graph : Graph) (id : ClassId) : ClassId :=
  if graph.isModule id then CoreClass.moduleClass.id else CoreClass.classClass.id

/-! ## Display names -/

/-- A handle as it is shown: sixteen hexadecimal digits. -/
def handleText (index : Nat) : String := "0x" ++ Text.hex16 index

/-- The display name of a class, with a bound on the steps from a singleton class to what it is attached
to. -/
def displayWithin (graph : Graph) : Nat → ClassId → String
  | 0, id => "#<Class:" ++ handleText id.index ++ ">"
  | fuel + 1, id =>
      let record := graph.record id
      match record.name with
      | some name => name
      | none =>
          match record.kind, record.attached with
          | .singleton, some (.cls owner) => "#<Class:" ++ graph.displayWithin fuel owner ++ ">"
          | .singleton, some attached =>
              let base := (record.superclass.map (graph.displayWithin fuel)).getD ""
              "#<Class:#<" ++ base ++ ":" ++ handleText (Word.ofValue attached).payload ++ ">>"
          | .mixin, _ => "#<Module:" ++ handleText id.index ++ ">"
          | _, _ => "#<Class:" ++ handleText id.index ++ ">"

/-- The name of a class, or a description for one that has no name: a singleton class is described by what
it is attached to. What a class is attached to is older than the class. -/
def displayName (graph : Graph) (id : ClassId) : String := graph.displayWithin (id.index + 1) id

end Graph

end ObjectModel
