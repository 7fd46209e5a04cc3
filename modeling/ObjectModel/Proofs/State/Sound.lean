import ObjectModel.Proofs.Graph.Building
import ObjectModel.Proofs.State.Handle

/-! # Sound states

The laws that hold between the parts of a state: the class graph obeys its laws, whatever a table or an object holds
stands for something, an object has the payload that its class asks for, and singleton classes and the objects to
which they are attached know each other.
-/

namespace ObjectModel

/-! ## What bodies use -/

/-- The method bodies that an operation holds. -/
def Operation.bodies {β : Type} : Operation β → List β
  | .defineMethod _ body | .defineSingletonMethod _ body => [body]
  | _ => []

/-- Every value that is written in an expression has a property. -/
inductive Expr.Uses (ok : Value → Prop) : Expr → Prop
  | constant {value : Value} (hvalue : ok value) : Uses ok (.constant value)
  | named (name : String) : Uses ok (.named name)
  | text (content : String) : Uses ok (.text content)
  | literal (content : String) : Uses ok (.literal content)
  | symbol (name : String) : Uses ok (.symbol name)
  | array {items : List Expr} (hitems : ∀ item ∈ items, Uses ok item) : Uses ok (.array items)
  | classAt (path : List String) : Uses ok (.classAt path)
  | metaclass {of : Expr} (hof : Uses ok of) : Uses ok (.metaclass of)
  | encoding (name : String) : Uses ok (.encoding name)
  | receiver : Uses ok .receiver
  | argument (position : Nat) : Uses ok (.argument position)
  | arguments : Uses ok .arguments
  | sequence {items : List Expr} (hitems : ∀ item ∈ items, Uses ok item) : Uses ok (.sequence items)
  | choose {condition yes no : Expr} (hcondition : Uses ok condition) (hyes : Uses ok yes)
      (hno : Uses ok no) : Uses ok (.choose condition yes no)
  | raise (fault : Fault) : Uses ok (.raise fault)
  | perform {operation : Operation Expr} {operands : List Expr} (target : Option String)
      (hbodies : ∀ body ∈ operation.bodies, Uses ok body)
      (hoperands : ∀ operand ∈ operands, Uses ok operand) :
      Uses ok (.perform operation operands target)

theorem Expr.Uses.mono {first second : Value → Prop} {expression : Expr}
    (huses : expression.Uses first) (himp : ∀ value, first value → second value) :
    expression.Uses second := by
  induction huses with
  | constant hvalue => exact .constant (himp _ hvalue)
  | named name => exact .named name
  | text content => exact .text content
  | literal content => exact .literal content
  | symbol name => exact .symbol name
  | array _ ih => exact .array ih
  | classAt path => exact .classAt path
  | metaclass _ ih => exact .metaclass ih
  | encoding name => exact .encoding name
  | receiver => exact .receiver
  | argument position => exact .argument position
  | arguments => exact .arguments
  | sequence _ ih => exact .sequence ih
  | choose _ _ _ hcondition hyes hno => exact .choose hcondition hyes hno
  | raise fault => exact .raise fault
  | perform target _ _ hbodies hoperands => exact .perform target hbodies hoperands

/-! ## The laws -/

/-- The value that stands for an object at a position. -/
def HeapObject.handle (object : HeapObject) (id : ObjectId) : Value :=
  if object.text?.isSome then .str id else .object id

namespace State

/-- A body uses only what is there. -/
def FitsBody (state : State) : Body → Prop
  | .builtin _ installation => installation < state.installations
  | .script expression => expression.Uses state.Has
  | .reader _ | .writer _ | .tombstone => True

/-- A table of variables holds symbols and values that are there. -/
def FitsVariables (state : State) (table : Table Symbol Value) : Prop :=
  ∀ pair ∈ table.entries, state.names.Has pair.1 ∧ state.Has pair.2

/-- What the record at a position holds is there, and its methods know where they were put. -/
structure FitsRecord (state : State) (id : ClassId) (record : ClassRecord) : Prop where
  methods : ∀ pair ∈ record.methods.entries,
    state.names.Has pair.1 ∧ pair.2.owner = id ∧ state.FitsBody pair.2.body
  constants : ∀ pair ∈ record.constants.entries, state.names.Has pair.1 ∧ state.Has pair.2.value
  ownVariables : state.FitsVariables record.ownVariables
  attached : ∀ value, record.attached = some value → state.Has value
  owner : ∀ scope, record.owner = some scope → state.graph.Has scope

/-- The core classes from which no object of the heap may descend. -/
def withoutInstances : List CoreClass := .moduleClass :: unallocatable

/-- An object is one of a proper class with the payload for it, what it holds is there, and its
singleton class is attached to it. -/
structure FitsObject (state : State) (id : ObjectId) (object : HeapObject) : Prop where
  cls : state.graph.Has object.cls
  kind : (state.graph.record object.cls).kind = .cls
  allocatable : ∀ core ∈ withoutInstances, core.id ∉ state.graph.superclassChain object.cls
  text : object.text?.isSome ↔ CoreClass.string.id ∈ state.graph.superclassChain object.cls
  array : object.items?.isSome ↔ CoreClass.array.id ∈ state.graph.superclassChain object.cls
  ownVariables : state.FitsVariables object.ownVariables
  items : ∀ items, object.items? = some items → ∀ item ∈ items, state.Has item
  singleton : ∀ singleton, object.singleton = some singleton →
    (state.graph.record singleton).attached = some (object.handle id) ∧
      (state.graph.record singleton).superclass = some object.cls

/-- The laws that every state obeys. -/
structure Sound (state : State) : Prop where
  graph : state.graph.Sound
  record : ∀ id, state.FitsRecord id (state.graph.record id)
  object : ∀ id object, state.heap.get? id = some object → state.FitsObject id object
  singleton_of_attached : ∀ id value, (state.graph.record id).attached = some value →
    (∃ owner, value = .cls owner) ∨ ∃ position object, value.objectId? = some position ∧
      state.heap.get? position = some object ∧ object.singleton = some id
  scriptVariables : ∀ pair ∈ state.scriptVariables.entries, state.Has pair.2
  external : state.defaults.external.index < Encoding.catalog.length
  internal : ∀ id, state.defaults.internal = some id → id.index < Encoding.catalog.length

/-! ## What fits goes on to fit -/

end State

theorem HeapObject.Keeps.handle {first second : HeapObject} (hkeeps : first.Keeps second)
    (id : ObjectId) : second.handle id = first.handle id := by
  rw [HeapObject.handle, HeapObject.handle, hkeeps.isText]

namespace State

namespace Grows

variable {first second : State}

theorem fitsBody (hgrows : first.Grows second) {body : Body} (hbody : first.FitsBody body) :
    second.FitsBody body := by
  cases body with
  | builtin method installation => exact Nat.lt_of_lt_of_le hbody hgrows.installations
  | script expression => exact Expr.Uses.mono hbody fun _ hvalue => hgrows.has hvalue
  | reader name => trivial
  | writer name => trivial
  | tombstone => trivial

theorem fitsVariables (hgrows : first.Grows second) {table : Table Symbol Value}
    (hvariables : first.FitsVariables table) : second.FitsVariables table :=
  fun pair hpair => ⟨hgrows.names.has (hvariables pair hpair).1, hgrows.has (hvariables pair hpair).2⟩

theorem fitsRecord (hgrows : first.Grows second) {id : ClassId} {record : ClassRecord}
    (hrecord : first.FitsRecord id record) : second.FitsRecord id record where
  methods pair hpair :=
    have ⟨hname, howner, hbody⟩ := hrecord.methods pair hpair
    ⟨hgrows.names.has hname, howner, hgrows.fitsBody hbody⟩
  constants pair hpair :=
    have ⟨hname, hvalue⟩ := hrecord.constants pair hpair
    ⟨hgrows.names.has hname, hgrows.has hvalue⟩
  ownVariables := hgrows.fitsVariables hrecord.ownVariables
  attached value hvalue := hgrows.has (hrecord.attached value hvalue)
  owner scope hscope := hgrows.graph.has (hrecord.owner scope hscope)

theorem fitsObject (hgrows : first.Grows second) (hfirst : first.graph.Stacked)
    (hsecond : second.graph.Stacked) {id : ObjectId} {object : HeapObject}
    (hobject : first.FitsObject id object) : second.FitsObject id object := by
  have hchain := hgrows.graph.superclassChain hfirst hsecond hobject.cls
  refine ⟨hgrows.graph.has hobject.cls, ?_, ?_, ?_, ?_, hgrows.fitsVariables hobject.ownVariables,
    ?_, ?_⟩
  · rw [(hgrows.graph.record hobject.cls).kind]
    exact hobject.kind
  · rw [hchain]
    exact hobject.allocatable
  · rw [hchain]
    exact hobject.text
  · rw [hchain]
    exact hobject.array
  · exact fun items hitems => hgrows.hasAll (hobject.items items hitems)
  · intro singleton hsingleton
    obtain ⟨hattached, hsuper⟩ := hobject.singleton singleton hsingleton
    have hkeeps := hgrows.graph.record (Graph.has_of_attached hattached)
    exact ⟨hkeeps.attached.trans hattached, hkeeps.superclass.trans hsuper⟩

end Grows

/-- A grown state obeys the laws, if what is new in it does. -/
theorem Sound.of_grows {first second : State} (hsound : first.Sound) (hgrows : first.Grows second)
    (hgraph : second.graph.Sound)
    (hrecord : ∀ id, second.graph.record id = first.graph.record id ∨
      second.FitsRecord id (second.graph.record id))
    (hobject : ∀ id object, second.heap.get? id = some object →
      first.heap.get? id = some object ∨ second.FitsObject id object)
    (hattached : ∀ id value, (second.graph.record id).attached = some value →
      (first.graph.record id).attached = some value ∨ (∃ owner, value = .cls owner) ∨
        ∃ position object, value.objectId? = some position ∧
          second.heap.get? position = some object ∧ object.singleton = some id)
    (hvariables : ∀ pair ∈ second.scriptVariables.entries,
      pair ∈ first.scriptVariables.entries ∨ second.Has pair.2)
    (hdefaults : second.defaults = first.defaults) : second.Sound := by
  refine ⟨hgraph, ?_, ?_, ?_, ?_, ?_, ?_⟩
  · intro id
    rcases hrecord id with hold | hnew
    · rw [hold]
      exact hgrows.fitsRecord (hsound.record id)
    · exact hnew
  · intro id object hget
    rcases hobject id object hget with hold | hnew
    · exact hgrows.fitsObject hsound.graph.stacked hgraph.stacked (hsound.object id object hold)
    · exact hnew
  · intro id value hvalue
    rcases hattached id value hvalue with hold | hnew
    · rcases hsound.singleton_of_attached id value hold with hcls | ⟨position, object, hid, hget, hslot⟩
      · exact .inl hcls
      · obtain ⟨next, hnext, hkeeps⟩ := hgrows.heap position object hget
        exact .inr ⟨position, next, hid, hnext, hkeeps.singleton hslot⟩
    · exact hnew
  · intro pair hpair
    rcases hvariables pair hpair with hold | hnew
    · exact hgrows.has (hsound.scriptVariables pair hold)
    · exact hnew
  · rw [hdefaults]
    exact hsound.external
  · rw [hdefaults]
    exact hsound.internal

theorem Sound.proper {state : State} (hsound : state.Sound) : state.graph.Proper := by
  intro id superclass hsuper
  have hmirrored := hsound.graph.mirrored
  cases hkind : (state.graph.record id).kind with
  | mixin =>
      rw [hsound.graph.stacked.superclass_module (Graph.isModule_iff.mpr hkind)] at hsuper
      simp at hsuper
  | cls =>
      rw [Graph.isModule_iff, hmirrored.superclass_kind hkind hsuper]
      decide
  | singleton =>
      obtain ⟨value, hattached⟩ := Option.isSome_iff_exists.mp (hmirrored.attached_iff.mpr hkind)
      -- a metaclass inherits from a metaclass, the singleton class of an object from its class
      rcases hsound.singleton_of_attached id value hattached with
        ⟨owner, rfl⟩ | ⟨position, object, _, hobject, hslot⟩
      · obtain ⟨_, parent, hparent, habove⟩ :=
          hmirrored.mirrors (hmirrored.metaclass_of_attached hattached)
        obtain rfl := Option.some.inj (hsuper.symm.trans habove)
        exact hmirrored.not_isModule_parent hparent
      · have hfits := hsound.object position object hobject
        obtain rfl := Option.some.inj (hsuper.symm.trans (hfits.singleton id hslot).2)
        rw [Graph.isModule_iff, hfits.kind]
        decide

end State

end ObjectModel
