import ObjectModel.Proofs.Mixing

/-! # Slots

A slot is what one operation may change: one entry of one table, or the list of modules on one side of a class. Two states
are the same outside of a slot if there is no difference between them once nothing is in the slot, the names that were
seen and the warnings apart. From that it follows table by table what they have in common.
-/

namespace ObjectModel

/-- What one operation may change. -/
inductive Slot
  | nowhere
  | method (id : ClassId) (name : Symbol)
  | constant (scope : ClassId) (name : Symbol)
  | classVariable (id : ClassId) (name : Symbol)
  | objectVariable (id : ObjectId) (name : Symbol)
  | mixins (side : Side) (id : ClassId)
  deriving DecidableEq

/-- The record without the modules on one side. -/
def ClassRecord.clearSide (side : Side) (record : ClassRecord) : ClassRecord :=
  match side with
  | .front => { record with prepends := [] }
  | .behind => { record with includes := [] }

def ClassRecord.eraseVariable (name : Symbol) (record : ClassRecord) : ClassRecord :=
  { record with ownVariables := record.ownVariables.erase name }

def HeapObject.eraseVariable (name : Symbol) (object : HeapObject) : HeapObject :=
  { object with ownVariables := object.ownVariables.erase name }

namespace Slot

/-- The slot of an instance variable; only objects and classes have one. -/
def ofVariable : Value → Symbol → Slot
  | .str id, name | .object id, name => .objectVariable id name
  | .cls id, name => .classVariable id name
  | _, _ => .nowhere

/-- The state with nothing in a slot. -/
def clear (state : State) : Slot → State
  | nowhere => state
  | method id name => state.changeClass id (.eraseMethod name)
  | constant scope name => state.changeClass scope (.eraseConstant name)
  | classVariable id name => state.changeClass id (.eraseVariable name)
  | objectVariable id name => state.changeObject id (.eraseVariable name)
  | mixins side id => state.changeClass id (.clearSide side)

/-- Two states that are the same outside of a slot, the names that were seen and the warnings apart: with nothing in
the slot there is no difference. -/
def SameOutside (slot : Slot) (first second : State) : Prop :=
  slot.clear second = { slot.clear first with names := second.names, warnings := second.warnings }

theorem SameOutside.refl (slot : Slot) (state : State) : slot.SameOutside state state := by
  cases slot <;> rfl

end Slot

theorem modify_absorb {α : Type} {change clear : α → α}
    (habsorb : ∀ item, clear (change item) = clear item) (items : List α) (position : Nat) :
    (items.modify position change).modify position clear = items.modify position clear := by
  rw [List.modify_modify_eq]
  exact congrArg (items.modify position) (funext habsorb)

/-- Changes at two positions can be made in either order, and so can two changes at one position that commute. -/
theorem modify_comm {α : Type} (first second : α → α)
    (hcomm : ∀ item, second (first item) = first (second item)) (items : List α) (place other : Nat) :
    (items.modify place first).modify other second = (items.modify other second).modify place first := by
  by_cases hplace : place = other
  · subst hplace
    rw [List.modify_modify_eq, List.modify_modify_eq]
    exact congrArg (items.modify place) (funext hcomm)
  · exact List.modify_modify_ne first second items hplace

namespace Slot

variable {slot : Slot} {change clear : ClassRecord → ClassRecord} {id : ClassId}

/-- A change of a record does not matter outside of a slot if it does not once the slot is cleared. -/
theorem sameOutside_changeClass (hslot : ∀ state : State, slot.clear state = state.changeClass id clear)
    (habsorb : ∀ record, clear (change record) = clear record) (state : State) (names : Interner)
    (warnings : List Warning) :
    slot.SameOutside state { state.changeClass id change with names, warnings } := by
  rw [SameOutside, hslot, hslot]
  exact congrArg (fun classes => { state with graph := ⟨classes⟩, names, warnings })
    (modify_absorb habsorb state.graph.classes id.index)

theorem sameOutside_putVariable (id : ObjectId) (name : Symbol) (value : Value) (state : State)
    (names : Interner) (warnings : List Warning) :
    SameOutside (.objectVariable id name) state
      { state.changeObject id (.putVariable name value) with names, warnings } := by
  have habsorb : ∀ object : HeapObject,
      (object.putVariable name value).eraseVariable name = object.eraseVariable name := fun object =>
    congrArg (fun ownVariables => { object with ownVariables })
      (object.ownVariables.erase_insert name value)
  exact congrArg (fun objects => { state with heap := ⟨objects⟩, names, warnings })
    (modify_absorb habsorb state.heap.objects id.index)

theorem eraseMethod_putMethod (name : Symbol) (entry : MethodEntry) (record : ClassRecord) :
    (record.putMethod name entry).eraseMethod name = record.eraseMethod name :=
  congrArg (fun methods => { record with methods }) (record.methods.erase_insert name entry)

theorem eraseMethod_eraseMethod (name : Symbol) (record : ClassRecord) :
    (record.eraseMethod name).eraseMethod name = record.eraseMethod name :=
  congrArg (fun methods => { record with methods }) (record.methods.erase_erase name)

theorem eraseConstant_putConstant (name : Symbol) (value : Value) (record : ClassRecord) :
    (record.putConstant name value).eraseConstant name = record.eraseConstant name :=
  congrArg (fun constants => { record with constants }) (record.constants.erase_insert name _)

theorem eraseConstant_flagConstant (name : Symbol) (change : ConstantEntry → ConstantEntry)
    (record : ClassRecord) :
    (record.flagConstant name change).eraseConstant name = record.eraseConstant name :=
  congrArg (fun constants => { record with constants }) (record.constants.erase_adjust name change)

theorem eraseVariable_putVariable (name : Symbol) (value : Value) (record : ClassRecord) :
    (record.putVariable name value).eraseVariable name = record.eraseVariable name :=
  congrArg (fun ownVariables => { record with ownVariables })
    (record.ownVariables.erase_insert name value)

theorem clearSide_change (side : Side) (mixin : ClassId) (record : ClassRecord) :
    (side.change mixin record).clearSide side = record.clearSide side := by
  cases side <;> rfl

end Slot

/-! ## What stays as it was -/

/-- A record with the tables and the mixed in modules of another one. -/
def ClassRecord.withTables (record other : ClassRecord) : ClassRecord :=
  { record with
    methods := other.methods, constants := other.constants, ownVariables := other.ownVariables,
    includes := other.includes, prepends := other.prepends }

/-- Two records of a class that are the same but for what a slot names. -/
structure ClassRecord.SameBut (slot : Slot) (id : ClassId) (first second : ClassRecord) : Prop where
  methods : ∀ name, slot ≠ .method id name → second.methods.find? name = first.methods.find? name
  constants : ∀ name, slot ≠ .constant id name →
    second.constants.find? name = first.constants.find? name
  ownVariables : ∀ name, slot ≠ .classVariable id name →
    second.ownVariables.find? name = first.ownVariables.find? name
  includes : slot ≠ .mixins .behind id → second.includes = first.includes
  prepends : slot ≠ .mixins .front id → second.prepends = first.prepends
  rest : second = first.withTables second

theorem ClassRecord.SameBut.refl (slot : Slot) (id : ClassId) (record : ClassRecord) :
    record.SameBut slot id record :=
  ⟨fun _ _ => rfl, fun _ _ => rfl, fun _ _ => rfl, fun _ => rfl, fun _ => rfl, rfl⟩

namespace Slot

/-- The class in whose record a slot is. -/
def class? : Slot → Option ClassId
  | method id _ | constant id _ | classVariable id _ | mixins _ id => some id
  | nowhere | objectVariable _ _ => none

/-- The object in which a slot is. -/
def object? : Slot → Option ObjectId
  | objectVariable id _ => some id
  | _ => none

/-- What two states have in common that are the same outside of a slot. -/
structure Untouched (slot : Slot) (first second : State) : Prop where
  classes : second.graph.size = first.graph.size
  objects : second.heap.size = first.heap.size
  others : ∀ id, slot.class? ≠ some id → second.graph.record id = first.graph.record id
  record : ∀ id, (first.graph.record id).SameBut slot id (second.graph.record id)
  object : ∀ id, slot.object? ≠ some id → second.heap.get? id = first.heap.get? id
  ownVariables : ∀ id name, slot ≠ .objectVariable id name →
    (second.heap.object id).ownVariables.find? name = (first.heap.object id).ownVariables.find? name
  defaults : second.defaults = first.defaults

end Slot

theorem Graph.of_update_eq {first second : Graph} {id : ClassId} {clear : ClassRecord → ClassRecord}
    (hsame : second.update id clear = first.update id clear) :
    second.size = first.size ∧ (∀ other, other ≠ id → second.record other = first.record other) ∧
      clear (second.record id) = clear (first.record id) := by
  have hsize : second.size = first.size := by
    rw [← Graph.size_update second id clear, hsame, Graph.size_update]
  refine ⟨hsize, fun other hother => ?_, ?_⟩
  · rw [← Graph.record_update_of_ne hother clear, hsame, Graph.record_update_of_ne hother]
  · by_cases hid : first.Has id
    · have hsecond : second.Has id := by rwa [Graph.Has, hsize]
      rw [← Graph.record_update_self hsecond clear, hsame, Graph.record_update_self hid]
    · have hsecond : ¬ second.Has id := by rwa [Graph.Has, hsize]
      rw [Graph.record_of_not_has hsecond, Graph.record_of_not_has hid]

namespace Slot

variable {slot : Slot} {first second : State}

section

variable {before after : ClassRecord} {id : ClassId} {name : Symbol}

/-- Records that are the same without a method. -/
theorem sameBut_method (hcleared : after.eraseMethod name = before.eraseMethod name) :
    before.SameBut (.method id name) id after := by
  have hfield {β : Type} (read : ClassRecord → β) := congrArg read hcleared
  exact ⟨fun _ hother => Table.find?_of_erase_eq (hfield (·.methods)) fun heq => hother (heq ▸ rfl),
    fun other _ => hfield (·.constants.find? other), fun other _ => hfield (·.ownVariables.find? other),
    fun _ => hfield (·.includes), fun _ => hfield (·.prepends), hfield (·.withTables after)⟩

theorem sameBut_constant (hcleared : after.eraseConstant name = before.eraseConstant name) :
    before.SameBut (.constant id name) id after := by
  have hfield {β : Type} (read : ClassRecord → β) := congrArg read hcleared
  exact ⟨fun other _ => hfield (·.methods.find? other),
    fun _ hother => Table.find?_of_erase_eq (hfield (·.constants)) fun heq => hother (heq ▸ rfl),
    fun other _ => hfield (·.ownVariables.find? other), fun _ => hfield (·.includes),
    fun _ => hfield (·.prepends), hfield (·.withTables after)⟩

theorem sameBut_classVariable (hcleared : after.eraseVariable name = before.eraseVariable name) :
    before.SameBut (.classVariable id name) id after := by
  have hfield {β : Type} (read : ClassRecord → β) := congrArg read hcleared
  exact ⟨fun other _ => hfield (·.methods.find? other), fun other _ => hfield (·.constants.find? other),
    fun _ hother => Table.find?_of_erase_eq (hfield (·.ownVariables)) fun heq => hother (heq ▸ rfl),
    fun _ => hfield (·.includes), fun _ => hfield (·.prepends), hfield (·.withTables after)⟩

/-- Records that are the same without the modules on one side. -/
theorem sameBut_mixins {side : Side} (hcleared : after.clearSide side = before.clearSide side) :
    before.SameBut (.mixins side id) id after := by
  have hfield {β : Type} (read : ClassRecord → β) := congrArg read hcleared
  cases side with
  | front =>
      exact ⟨fun other _ => hfield (·.methods.find? other), fun other _ => hfield (·.constants.find? other),
        fun other _ => hfield (·.ownVariables.find? other), fun _ => hfield (·.includes),
        fun hother => absurd rfl hother, hfield (·.withTables after)⟩
  | behind =>
      exact ⟨fun other _ => hfield (·.methods.find? other), fun other _ => hfield (·.constants.find? other),
        fun other _ => hfield (·.ownVariables.find? other), fun hother => absurd rfl hother,
        fun _ => hfield (·.prepends), hfield (·.withTables after)⟩

end

/-- A slot in the record of a class. -/
theorem untouched_of_class {id : ClassId} {clear : ClassRecord → ClassRecord}
    (hclass : slot.class? = some id)
    (hrecord : ∀ before after : ClassRecord, clear after = clear before → before.SameBut slot id after)
    (hgraph : second.graph.update id clear = first.graph.update id clear)
    (hheap : second.heap = first.heap) (hdefaults : second.defaults = first.defaults) :
    slot.Untouched first second := by
  obtain ⟨hsize, hothers, hcleared⟩ := Graph.of_update_eq hgraph
  refine ⟨hsize, by rw [hheap], fun other hother => ?_, fun other => ?_, fun _ _ => by rw [hheap],
    fun _ _ _ => by rw [hheap], hdefaults⟩
  · exact hothers other fun heq => hother (hclass.trans (congrArg some heq.symm))
  · by_cases heq : other = id
    · subst heq
      exact hrecord _ _ hcleared
    · rw [hothers other heq]
      exact .refl slot other _

/-- An object in which one variable may differ. -/
theorem untouched_of_object {id : ObjectId} {name : Symbol}
    (hheap : second.heap.update id (.eraseVariable name) = first.heap.update id (.eraseVariable name))
    (hgraph : second.graph = first.graph) (hdefaults : second.defaults = first.defaults) :
    (objectVariable id name).Untouched first second := by
  have hlength := congrArg (fun heap => heap.objects.length) hheap
  simp only [Heap.update, List.length_modify] at hlength
  have hothers : ∀ other, other ≠ id → second.heap.get? other = first.heap.get? other := by
    intro other hother
    rw [← Heap.get_update_of_ne hother (.eraseVariable name), hheap, Heap.get_update_of_ne hother]
  refine ⟨by rw [hgraph], hlength, fun _ _ => by rw [hgraph], fun other => by rw [hgraph]; exact .refl _ _ _,
    fun other hother => hothers other fun heq => hother (congrArg some heq.symm), ?_, hdefaults⟩
  intro other key hkey
  by_cases heq : other = id
  · subst heq
    have hcleared := congrArg (fun heap => heap.get? other) hheap
    simp only [Heap.get_update_self] at hcleared
    have hkey' : key ≠ name := fun hname => hkey (hname ▸ rfl)
    rw [Heap.object, Heap.object]
    cases hfirst : first.heap.get? other with
    | none =>
        rw [hfirst, Option.map_none, Option.map_eq_none_iff] at hcleared
        rw [hcleared]
    | some before =>
        rw [hfirst, Option.map_some, Option.map_eq_some_iff] at hcleared
        obtain ⟨after, hafter, hsame⟩ := hcleared
        rw [hafter]
        exact Table.find?_of_erase_eq (congrArg HeapObject.ownVariables hsame) hkey'
  · rw [Heap.object, Heap.object, hothers other heq]

theorem SameOutside.untouched (hsame : slot.SameOutside first second) : slot.Untouched first second := by
  have hgraph := congrArg State.graph hsame
  have hheap := congrArg State.heap hsame
  have hdefaults := congrArg State.defaults hsame
  cases slot with
  | nowhere =>
      have hsecond : second.graph = first.graph := hgraph
      have hobjects : second.heap = first.heap := hheap
      exact ⟨by rw [hsecond], by rw [hobjects], fun _ _ => by rw [hsecond],
        fun id => by rw [hsecond]; exact .refl _ _ _, fun _ _ => by rw [hobjects],
        fun _ _ _ => by rw [hobjects], hdefaults⟩
  | objectVariable id name => exact untouched_of_object hheap hgraph hdefaults
  | method id name => exact untouched_of_class rfl (fun _ _ => sameBut_method) hgraph hheap hdefaults
  | constant scope name => exact untouched_of_class rfl (fun _ _ => sameBut_constant) hgraph hheap hdefaults
  | classVariable id name =>
      exact untouched_of_class rfl (fun _ _ => sameBut_classVariable) hgraph hheap hdefaults
  | mixins side id => exact untouched_of_class rfl (fun _ _ => sameBut_mixins) hgraph hheap hdefaults

end Slot

end ObjectModel
