import ObjectModel.Graph.Metaclass

/-! # Records after a change

What a graph holds at a position after a record was changed or added. The place of a record is its kind, its
superclass and what it is attached to, and never changes. Its slot for a metaclass may be filled, and modules may
be mixed in; with these it makes up the frame of the record. The tables, the name and the flag for freezing do not
belong to it.
-/

namespace ObjectModel

namespace ClassRecord

/-- Two records with the same place in the graph. -/
structure SamePlace (first second : ClassRecord) : Prop where
  kind : second.kind = first.kind
  superclass : second.superclass = first.superclass
  attached : second.attached = first.attached
  isCore : second.isCore = first.isCore

/-- Two records with the same place and the same metaclass. -/
structure SameSlot (first second : ClassRecord) : Prop extends SamePlace first second where
  metaclass : second.metaclass = first.metaclass

/-- Two records that differ at most in their tables, their names and in being frozen. -/
structure SameFrame (first second : ClassRecord) : Prop extends SameSlot first second where
  includes : second.includes = first.includes
  prepends : second.prepends = first.prepends

/-- A record and one that came from it: its place is the same, and its metaclass if there was one. -/
structure Keeps (first second : ClassRecord) : Prop extends SamePlace first second where
  metaclass : ∀ {metaclass}, first.metaclass = some metaclass → second.metaclass = some metaclass

/-- A record and the same one with at most its empty slot filled. -/
def Fills (first second : ClassRecord) : Prop :=
  ∃ slot, (first.metaclass = none ∨ slot = first.metaclass) ∧ second = { first with metaclass := slot }

/-- A record without methods, constants, variables and modules of its own. -/
def IsBlank (record : ClassRecord) : Prop :=
  ∃ kind superclass attached isCore slot,
    record = { fresh kind superclass attached isCore with metaclass := slot }

theorem SamePlace.refl (record : ClassRecord) : record.SamePlace record := ⟨rfl, rfl, rfl, rfl⟩

theorem SameSlot.refl (record : ClassRecord) : record.SameSlot record := ⟨.refl record, rfl⟩

theorem SameFrame.refl (record : ClassRecord) : record.SameFrame record := ⟨.refl record, rfl, rfl⟩

/-- The tables, the name and the flag for freezing are not part of the frame. -/
theorem sameFrame_with (record : ClassRecord) (name : Option String) (owner : Option ClassId)
    (methods : Table Symbol MethodEntry) (constants : Table Symbol ConstantEntry)
    (ownVariables : Table Symbol Value) (isFrozen : Bool) :
    record.SameFrame { record with name, owner, methods, constants, ownVariables, isFrozen } :=
  ⟨⟨⟨rfl, rfl, rfl, rfl⟩, rfl⟩, rfl, rfl⟩

theorem Keeps.refl (record : ClassRecord) : record.Keeps record := ⟨.refl record, id⟩

theorem SamePlace.trans {first second third : ClassRecord} (hfirst : first.SamePlace second)
    (hsecond : second.SamePlace third) : first.SamePlace third where
  kind := hsecond.kind.trans hfirst.kind
  superclass := hsecond.superclass.trans hfirst.superclass
  attached := hsecond.attached.trans hfirst.attached
  isCore := hsecond.isCore.trans hfirst.isCore

theorem Keeps.trans {first second third : ClassRecord} (hfirst : first.Keeps second)
    (hsecond : second.Keeps third) : first.Keeps third :=
  ⟨hfirst.toSamePlace.trans hsecond.toSamePlace,
    fun hslot => hsecond.metaclass (hfirst.metaclass hslot)⟩

theorem Fills.refl (record : ClassRecord) : record.Fills record := ⟨_, .inr rfl, rfl⟩

theorem Fills.trans {first second third : ClassRecord} (hfirst : first.Fills second)
    (hsecond : second.Fills third) : first.Fills third := by
  obtain ⟨slot, hslot, rfl⟩ := hfirst
  obtain ⟨last, hlast, rfl⟩ := hsecond
  refine ⟨last, ?_, rfl⟩
  rcases hslot with hnone | rfl
  · exact .inl hnone
  · exact hlast

theorem Fills.keeps {first second : ClassRecord} (hfills : first.Fills second) :
    first.Keeps second := by
  obtain ⟨slot, hslot, rfl⟩ := hfills
  refine ⟨⟨rfl, rfl, rfl, rfl⟩, ?_⟩
  intro metaclass hmetaclass
  rcases hslot with hnone | rfl
  · rw [hnone] at hmetaclass
    simp at hmetaclass
  · exact hmetaclass

theorem Fills.isBlank {first second : ClassRecord} (hfills : first.Fills second)
    (hblank : first.IsBlank) : second.IsBlank := by
  obtain ⟨slot, _, rfl⟩ := hfills
  obtain ⟨kind, superclass, attached, isCore, old, rfl⟩ := hblank
  exact ⟨kind, superclass, attached, isCore, slot, rfl⟩

theorem SameSlot.keeps {first second : ClassRecord} (hsame : first.SameSlot second) :
    first.Keeps second :=
  ⟨hsame.toSamePlace, hsame.metaclass.trans⟩

end ClassRecord

namespace Graph

/-- A graph has the position of a class. -/
def Has (graph : Graph) (id : ClassId) : Prop := id.index < graph.size

instance (graph : Graph) (id : ClassId) : Decidable (graph.Has id) :=
  inferInstanceAs (Decidable (id.index < graph.size))

theorem record_of_not_has {graph : Graph} {id : ClassId} (hid : ¬ graph.Has id) :
    graph.record id = missing := by
  have hnone : graph.classes[id.index]? = none := by
    simpa only [Has, size, Nat.not_lt, List.getElem?_eq_none_iff] using hid
  rw [record, hnone]
  rfl

theorem isModule_iff {graph : Graph} {id : ClassId} :
    graph.isModule id ↔ (graph.record id).kind = .mixin :=
  decide_eq_true_iff

/-! ## A changed record -/

@[simp] theorem size_update (graph : Graph) (id : ClassId) (change : ClassRecord → ClassRecord) :
    (graph.update id change).size = graph.size := by
  simp only [size, update, List.length_modify]

@[simp] theorem has_update {graph : Graph} {id other : ClassId}
    {change : ClassRecord → ClassRecord} : (graph.update id change).Has other ↔ graph.Has other := by
  simp only [Has, size_update]

theorem record_update_self {graph : Graph} {id : ClassId} (hid : graph.Has id)
    (change : ClassRecord → ClassRecord) :
    (graph.update id change).record id = change (graph.record id) := by
  simp only [Has, size] at hid
  simp [record, update, hid]

theorem record_update_of_ne {graph : Graph} {id other : ClassId} (hother : other ≠ id)
    (change : ClassRecord → ClassRecord) :
    (graph.update id change).record other = graph.record other := by
  have hindex : id.index ≠ other.index := by
    intro heq
    exact hother (by cases id; cases other; simp_all)
  simp [record, update, hindex]

/-- A record after a change is the old one or, at the position of the change, the changed one. -/
theorem record_update (graph : Graph) (id other : ClassId) (change : ClassRecord → ClassRecord) :
    (graph.update id change).record other = graph.record other ∨
      other = id ∧ graph.Has id ∧ (graph.update id change).record other = change (graph.record id) := by
  by_cases hother : other = id
  · subst other
    by_cases hid : graph.Has id
    · exact .inr ⟨rfl, hid, record_update_self hid change⟩
    · left
      rw [record_of_not_has hid, record_of_not_has (by rwa [has_update])]
  · exact .inl (record_update_of_ne hother change)

/-- What holds of each pair of an old record and the record after the change of one holds for all
positions. -/
theorem forall_record_update {relation : ClassRecord → ClassRecord → Prop} (graph : Graph)
    (id : ClassId) {change : ClassRecord → ClassRecord} (hrefl : ∀ record, relation record record)
    (hchange : ∀ record, relation record (change record)) (other : ClassId) :
    relation (graph.record other) ((graph.update id change).record other) := by
  rcases graph.record_update id other change with heq | ⟨rfl, _, heq⟩
  · rw [heq]
    exact hrefl _
  · rw [heq]
    exact hchange _

/-- Two graphs with the same positions whose records have the same places and metaclasses. -/
structure SameSlots (first second : Graph) : Prop where
  size : second.size = first.size
  record : ∀ id, (first.record id).SameSlot (second.record id)

/-- Two graphs with the same positions whose records have the same frames. -/
structure SameFrame (first second : Graph) : Prop where
  size : second.size = first.size
  record : ∀ id, (first.record id).SameFrame (second.record id)

theorem SameFrame.sameSlots {first second : Graph} (hsame : first.SameFrame second) :
    first.SameSlots second :=
  ⟨hsame.size, fun id => (hsame.record id).toSameSlot⟩

theorem sameSlots_update (graph : Graph) (id : ClassId) {change : ClassRecord → ClassRecord}
    (hchange : ∀ record : ClassRecord, record.SameSlot (change record)) :
    graph.SameSlots (graph.update id change) :=
  ⟨size_update graph id change, graph.forall_record_update id .refl hchange⟩

theorem sameFrame_update (graph : Graph) (id : ClassId) {change : ClassRecord → ClassRecord}
    (hchange : ∀ record : ClassRecord, record.SameFrame (change record)) :
    graph.SameFrame (graph.update id change) :=
  ⟨size_update graph id change, graph.forall_record_update id .refl hchange⟩

/-! ## An added record -/

/-- The position of the record that is added next. -/
def next (graph : Graph) : ClassId := ⟨graph.size⟩

@[simp] theorem size_add (graph : Graph) (record : ClassRecord) :
    (graph.add record).2.size = graph.size + 1 := by
  simp [size, add]

theorem has_add {graph : Graph} {record : ClassRecord} {id : ClassId} :
    (graph.add record).2.Has id ↔ graph.Has id ∨ id = graph.next := by
  have heq : id = graph.next ↔ id.index = graph.size := by
    constructor
    · rintro rfl
      rfl
    · intro hindex
      cases id
      simp_all [next]
  rw [heq, Has, Has, size_add]
  omega

theorem has_add_next (graph : Graph) (record : ClassRecord) :
    (graph.add record).2.Has graph.next :=
  has_add.mpr (.inr rfl)

theorem not_has_next (graph : Graph) : ¬ graph.Has graph.next := Nat.lt_irrefl graph.size

theorem record_add_next (graph : Graph) (record : ClassRecord) :
    (graph.add record).2.record graph.next = record := by
  simp [Graph.record, add, next, size]

theorem record_add_of_ne {graph : Graph} {id : ClassId} (hid : id ≠ graph.next)
    (record : ClassRecord) : (graph.add record).2.record id = graph.record id := by
  by_cases hold : graph.Has id
  · simp only [Has, size] at hold
    simp [Graph.record, add, List.getElem?_append_left hold]
  · rw [record_of_not_has hold, record_of_not_has]
    rw [has_add]
    exact fun hnew => hnew.elim hold hid

end Graph

end ObjectModel
