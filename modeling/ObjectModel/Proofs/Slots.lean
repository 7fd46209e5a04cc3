import ObjectModel.Proofs.Reachable

/-! # Slots for singleton classes

What stands in the slots of classes and objects in every state that can be reached. The laws of sound states are spelled
out for the slots: a singleton class belongs to one slot only, stays there, and inherits from what the slot one step
further up holds.
-/

namespace ObjectModel

open Relation

/-! ## The way up -/

namespace Graph

/-- While the slot of a class is held in order to be filled, the metaclass of its superclass is asked for. -/
def Awaits (graph : Graph) (id above : ClassId) : Prop :=
  (graph.record id).metaclass = none ∧ ¬ graph.isModule id ∧ graph.superclass? id = some above

variable {graph : Graph}

/-- Of the slots that are held at once each one is that of an older class, so none is entered twice. -/
theorem Stacked.index_lt_of_awaits (hstacked : graph.Stacked) {id above : ClassId}
    (hawaits : TransGen graph.Awaits id above) : above.index < id.index := by
  induction hawaits with
  | single hstep => exact hstacked.superclass_lt hstep.2.2
  | tail _ hstep ih => exact Nat.lt_trans (hstacked.superclass_lt hstep.2.2) ih

end Graph

theorem HeapObject.handle_ne_cls (object : HeapObject) (position : ObjectId) (id : ClassId) :
    object.handle position ≠ .cls id := by
  rw [HeapObject.handle]
  split <;> simp

namespace State

variable {state : State}

/-- Every superclass chain that does not start in a module ends in the root. -/
theorem Sound.getLast_superclassChain (hsound : state.Sound) {id : ClassId}
    (hid : state.graph.Has id) (hkind : ¬ state.graph.isModule id) :
    (state.graph.superclassChain id).getLast? = some CoreClass.basicObject.id := by
  have hstacked := hsound.graph.stacked
  induction id using hstacked.superclassInduction with
  | hroot id hnone =>
      rw [Graph.isModule_iff] at hkind
      rw [hstacked.superclassChain_of_none hnone, hsound.graph.mirrored.root hid hkind hnone]
      rfl
  | hstep id superclass hsuper ih =>
      have hlast := ih (Nat.lt_trans (hstacked.superclass_lt hsuper) hid)
        (hsound.proper id superclass hsuper)
      rw [hstacked.superclassChain_of_some hsuper, List.getLast?_cons, hlast]
      rfl

/-- BasicObject is the only class that is no module and has no superclass. -/
theorem Sound.superclass_eq_none_iff (hsound : state.Sound) {id : ClassId}
    (hid : state.graph.Has id) (hkind : ¬ state.graph.isModule id) :
    state.graph.superclass? id = none ↔ id = CoreClass.basicObject.id := by
  constructor
  · intro hnone
    rw [Graph.isModule_iff] at hkind
    exact hsound.graph.mirrored.root hid hkind hnone
  · rintro rfl
    exact hsound.graph.mirrored.core_superclass .basicObject

/-! ## Slots -/

/-- The laws for a class and the metaclass in its slot. -/
structure MetaclassLaws (state : State) (id metaclass : ClassId) : Prop where
  kind : (state.graph.record metaclass).kind = .singleton
  attached : (state.graph.record metaclass).attached = some (.cls id)
  /-- It stands in the slot of no other class and of no object. -/
  unique : ∀ other, (state.graph.record other).metaclass = some metaclass → other = id
  unshared : ∀ position object, state.heap.get? position = some object →
    object.singleton ≠ some metaclass
  /-- It stands there in every later state. -/
  lasting : ∀ later, state.Reaches later → (later.graph.record id).metaclass = some metaclass
  ofModule : state.graph.isModule id →
    state.graph.superclass? metaclass = some CoreClass.moduleClass.id
  ofRoot : ¬ state.graph.isModule id → state.graph.superclass? id = none →
    state.graph.superclass? metaclass = some CoreClass.classClass.id
  /-- It inherits from what the slot of the superclass holds, which is filled. -/
  mirrors : ∀ superclass, state.graph.superclass? id = some superclass →
    ∃ above, (state.graph.record superclass).metaclass = some above ∧
      state.graph.superclass? metaclass = some above

/-- The laws for an object and the singleton class in its slot. -/
structure SingletonLaws (state : State) (position : ObjectId) (object : HeapObject)
    (singleton : ClassId) : Prop where
  kind : (state.graph.record singleton).kind = .singleton
  attached : (state.graph.record singleton).attached = some (object.handle position)
  superclass : state.graph.superclass? singleton = some object.cls

theorem Sound.singletonLaws (hsound : state.Sound) {position : ObjectId} {object : HeapObject}
    {singleton : ClassId} (hobject : state.heap.get? position = some object)
    (hslot : object.singleton = some singleton) : state.SingletonLaws position object singleton := by
  obtain ⟨hattached, hsuper⟩ := (hsound.object position object hobject).singleton singleton hslot
  exact ⟨hsound.graph.mirrored.toPlaced.kind_of_attached hattached, hattached, hsuper⟩

theorem Sound.metaclassLaws (hsound : state.Sound) {id metaclass : ClassId}
    (hslot : (state.graph.record id).metaclass = some metaclass) :
    state.MetaclassLaws id metaclass := by
  have hmirrored := hsound.graph.mirrored
  obtain ⟨hattached, parent, hparent, hsuper⟩ := hmirrored.mirrors hslot
  -- a singleton class is attached to one value, and that decides in which slot it stands
  refine ⟨hmirrored.kind_metaclass hslot, hattached, ?_, ?_, ?_, ?_, ?_, ?_⟩
  · intro other hother
    have hsame := (hmirrored.mirrors hother).1.symm.trans hattached
    exact Value.cls.inj (Option.some.inj hsame)
  · intro position object hobject hsingleton
    have hhandle := (hsound.singletonLaws hobject hsingleton).attached
    exact object.handle_ne_cls position id (Option.some.inj (hhandle.symm.trans hattached))
  · intro later hreaches
    have hgrows := (hsound.reaches hreaches).2.graph
    exact (hgrows.record (Graph.has_of_metaclass hslot)).metaclass hslot
  · intro hmodule
    rw [Graph.metaclassParent?_of_module (Graph.isModule_iff.mp hmodule)] at hparent
    rw [Graph.superclass?, hsuper, hparent]
  · intro hmodule hnone
    rw [Graph.isModule_iff] at hmodule
    rw [Graph.metaclassParent?_of_none hmodule hnone] at hparent
    rw [Graph.superclass?, hsuper, hparent]
  -- a class with a superclass is no module, so its metaclass goes by the superclass
  · intro superclass habove
    have hmodule : (state.graph.record id).kind ≠ .mixin := by
      intro hkind
      rw [hsound.graph.stacked.superclass_module (Graph.isModule_iff.mpr hkind)] at habove
      simp at habove
    rw [Graph.metaclassParent?_of_some hmodule habove] at hparent
    exact ⟨parent, hparent, hsuper⟩

/-- In every state that can be reached metaclasses mirror their classes, whenever and in whatever order they
were made: what stands in the slot of a class is its own and stays there, the slots of proper classes and
modules are filled, superclasses are older, every chain that does not start in a module ends in the root,
and so making a metaclass ends without entering a slot twice; and the singleton class of an object inherits
from the object's class. -/
theorem metaclasses_mirror_classes (hreachable : state.Reachable) :
    (∀ id metaclass, (state.graph.record id).metaclass = some metaclass →
      state.MetaclassLaws id metaclass) ∧
    (∀ id, state.graph.Has id → (state.graph.record id).kind ≠ .singleton →
      ∃ metaclass, (state.graph.record id).metaclass = some metaclass) ∧
    (∀ id superclass, state.graph.superclass? id = some superclass →
      superclass.index < id.index) ∧
    (∀ id, state.graph.Has id → ¬ state.graph.isModule id →
      (state.graph.superclass? id = none ↔ id = CoreClass.basicObject.id) ∧
        (state.graph.superclassChain id).getLast? = some CoreClass.basicObject.id) ∧
    (∀ id, ¬ TransGen state.graph.Awaits id id) ∧
    (∀ id, state.graph.Has id →
      ((state.graph.metaclassOf id).2.record id).metaclass = some (state.graph.metaclassOf id).1 ∧
        ∀ bound, id.index < bound →
          Graph.metaclassWithin bound id state.graph = state.graph.metaclassOf id) ∧
    (∀ position object singleton, state.heap.get? position = some object →
      object.singleton = some singleton → state.SingletonLaws position object singleton) := by
  have hsound := hreachable.sound
  have hstacked := hsound.graph.stacked
  refine ⟨fun _ _ => hsound.metaclassLaws, ?_, fun _ _ => hstacked.superclass_lt, ?_, ?_, ?_,
    fun _ _ _ => hsound.singletonLaws⟩
  · intro id hid hkind
    exact Option.isSome_iff_exists.mp (hsound.graph.filled id hid hkind)
  · intro id hid hkind
    exact ⟨hsound.superclass_eq_none_iff hid hkind, hsound.getLast_superclassChain hid hkind⟩
  · intro id hawaits
    exact Nat.lt_irrefl _ (hstacked.index_lt_of_awaits hawaits)
  · exact fun id hid => ⟨(hstacked.synthesizes hid).slot, fun _ => hstacked.metaclassWithin_eq⟩

/-- After the metaclass of the metaclass of `Array` was asked for, the metaclass of `Array` inherits from that
of `Object`. -/
theorem metaclass_array_inherits :
    let state := plain.after
      ((Expr.metaclass (.metaclass (.classAt ["Array"]))).evaluate (runBody 1) .nil [])
    ∃ metaclass above,
      (state.graph.record CoreClass.array.id).metaclass = some metaclass ∧
        (state.graph.record CoreClass.object.id).metaclass = some above ∧
        state.graph.superclass? metaclass = some above := by
  intro state
  have hmoves : plain.Moves state := .evaluate 1 (.metaclass (.metaclass (.classAt ["Array"])))
  have hreachable : state.Reachable := reachable_plain.reaches (.single hmoves)
  obtain ⟨hlaws, hfilled, _⟩ := metaclasses_mirror_classes hreachable
  have hsound := hreachable.sound.graph
  have hkind : (state.graph.record CoreClass.array.id).kind ≠ .singleton := by
    rw [hsound.mirrored.core_kind]
    decide
  obtain ⟨metaclass, hslot⟩ := hfilled _ (hsound.stacked.has_core .array) hkind
  obtain ⟨above, habove, hsuper⟩ :=
    (hlaws _ _ hslot).mirrors _ (hsound.mirrored.core_superclass .array)
  exact ⟨metaclass, above, hslot, habove, hsuper⟩

end State

end ObjectModel
