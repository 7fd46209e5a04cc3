import ObjectModel.Dispatch
import ObjectModel.Proofs.State.Classes
import ObjectModel.State.Define

/-! # What definitions lead to

New and reopened classes and modules, instances of classes, singleton classes, and changes of method tables.
-/

namespace ObjectModel.State

variable {state : State}

/-! ## Classes and modules -/

theorem run_newClass (state : State) (superclass : ClassId) :
    (newClass superclass).run.run state =
      match state.graph.newClass superclass with
      | .ok (id, graph) => (.ok id, state.withGraph graph)
      | .error fault => (.error (.fault fault), state) := by
  rw [newClass, run_get_bind]
  cases state.graph.newClass superclass <;> rfl

theorem leads_newClass {superclass : ClassId} (hsuper : state.graph.Has superclass) :
    state.Leads (newClass superclass) fun reached id =>
      state.graph.Extends reached.graph ∧ reached.graph.Has id := by
  apply Leads.ofSound
  intro hsound
  apply Leads.get_bind
  apply Leads.settle_bind
  rintro ⟨id, graph⟩ hresult
  have happly : state.withGraph graph = (Change.newClass superclass).apply state := by
    rw [Change.apply, hresult]
    rfl
  refine .change (.newClass superclass) happly (fun _ => hsuper) trivial ?_
  intro other hother
  obtain rfl := Except.ok.inj hother
  rw [← happly]
  exact hsound.graph.stacked.extends_newClass hsuper hresult

theorem leads_newModule : state.Leads newModule fun reached id =>
    state.graph.Extends reached.graph ∧ reached.graph.Has id := by
  apply Leads.ofSound
  intro hsound
  refine .change .newModule rfl (fun _ => trivial) trivial ?_
  intro id hid
  obtain rfl := Except.ok.inj hid
  exact hsound.graph.stacked.extends_newModule

theorem has_of_properClass {value : Value} {id : ClassId} (hvalue : state.Has value)
    (hproper : state.properClass? value = some id) : state.graph.Has id := by
  cases value with
  | cls other =>
      rw [properClass?] at hproper
      split at hproper
      · exact Option.some.inj hproper ▸ hvalue
      · simp at hproper
  | _ => simp [properClass?] at hproper

theorem has_of_module {value : Value} {id : ClassId} (hvalue : state.Has value)
    (hmodule : state.module? value = some id) : state.graph.Has id := by
  cases value with
  | cls other =>
      rw [module?] at hmodule
      split at hmodule
      · exact Option.some.inj hmodule ▸ hvalue
      · simp at hmodule
  | _ => simp [module?] at hmodule

theorem leads_reopenClass {existing : Value} (name : String) (superclass : Option ClassId)
    (hexisting : state.Has existing) :
    state.Leads (reopenClass existing name superclass) fun reached id => reached.graph.Has id := by
  apply Leads.get_bind
  split
  · exact .refuse _
  next id hproper =>
    exact .ite (fun _ => .refuse _) fun _ => .pure (has_of_properClass hexisting hproper)

/-- A class that was there is as frozen as it was after a graph was extended. -/
theorem isFrozen_of_extends {first second : Graph} (hextends : first.Extends second) {id : ClassId}
    (hid : first.Has id) : (second.record id).isFrozen = (first.record id).isFrozen := by
  obtain ⟨slot, _, heq⟩ := hextends.record hid
  rw [heq]

/-- Making a class or a module and naming it in a scope that is not frozen. -/
theorem leads_defineNew {scope : ClassId} {make : Action ClassId} (name : String)
    (hscope : state.graph.Has scope) (hopen : (state.graph.record scope).isFrozen = false)
    (hmake : state.Leads make fun reached id =>
      state.graph.Extends reached.graph ∧ reached.graph.Has id) :
    state.Leads (do
      let id ← make
      assignConstant scope name (.cls id)
      pure id) fun reached id => reached.graph.Has id := by
  apply Leads.bind hmake
  rintro reached id hgrows ⟨hextends, hid⟩
  -- making it did not freeze the scope
  have hstill := (isFrozen_of_extends hextends hscope).trans hopen
  have hvalue : reached.Has (.cls id) := hid
  apply Leads.bind (leads_assignConstant name (hgrows.graph.has hscope) hvalue hstill)
  rintro last _ hlast -
  exact .pure (hlast.graph.has hid)

theorem leads_defineClass {scope : ClassId} (name : String) {superclass : Option ClassId}
    (hscope : state.graph.Has scope)
    (hsuper : ∀ above, superclass = some above → state.graph.Has above) :
    state.Leads (defineClass scope name superclass) fun reached id => reached.graph.Has id := by
  apply Leads.look_bind (looks_checkNotFrozen scope)
  intro _ hopen
  apply Leads.ofSound
  intro hsound
  apply Leads.ask_bind
  split
  next existing hown =>
    exact leads_reopenClass name superclass (hsound.has_ownConstant hown)
  · have habove : state.graph.Has (superclass.getD CoreClass.object.id) := by
      cases superclass with
      | none => exact hsound.graph.stacked.has_core .object
      | some above => exact hsuper above rfl
    exact leads_defineNew name hscope hopen (leads_newClass habove)

theorem leads_defineModule {scope : ClassId} (name : String) (hscope : state.graph.Has scope) :
    state.Leads (defineModule scope name) fun reached id => reached.graph.Has id := by
  apply Leads.look_bind (looks_checkNotFrozen scope)
  intro _ hopen
  apply Leads.ofSound
  intro hsound
  apply Leads.ask_bind
  split
  next existing hown =>
    apply Leads.ask_bind
    split
    next id hmodule => exact .pure (has_of_module (hsound.has_ownConstant hown) hmodule)
    · exact .refuse _
  · exact leads_defineNew name hscope hopen leads_newModule

/-! ## Instances -/

/-- What allocation gives: something that is there, and if it is an object, a fresh one of the class. -/
def Allocated (reached : State) (cls : ClassId) (value : Value) : Prop :=
  reached.Has value ∧ ∀ id, value.objectId? = some id →
    (reached.heap.object id).cls = cls ∧ (reached.heap.object id).isFrozen = false

theorem allocated_of_get {reached : State} {cls : ClassId} {payload : Payload} {id : ObjectId}
    {value : Value} (hvalue : reached.Has value) (hid : value.objectId? = some id)
    (hobject : reached.heap.get? id = some (.fresh cls payload)) : reached.Allocated cls value := by
  refine ⟨hvalue, ?_⟩
  intro other hother
  obtain rfl := Option.some.inj (hid.symm.trans hother)
  rw [Heap.object_of_get hobject]
  exact ⟨rfl, rfl⟩

/-- No class descends from both `String` and `Array`. -/
theorem Sound.not_array_of_string (hsound : state.Sound) {cls : ClassId}
    (hstring : CoreClass.string.id ∈ state.graph.superclassChain cls) :
    CoreClass.array.id ∉ state.graph.superclassChain cls := by
  intro harray
  -- one of the two would descend from the other
  rcases hsound.graph.stacked.superclassChain_total hstring harray with hmem | hmem
  · rw [hsound.graph.mem_chain_of_child rfl] at hmem
    exact absurd hmem (by decide)
  · rw [hsound.graph.mem_chain_of_child rfl] at hmem
    exact absurd hmem (by decide)

theorem Sound.allocatable (hsound : state.Sound) {cls : ClassId} (hcls : state.graph.Has cls)
    (hmodule : ¬ state.graph.isKindOf cls CoreClass.moduleClass.id)
    (hallocator : ¬ unallocatable.any fun core => state.graph.isKindOf cls core.id) :
    ∀ core ∈ withoutInstances, core.id ∉ state.graph.superclassChain cls := by
  intro core hcore
  rcases List.mem_cons.mp hcore with rfl | hcore
  · rwa [← hsound.graph.isKindOf_core hcls rfl]
  · intro hmem
    have hkind : core.kind = .cls := by
      revert hcore
      cases core <;> decide
    apply hallocator
    rw [List.any_eq_true]
    exact ⟨core, hcore, (hsound.graph.isKindOf_core hcls hkind).mpr hmem⟩

theorem leads_allocateInstance {cls : ClassId} (hcls : state.graph.Has cls)
    (hkind : (state.graph.record cls).kind = .cls) :
    state.Leads (allocateInstance cls) fun reached value => reached.Allocated cls value := by
  apply Leads.ofSound
  intro hsound
  apply Leads.get_bind
  -- instances of `Module` and `Class` are positions of the graph, not of the heap
  apply Leads.ite
  · intro _
    apply Leads.ite
    · intro _
      apply Leads.bind (leads_newClass (hsound.graph.stacked.has_core .object))
      rintro reached id _ ⟨_, hid⟩
      exact .pure ⟨hid, by simp [Value.objectId?]⟩
    · intro _
      apply Leads.bind leads_newModule
      rintro reached id _ ⟨_, hid⟩
      exact .pure ⟨hid, by simp [Value.objectId?]⟩
  intro hmodule
  apply Leads.ite
  · exact fun _ => .refuse _
  intro hallocator
  have hallocatable := hsound.allocatable hcls hmodule hallocator
  -- whichever payload goes with the class, the new object fits
  have hnew : ∀ payload : Payload,
      ((HeapObject.fresh cls payload).text?.isSome ↔
        CoreClass.string.id ∈ state.graph.superclassChain cls) →
      ((HeapObject.fresh cls payload).items?.isSome ↔
        CoreClass.array.id ∈ state.graph.superclassChain cls) →
      (∀ items, payload = .array items → ∀ item ∈ items, state.Has item) →
      state.Leads (addObject (.fresh cls payload)) fun reached id =>
        reached.heap.get? id = some (.fresh cls payload) := by
    intro payload htext harray hitems
    apply Leads.mono (leads_addObject (fun _ =>
      fitsObject_new state.heap.next false hcls hkind hallocatable htext harray hitems) rfl)
    exact fun _ _ _ hadded => hadded.2
  apply Leads.ite
  · intro hstring
    rw [hsound.graph.isKindOf_core hcls rfl] at hstring
    apply Leads.bind (hnew (.text "") (iff_of_true rfl hstring)
      (iff_of_false Bool.false_ne_true (hsound.not_array_of_string hstring)) (by simp))
    intro reached id _ hobject
    exact .pure (allocated_of_get (has_str hobject rfl) rfl hobject)
  intro hstring
  rw [hsound.graph.isKindOf_core hcls rfl] at hstring
  apply Leads.ite
  · intro harray
    rw [hsound.graph.isKindOf_core hcls rfl] at harray
    apply Leads.bind (hnew (.array []) (iff_of_false Bool.false_ne_true hstring)
      (iff_of_true rfl harray) (by simp))
    intro reached id _ hobject
    exact .pure (allocated_of_get (has_object hobject rfl) rfl hobject)
  · intro harray
    rw [hsound.graph.isKindOf_core hcls rfl] at harray
    apply Leads.bind (hnew .plain (iff_of_false Bool.false_ne_true hstring)
      (iff_of_false Bool.false_ne_true harray) (by simp))
    intro reached id _ hobject
    exact .pure (allocated_of_get (has_object hobject rfl) rfl hobject)

theorem leads_allocate {cls : ClassId} (hcls : state.graph.Has cls) :
    state.Leads (allocate cls) fun reached value => reached.Allocated cls value := by
  apply Leads.get_bind
  split
  next hkind => exact leads_allocateInstance hcls hkind
  · exact .refuse _
  · exact .refuse _

end ObjectModel.State
