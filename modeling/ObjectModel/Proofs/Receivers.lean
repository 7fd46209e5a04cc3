import ObjectModel.Proofs.ClassOf
import ObjectModel.Proofs.State.Homes

/-! # Receivers of builtin methods

Builtin methods check their receivers, or take the word of a float apart without a check. The values that have a core
class among the ancestors where the search for their methods begins are just those that the methods of that class
take their receivers to be.
-/

namespace ObjectModel

/-- The core class of which a routine needs its receivers to be: it checks them, or takes them for floats without
a check. -/
def Routine.needs? : Routine → Option CoreClass
  | .moduleRoutine _ => some .moduleClass
  | .classRoutine _ => some .classClass
  | .string .equal | .string .compare => none
  | .string _ => some .string
  | .number .floatText => some .float
  | .number .equal | .number .compare => none
  | .number _ => some .integer
  | .array .itself => none
  | .array _ => some .array
  | .encoding routine =>
      match routine with
      | .nameText | .inspect | .names | .asciiCompatible | .isDummy | .validCode => some .encoding
      | _ => none
  | _ => none

/-- Routines are registered only for the instances of the core class that they need. -/
theorem Builtin.owner_of_needs {builtin : Builtin} {core : CoreClass}
    (hregistered : ∃ registration ∈ registrations, registration.builtin = builtin)
    (hneeds : builtin.routine.needs? = some core) :
    builtin.onMetaclass = false ∧ builtin.owner = core := by
  have hall : ∀ registration ∈ registrations, ∀ core,
      registration.builtin.routine.needs? = some core →
        registration.builtin.onMetaclass = false ∧ registration.builtin.owner = core := by
    simp only [← Option.mem_def]
    decide +kernel
  obtain ⟨registration, hmem, rfl⟩ := hregistered
  exact hall registration hmem core hneeds

namespace State

variable {state : State} {value : Value} {core : CoreClass}

/-- Whether a value is what the methods of a core class take their receivers to be. -/
def suits (state : State) (receiver : Value) (core : CoreClass) : Bool :=
  match core with
  | .integer | .float | .encoding => receiver.coreClass? = some core
  | .string => (state.text? receiver).isSome
  | .array => (state.items? receiver).isSome
  | .moduleClass | .classClass => (receiver matches .cls _)
  | _ => true

/-- The check of the receiver by the methods of a core class goes through and leaves the state as it is. -/
def Passes (state : State) (receiver : Value) : CoreClass → Prop
  | .integer => ∃ number, (Builtin.expectInt receiver).run.run state = (.ok number, state)
  | .float => ∃ bits, receiver = .float bits
  | .string => ∃ content, (Builtin.expectText receiver).run.run state = (.ok content, state)
  | .array => ∃ items, (Builtin.expectItems receiver).run.run state = (.ok items, state)
  | .encoding => ∃ id, (Builtin.expectEncoding receiver).run.run state = (.ok id, state)
  | .moduleClass | .classClass => ∃ id, (Builtin.expectClass receiver).run.run state = (.ok id, state)
  | _ => True

theorem passes_of_suits (hsuits : state.suits value core) : state.Passes value core := by
  cases core with
  | integer =>
      cases value with
      | int number => exact ⟨number, rfl⟩
      | bool flag => cases flag <;> simp [suits, Value.coreClass?] at hsuits
      | _ => simp [suits, Value.coreClass?] at hsuits
  | float =>
      cases value with
      | float bits => exact ⟨bits, rfl⟩
      | bool flag => cases flag <;> simp [suits, Value.coreClass?] at hsuits
      | _ => simp [suits, Value.coreClass?] at hsuits
  | encoding =>
      cases value with
      | encoding id => exact ⟨id, rfl⟩
      | bool flag => cases flag <;> simp [suits, Value.coreClass?] at hsuits
      | _ => simp [suits, Value.coreClass?] at hsuits
  | string =>
      obtain ⟨content, hcontent⟩ := Option.isSome_iff_exists.mp hsuits
      refine ⟨content, ?_⟩
      rw [Builtin.expectText, run_ask_bind, hcontent]
      rfl
  | array =>
      obtain ⟨items, hitems⟩ := Option.isSome_iff_exists.mp hsuits
      refine ⟨items, ?_⟩
      rw [Builtin.expectItems, run_ask_bind, hitems]
      rfl
  | moduleClass | classClass =>
      cases value with
      | cls id => exact ⟨id, rfl⟩
      | _ => cases hsuits
  | _ => trivial

/-! ## Values of core classes -/

/-- What an object descends from decides on its payload. -/
theorem Sound.suits_object (hsound : state.Sound) (hvalue : state.Has value) {id : ObjectId}
    (hid : value.objectId? = some id)
    (hchain : core.id ∈ state.graph.superclassChain (state.classOf value)) :
    state.suits value core := by
  obtain ⟨object, hobject, hhandle⟩ := object_of_has hvalue hid
  have hfits := hsound.object id object hobject
  rw [classOf_of_objectId hid, Heap.object_of_get hobject] at hchain
  have hnone : core ∉ withoutInstances := fun hcore => hfits.allocatable core hcore hchain
  cases core with
  | string =>
      have htext := hfits.text.mpr hchain
      rw [hhandle, HeapObject.handle, if_pos htext, suits, text?, Heap.object_of_get hobject]
      exact htext
  | array =>
      have hitems := hfits.array.mpr hchain
      have htext : ¬ object.text?.isSome := by
        intro htext
        rw [FitsObject.items_of_text htext] at hitems
        simp at hitems
      rw [hhandle, HeapObject.handle, if_neg htext, suits, items?, Heap.object_of_get hobject]
      exact hitems
  | classClass =>
      have hmodule := hsound.graph.stacked.superclass_mem_chain hchain
        (hsound.graph.mirrored.core_superclass .classClass)
      exact absurd hmodule (hfits.allocatable .moduleClass (by decide))
  | integer => exact absurd (by decide) hnone
  | float => exact absurd (by decide) hnone
  | encoding => exact absurd (by decide) hnone
  | moduleClass => exact absurd (by decide) hnone
  | _ => rfl

theorem suits_coreClass (state : State) (hcore : value.coreClass? = some core) :
    state.suits value core := by
  cases value with
  | bool flag => cases flag <;> exact Option.some.inj hcore ▸ rfl
  | str id => simp [Value.coreClass?] at hcore
  | object id => simp [Value.coreClass?] at hcore
  | cls id => simp [Value.coreClass?] at hcore
  | _ => exact Option.some.inj hcore ▸ rfl

/-- A value whose class descends from a core class is what the methods of that class take it to be. -/
theorem Sound.suits_of_chain (hsound : state.Sound) (hvalue : state.Has value)
    (hchain : core.id ∈ state.graph.superclassChain (state.classOf value)) :
    state.suits value core := by
  rcases value.object_or_class_or_core with ⟨id, hid⟩ | ⟨id, rfl⟩ | ⟨own, hown⟩
  · exact hsound.suits_object hvalue hid hchain
  · have habove := hsound.mem_chain_classOfClass hchain
    revert habove
    cases core <;> simp [suits]
  · have hmem := hchain
    rw [classOf_coreClass hown,
      hsound.graph.mem_chain_of_child (Value.superclass_of_coreClass hown)] at hmem
    rcases List.mem_cons.mp hmem with rfl | habove
    · exact state.suits_coreClass hown
    · revert habove
      cases core <;> simp [suits]

/-- A core class among the ancestors where the search for the methods of a value begins is one from which the
class of the value descends. -/
theorem Sound.mem_chain_classOf (hsound : state.Sound) (hvalue : state.Has value)
    (hcore : core.kind = .cls)
    (hmem : core.id ∈ (state.start value).2.graph.ancestors (state.start value).1) :
    core.id ∈ (state.start value).2.graph.superclassChain ((state.start value).2.classOf value) := by
  have hlaws := hsound.startLaws hvalue
  have hkind : ((state.start value).2.graph.record core.id).kind = .cls :=
    (hlaws.graph.mirrored.core_kind core).trans hcore
  rw [hlaws.graph.stacked.mem_ancestors_of_not_module hlaws.has
    (hlaws.graph.mirrored.isModule_core hcore)] at hmem
  rw [hlaws.classOf]
  exact hlaws.graph.stacked.mem_chain_of_firstNonSingleton hlaws.first hmem (by simp [hkind])

/-! ## Bodies that are at home -/

/-- Whether a body may run on a receiver for whose methods the search begins at a class: if it is a builtin one,
it is registered, its home is among the ancestors of the class, and if it is meant for the instances of a core
class, the receiver is what the methods of that class take it to be. -/
def isAtHome (state : State) (start : ClassId) (receiver : Value) (body : Body) : Bool :=
  state.graph.houses start body &&
    match body with
    | .builtin builtin _ => builtin.onMetaclass || state.suits receiver builtin.owner
    | _ => true

/-- The method for the text of integers is at home on an integer, but not on a float. -/
example :
    let body := Body.builtin ⟨.integer, false, .number .integerText⟩ 0
    bare.isAtHome CoreClass.integer.id (.int 7) body ∧
      ¬ bare.isAtHome CoreClass.float.id (.float 0) body := by
  decide +kernel

/-- The methods of core modules take receivers of any kind. -/
theorem suits_of_module (state : State) (value : Value) (hcore : core.kind ≠ .cls) :
    state.suits value core := by
  cases core with
  | kernel => rfl
  | comparable => rfl
  | _ => exact absurd rfl hcore

/-- A body that the class may have where the search begins may run on the receiver. -/
theorem Sound.isAtHome_of_houses (hsound : state.Sound) (hvalue : state.Has value) {start : ClassId}
    (hstart : state.start value = (start, state)) {body : Body}
    (hhouses : state.graph.houses start body) : state.isAtHome start value body := by
  cases body with
  | builtin builtin installation =>
      rw [isAtHome, hhouses, Bool.true_and, Bool.or_eq_true, or_iff_not_imp_left]
      intro hmeta
      by_cases hkind : builtin.owner.kind = .cls
      · obtain ⟨_, home, hhome, hmem⟩ := Graph.houses_builtin.mp hhouses
        rw [Graph.home?, if_neg hmeta] at hhome
        obtain rfl := Option.some.inj hhome
        have hchain := hsound.mem_chain_classOf hvalue hkind (by rwa [hstart])
        rw [hstart] at hchain
        exact hsound.suits_of_chain hvalue hchain
      · exact state.suits_of_module value hkind
  | _ => rfl

/-- Where builtin methods stand at home, a search finds only bodies that may run on the receiver. -/
theorem Sound.isAtHome_of_find (hsound : state.Sound) (hhoused : state.graph.Housed)
    (hvalue : state.Has value) {start : ClassId} (hstart : state.start value = (start, state))
    {name : Symbol} {entry : MethodEntry}
    (hfind : state.graph.findMethod? start name = some entry) :
    state.isAtHome start value entry.body := by
  have hstarts : state.graph.Has start := by
    have hlaws := (hsound.startLaws hvalue).has
    rwa [hstart] at hlaws
  exact hsound.isAtHome_of_houses hvalue hstart
    (hhoused.houses_of_find hsound.graph.stacked hstarts hfind)

end State

end ObjectModel
