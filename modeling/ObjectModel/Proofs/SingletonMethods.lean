import ObjectModel.Proofs.Choice
import ObjectModel.Proofs.Reachable

/-! # Methods of one value alone

The class that holds the methods of a value alone is searched for no other value, apart from the classes below a
class. So a method that is defined for one value changes nothing about what other values have.
-/

namespace ObjectModel

/-- The core classes whose only instance is a value that can have methods of its own. -/
def singularClasses : List CoreClass := [.nilClass, .trueClass, .falseClass]

theorem Value.eq_of_singular {first second : Value} {core : CoreClass}
    (hcore : core ∈ singularClasses) (hfirst : first.coreClass? = some core)
    (hsecond : second.coreClass? = some core) : first = second := by
  have hvalue : ∀ value : Value, value.coreClass? = some core →
      value = .nil ∧ core = .nilClass ∨ value = .bool true ∧ core = .trueClass ∨
        value = .bool false ∧ core = .falseClass := by
    intro value hclass
    cases value with
    | nil => exact .inl ⟨rfl, (Option.some.inj hclass).symm⟩
    | bool flag =>
        cases flag with
        | true => exact .inr (.inl ⟨rfl, (Option.some.inj hclass).symm⟩)
        | false => exact .inr (.inr ⟨rfl, (Option.some.inj hclass).symm⟩)
    | str id => simp [coreClass?] at hclass
    | object id => simp [coreClass?] at hclass
    | cls id => simp [coreClass?] at hclass
    | _ =>
        obtain rfl := Option.some.inj hclass
        exact absurd hcore (by decide)
  rcases hvalue first hfirst with ⟨rfl, rfl⟩ | ⟨rfl, rfl⟩ | ⟨rfl, rfl⟩ <;>
    rcases hvalue second hsecond with ⟨rfl, hsame⟩ | ⟨rfl, hsame⟩ | ⟨rfl, hsame⟩ <;>
    first | rfl | simp at hsame

theorem Value.kind_of_coreClass {value : Value} {core : CoreClass}
    (hcore : value.coreClass? = some core) : core.kind = .cls := by
  cases value with
  | bool flag => cases flag <;> exact Option.some.inj hcore ▸ rfl
  | str id => simp [coreClass?] at hcore
  | object id => simp [coreClass?] at hcore
  | cls id => simp [coreClass?] at hcore
  | _ => exact Option.some.inj hcore ▸ rfl

theorem Value.superclass_of_coreClass {value : Value} {core : CoreClass}
    (hcore : value.coreClass? = some core) : core.superclass? = some .object := by
  cases value with
  | bool flag => cases flag <;> exact Option.some.inj hcore ▸ rfl
  | str id => simp [coreClass?] at hcore
  | object id => simp [coreClass?] at hcore
  | cls id => simp [coreClass?] at hcore
  | _ => exact Option.some.inj hcore ▸ rfl

namespace State

variable {state : State} {value owner : Value}

/-! ## Where singleton classes are searched -/

/-- What a proper class inherits from is proper. -/
theorem Sound.kind_of_mem_chain (hsound : state.Sound) {id other : ClassId}
    (hkind : (state.graph.record id).kind = .cls) (hother : other ∈ state.graph.superclassChain id) :
    (state.graph.record other).kind = .cls := by
  have hstacked := hsound.graph.stacked
  induction id using hstacked.superclassInduction with
  | hroot id hnone =>
      rw [hstacked.superclassChain_of_none hnone, List.mem_singleton] at hother
      rwa [hother]
  | hstep id superclass hsuper ih =>
      rw [hstacked.superclassChain_of_some hsuper] at hother
      rcases List.mem_cons.mp hother with rfl | hother
      · exact hkind
      · exact ih (hsound.graph.mirrored.superclass_kind hkind hsuper) hother

/-- Every value is one of a proper class. -/
theorem Sound.kind_classOf (hsound : state.Sound) (hvalue : state.Has value) :
    (state.graph.record (state.classOf value)).kind = .cls := by
  rcases value.object_or_class_or_core with ⟨id, hid⟩ | ⟨id, rfl⟩ | ⟨core, hcore⟩
  · obtain ⟨object, hobject, _⟩ := object_of_has hvalue hid
    rw [classOf_of_objectId hid, Heap.object_of_get hobject]
    exact (hsound.object id object hobject).kind
  · rw [classOf, Graph.classOfClass]
    split <;> exact hsound.graph.mirrored.core_kind _
  · rw [classOf_coreClass hcore, hsound.graph.mirrored.core_kind, Value.kind_of_coreClass hcore]

/-- The cases in which a class is searched for a value: it is the singleton class of the value, or of a class
from which the value inherits its own methods, or a proper class from which the class of the value inherits. -/
theorem Sound.searched_cases (hsound : state.Sound) (hvalue : state.Has value) {cls : ClassId}
    (hmem : cls ∈ state.searched value) :
    (state.graph.record cls).attached = some value ∨
      (∃ above id, value = .cls id ∧ above ∈ state.graph.superclassChain id ∧
        (state.graph.record cls).attached = some (.cls above)) ∨
      cls ∈ state.graph.superclassChain (state.classOf value) ∧
        (state.graph.record cls).kind = .cls := by
  have hproper : cls ∈ state.graph.superclassChain (state.classOf value) →
      (state.graph.record cls).kind = .cls :=
    hsound.kind_of_mem_chain (hsound.kind_classOf hvalue)
  rcases value.object_or_class_or_core with ⟨id, hid⟩ | ⟨id, rfl⟩ | ⟨core, hcore⟩
  · obtain ⟨object, hobject, hhandle⟩ := object_of_has hvalue hid
    rw [searched_of_objectId hid, Heap.object_of_get hobject, HeapObject.dispatchClass] at hmem
    rw [classOf_of_objectId hid, Heap.object_of_get hobject] at hproper ⊢
    cases hslot : object.singleton with
    | none =>
        rw [hslot] at hmem
        exact .inr (.inr ⟨hmem, hproper hmem⟩)
    | some singleton =>
        rw [hslot] at hmem
        obtain ⟨hattached, hsuper⟩ := (hsound.object id object hobject).singleton singleton hslot
        rw [Option.getD_some, hsound.graph.stacked.superclassChain_of_some hsuper] at hmem
        rcases List.mem_cons.mp hmem with rfl | hchain
        · exact .inl (hattached.trans (congrArg some hhandle.symm))
        · exact .inr (.inr ⟨hchain, hproper hchain⟩)
  · right
    -- first the metaclasses of the class and of those above it, then what their root inherits from
    rcases List.mem_append.mp hmem with hslot | hchain
    · obtain ⟨above, habove, hslot⟩ := List.mem_filterMap.mp hslot
      exact .inl ⟨above, id, rfl, habove, (hsound.graph.mirrored.mirrors hslot).1⟩
    · exact .inr ⟨hchain, hproper hchain⟩
  · rw [searched_of_coreClass hcore, ← classOf_coreClass hcore] at hmem
    exact .inr (.inr ⟨hmem, hproper hmem⟩)

/-- The core classes that are above the class of a class. -/
theorem Sound.mem_chain_classOfClass (hsound : state.Sound) {core : CoreClass} {id : ClassId}
    (hmem : core.id ∈ state.graph.superclassChain (state.graph.classOfClass id)) :
    core ∈ [.classClass, .moduleClass, .object, .basicObject] := by
  have hmodule : core.id ∈ state.graph.superclassChain CoreClass.moduleClass.id →
      core ∈ [.classClass, .moduleClass, .object, .basicObject] := by
    rw [hsound.graph.mem_chain_of_child rfl]
    exact List.mem_cons_of_mem _
  rw [Graph.classOfClass] at hmem
  split at hmem
  · exact hmodule hmem
  · rw [hsound.graph.stacked.superclassChain_of_some
      (hsound.graph.mirrored.core_superclass .classClass), List.mem_cons] at hmem
    rcases hmem with heq | habove
    · exact CoreClass.id_injective heq ▸ List.mem_cons_self
    · exact hmodule habove

/-- A core class without descendants is searched only for its own values. -/
theorem Sound.coreClass_of_searched (hsound : state.Sound) (hvalue : state.Has value)
    {core : CoreClass} (hcore : core ∈ unallocatable)
    (hchain : core.id ∈ state.graph.superclassChain (state.classOf value)) :
    value.coreClass? = some core := by
  rcases value.object_or_class_or_core with ⟨id, hid⟩ | ⟨id, rfl⟩ | ⟨other, hother⟩
  · obtain ⟨object, hobject, _⟩ := object_of_has hvalue hid
    rw [classOf_of_objectId hid, Heap.object_of_get hobject] at hchain
    have hfits := hsound.object id object hobject
    exact absurd hchain (hfits.allocatable core (List.mem_cons_of_mem _ hcore))
  · have habove := hsound.mem_chain_classOfClass hchain
    have hleaf : core ∉ [CoreClass.classClass, .moduleClass, .object, .basicObject] := by
      revert hcore
      cases core <;> decide
    exact absurd habove hleaf
  · rw [classOf_coreClass hother,
      hsound.graph.mem_chain_of_child (Value.superclass_of_coreClass hother)] at hchain
    rcases List.mem_cons.mp hchain with rfl | habove
    · exact hother
    · have hleaf : core ∉ [CoreClass.object, .basicObject] := by
        revert hcore
        cases core <;> decide
      exact absurd habove hleaf

/-- A class holds the methods of a value alone: it is attached to the value, or it is the core class of which
the value is the only instance. -/
def HoldsOwn (state : State) (cls : ClassId) (owner : Value) : Prop :=
  (state.graph.record cls).attached = some owner ∨
    ∃ core ∈ singularClasses, owner.coreClass? = some core ∧ cls = core.id

theorem Sound.attached_core (hsound : state.Sound) {core : CoreClass} (hcore : core.kind = .cls)
    {attached : Value} : (state.graph.record core.id).attached ≠ some attached := by
  intro hattached
  have hkind := hsound.graph.mirrored.toPlaced.kind_of_attached hattached
  rw [hsound.graph.mirrored.core_kind, hcore] at hkind
  simp at hkind

theorem kind_of_singular {core : CoreClass} (hcore : core ∈ singularClasses) : core.kind = .cls := by
  revert hcore
  cases core <;> decide

theorem Sound.not_isModule_of_holdsOwn (hsound : state.Sound) {cls : ClassId}
    (hholds : state.HoldsOwn cls owner) : ¬ state.graph.isModule cls := by
  rcases hholds with hattached | ⟨core, hcore, _, rfl⟩
  · rw [Graph.isModule_iff, hsound.graph.mirrored.toPlaced.kind_of_attached hattached]
    decide
  · exact hsound.graph.mirrored.isModule_core (kind_of_singular hcore)

/-- A class that holds the methods of a value alone is searched for that value, and, if the value is a class,
for the classes below it. -/
theorem Sound.owner_of_searched (hsound : state.Sound) (hvalue : state.Has value) {cls : ClassId}
    (hholds : state.HoldsOwn cls owner) (hmem : cls ∈ state.searched value) :
    value = owner ∨ ∃ above id, owner = .cls above ∧ value = .cls id ∧
      above ∈ state.graph.superclassChain id := by
  rcases hsound.searched_cases hvalue hmem with
    hown | ⟨above, id, rfl, habove, hown⟩ | ⟨hchain, hkind⟩
  · rcases hholds with hattached | ⟨core, hcore, _, rfl⟩
    · exact .inl (Option.some.inj (hown.symm.trans hattached))
    · exact absurd hown (hsound.attached_core (kind_of_singular hcore))
  · rcases hholds with hattached | ⟨core, hcore, _, rfl⟩
    · exact .inr ⟨above, id, Option.some.inj (hattached.symm.trans hown), rfl, habove⟩
    · exact absurd hown (hsound.attached_core (kind_of_singular hcore))
  · rcases hholds with hattached | ⟨core, hcore, hclass, rfl⟩
    · rw [hsound.graph.mirrored.toPlaced.kind_of_attached hattached] at hkind
      simp at hkind
    · have hleaf : core ∈ unallocatable := by
        revert hcore
        cases core <;> decide
      exact .inl (Value.eq_of_singular hcore (hsound.coreClass_of_searched hvalue hleaf hchain) hclass)

/-! ## Making the class of the methods of a value alone -/

/-- Values have the same entries after the graph was extended, if the search for them begins where it
began. -/
theorem Sound.entry_of_extends {first second : State} (hfirst : first.Sound)
    (hsecond : second.Searchable) (hextends : first.graph.Extends second.graph)
    (hvalue : first.Has value)
    (hsame : ∀ id, value.objectId? = some id →
      (second.heap.object id).dispatchClass = (first.heap.object id).dispatchClass)
    (name : Symbol) : second.first? value name = first.first? value name := by
  have hchain : ∀ {id}, first.graph.Has id →
      second.graph.entryAlong? (second.graph.superclassChain id) name =
        first.graph.entryAlong? (first.graph.superclassChain id) name := by
    intro id hid
    rw [← Graph.firstEntry_eq, ← Graph.firstEntry_eq]
    exact hextends.firstEntry hfirst.graph.stacked hsecond.graph.stacked hid name
  rcases value.object_or_class_or_core with ⟨id, hid⟩ | ⟨id, rfl⟩ | ⟨core, hcore⟩
  · obtain ⟨object, hobject, _⟩ := object_of_has hvalue hid
    rw [first?, searched_of_objectId hid, hsame id hid, first?, searched_of_objectId hid,
      Heap.object_of_get hobject]
    exact hchain (hfirst.has_dispatchClass hobject)
  · exact hextends.classEntry hfirst.graph hsecond.graph hfirst.proper hsecond.proper hvalue name
  · rw [first?, searched_of_coreClass hcore, first?, searched_of_coreClass hcore]
    exact hchain (hfirst.graph.stacked.has_core core)

/-- What asking for the class of the methods of a value alone leads to: it is there, and all values have
the entries that they had. -/
structure Isolates (state reached : State) (owner : Value) (cls : ClassId) : Prop where
  sound : reached.Sound
  grows : state.Grows reached
  names : reached.names = state.names
  holds : reached.HoldsOwn cls owner
  entries : ∀ value, state.Has value → ∀ name, reached.first? value name = state.first? value name

section

variable {id : ObjectId} {object : HeapObject} (hsound : state.Sound)
  (howner : owner = object.handle id) (hid : owner.objectId? = some id)
  (hobject : state.heap.get? id = some object) (hfree : object.singleton = none)

include hsound howner hid hobject hfree

/-- A new singleton class holds nothing yet, so its object has what it had before. -/
theorem Sound.entry_newSingleton_self (hself : value.objectId? = some id) (name : Symbol) :
    ((Change.newSingleton owner id).apply state).first? value name = state.first? value name := by
  have hreached := (hsound.newSingleton howner hid hobject hfree).1
  have hextends : state.graph.Extends ((Change.newSingleton owner id).apply state).graph :=
    state.graph.extends_add _ _ _ _
  have hget := Heap.object_of_get (get_newSingleton owner hobject)
  have hsuper : ((Change.newSingleton owner id).apply state).graph.superclass? state.graph.next =
      some object.cls := by
    rw [Graph.superclass?, record_newSingleton_next owner hobject]
    rfl
  have hblank := hextends.localEntry_of_new hreached.graph.stacked
    (Graph.has_add_next _ _) (Graph.not_has_next _) name
  have hcls := (hsound.object id object hobject).cls
  rw [first?, searched_of_objectId hself, hget, first?, searched_of_objectId hself,
    Heap.object_of_get hobject, HeapObject.dispatchClass, HeapObject.dispatchClass, hfree,
    ← Graph.firstEntry_eq, ← Graph.firstEntry_eq]
  calc Graph.firstEntry? ((Change.newSingleton owner id).apply state).graph state.graph.next name
      = none.or (Graph.firstEntry? ((Change.newSingleton owner id).apply state).graph object.cls
          name) := by
        rw [hreached.graph.stacked.firstEntry_of_some hsuper, hblank]
    _ = state.graph.firstEntry? object.cls name :=
        hextends.firstEntry hsound.graph.stacked hreached.graph.stacked hcls name

/-- A new singleton class is searched only for its object. -/
theorem Sound.entry_newSingleton (hvalue : state.Has value) (name : Symbol) :
    ((Change.newSingleton owner id).apply state).first? value name = state.first? value name := by
  by_cases hself : value.objectId? = some id
  · exact hsound.entry_newSingleton_self howner hid hobject hfree hself name
  · have hreached := (hsound.newSingleton howner hid hobject hfree).1
    apply hsound.entry_of_extends hreached.searchable (state.graph.extends_add _ _ _ _) hvalue
    intro other hother
    have hne : other ≠ id := by
      rintro rfl
      exact hself hother
    have hkept : ((Change.newSingleton owner id).apply state).heap.get? other =
        state.heap.get? other := Heap.get_update_of_ne hne _
    rw [Heap.object, hkept, Heap.object]

end

theorem run_objectSingleton_of_some (owner : Value) {id : ObjectId} {singleton : ClassId}
    (hslot : (state.heap.object id).singleton = some singleton) :
    (objectSingleton owner id).run.run state = (.ok singleton, state) := by
  rw [objectSingleton, run_ask_bind, hslot]
  rfl

theorem run_objectSingleton_of_none (owner : Value) {id : ObjectId}
    (hslot : (state.heap.object id).singleton = none) :
    (objectSingleton owner id).run.run state =
      (.ok state.graph.next, (Change.newSingleton owner id).apply state) := by
  rw [objectSingleton, run_ask_bind, hslot]
  rfl

theorem Sound.isolates_object (hsound : state.Sound) (howner : state.Has owner) {id : ObjectId}
    (hid : owner.objectId? = some id) {cls : ClassId}
    (hresult : state.result (objectSingleton owner id) = .ok cls) :
    state.Isolates (state.after (objectSingleton owner id)) owner cls := by
  obtain ⟨object, hobject, hhandle⟩ := object_of_has howner hid
  have hsame : state.heap.object id = object := Heap.object_of_get hobject
  cases hslot : object.singleton with
  | some singleton =>
      have hrun := run_objectSingleton_of_some owner (hsame.symm ▸ hslot)
      rw [result, hrun] at hresult
      rw [after, hrun]
      obtain rfl := Except.ok.inj hresult
      have hattached := ((hsound.object id object hobject).singleton singleton hslot).1
      exact ⟨hsound, .refl state, rfl, .inl (hattached.trans (congrArg some hhandle.symm)),
        fun _ _ _ => rfl⟩
  | none =>
      have hrun := run_objectSingleton_of_none owner (hsame.symm ▸ hslot)
      rw [result, hrun] at hresult
      rw [after, hrun]
      obtain rfl := Except.ok.inj hresult
      obtain ⟨hreached, hgrows⟩ := hsound.newSingleton hhandle hid hobject hslot
      have hattached := congrArg ClassRecord.attached (record_newSingleton_next owner hobject)
      exact ⟨hreached, hgrows, rfl, .inl hattached, fun value hvalue name =>
        hsound.entry_newSingleton hhandle hid hobject hslot hvalue name⟩

theorem Sound.isolates (hsound : state.Sound) (howner : state.Has owner) {cls : ClassId}
    (hresult : state.result (singletonClassOf owner) = .ok cls) :
    state.Isolates (state.after (singletonClassOf owner)) owner cls := by
  cases owner with
  | cls id =>
      have hmade := hsound.graph.stacked.synthesizes howner
      obtain ⟨hreached, hgrows⟩ := hsound.metaclassOf howner
      obtain rfl := Except.ok.inj hresult
      refine ⟨hreached, hgrows, rfl, .inl (hreached.graph.mirrored.mirrors hmade.slot).1, ?_⟩
      intro value hvalue name
      exact hsound.entry_of_extends hreached.searchable hmade.path.extends_graph hvalue
        (fun _ _ => rfl) name
  | str id => exact hsound.isolates_object howner rfl hresult
  | object id => exact hsound.isolates_object howner rfl hresult
  -- nil and the truth values have no class of their own besides their core class
  | nil =>
      obtain rfl := Except.ok.inj hresult
      exact ⟨hsound, .refl state, rfl, .inr ⟨.nilClass, by decide, rfl, rfl⟩, fun _ _ _ => rfl⟩
  | bool flag =>
      obtain rfl := Except.ok.inj hresult
      refine ⟨hsound, .refl state, rfl, .inr ?_, fun _ _ _ => rfl⟩
      cases flag with
      | true => exact ⟨.trueClass, by decide, rfl, rfl⟩
      | false => exact ⟨.falseClass, by decide, rfl, rfl⟩
  | _ => cases hresult

/-! ## Defining a method of one value alone -/

theorem Sound.has_of_searched (hsound : state.Sound) (hvalue : state.Has value) {cls : ClassId}
    (hmem : cls ∈ state.searched value) : state.graph.Has cls := by
  rcases hsound.searched_cases hvalue hmem with hown | ⟨_, _, _, _, hown⟩ | ⟨hchain, _⟩
  · exact Graph.has_of_attached hown
  · exact Graph.has_of_attached hown
  · exact hsound.graph.stacked.has_of_mem_chain (hsound.has_classOf hvalue) hchain

/-- The state with a method put into the table of a class under a name. -/
def withMethod (state : State) (id : ClassId) (name : String) (body : Body)
    (visibility : Visibility) : State :=
  let (symbol, names) := state.names.intern name
  { state with
    names, graph := state.graph.update id (.putMethod symbol { owner := id, body, visibility }) }

/-- A method is added if the table may be changed, and nothing else is done. -/
theorem run_addMethod (state : State) (id : ClassId) (name : String) (body : Body)
    (visibility : Visibility) : (addMethod id name body visibility).run.run state =
      match state.result (checkMutable id) with
      | .ok _ => (.ok (state.names.intern name).1, state.withMethod id name body visibility)
      | .error halt => (.error halt, state) := by
  have hsame := state.after_checkMutable id
  rw [after] at hsame
  rw [addMethod, run_bind, result]
  cases hcase : (checkMutable id).run.run state with
  | mk outcome reached =>
      rw [hcase] at hsame
      obtain rfl : reached = state := hsame
      cases outcome <;> rfl

theorem after_addMethod_of_ok {id : ClassId} {name : String} {body : Body} {visibility : Visibility}
    {symbol : Symbol} (hresult : state.result (addMethod id name body visibility) = .ok symbol) :
    state.after (addMethod id name body visibility) = state.withMethod id name body visibility := by
  rw [result, run_addMethod] at hresult
  rw [after, run_addMethod]
  cases hcheck : state.result (checkMutable id) with
  | ok checked => rfl
  | error halt =>
      rw [hcheck] at hresult
      cases hresult

section

variable {cls : ClassId} {name : String} {body : Body} {visibility : Visibility}

theorem grows_withMethod (state : State) :
    state.Grows (state.withMethod cls name body visibility) :=
  ⟨(state.graph.sameFrame_putMethod cls _ _).sameSlots.grows, state.names.grows_intern name, .refl _,
    Nat.le_refl _⟩

theorem Sound.searchable_withMethod (hsound : state.Sound) :
    (state.withMethod cls name body visibility).Searchable :=
  have hsame := state.graph.sameFrame_putMethod cls (state.names.intern name).1
    { owner := cls, body, visibility }
  ⟨hsound.graph.of_sameFrame hsame, hsound.proper.of_sameFrame hsame⟩

/-- A method that was put into a class that is no module is seen only under its name and only where that
class is searched. -/
theorem Sound.entry_withMethod (hsound : state.Sound) (hvalue : state.Has value)
    (hkind : ¬ state.graph.isModule cls) {symbol : Symbol}
    (hunseen : symbol = (state.names.intern name).1 → cls ∉ state.searched value) :
    (state.withMethod cls name body visibility).first? value symbol = state.first? value symbol := by
  have hsame : state.graph.SameFrame (state.withMethod cls name body visibility).graph :=
    state.graph.sameFrame_putMethod cls _ _
  have hsearched : (state.withMethod cls name body visibility).searched value =
      state.searched value := searched_of_sameFrame hsame rfl value
  rw [first?, hsearched]
  exact hsound.graph.stacked.entryAlong_putMethod _ (fun _ => hsound.has_of_searched hvalue) hkind
    hunseen

/-- What a value has under a name after a method was put into a class: what it had before, unless the name
is that of the method and the class is searched for the value. -/
theorem Sound.choice_withMethod (hsound : state.Sound) (hvalue : state.Has value)
    (hkind : ¬ state.graph.isModule cls) {other : String}
    (hunseen : other = name → cls ∉ state.searched value) :
    (state.withMethod cls name body visibility).choice? value other = state.choice? value other := by
  have hnames : (state.withMethod cls name body visibility).names = (state.names.intern name).2 := rfl
  rw [choice?, hnames, choice?]
  cases hfind : state.names.find? other with
  | some symbol =>
      rw [(state.names.grows_intern name).find hfind, Option.bind_some, Option.bind_some,
        hsound.entry_withMethod hvalue hkind]
      intro hsymbol
      apply hunseen
      have hname := state.names.find_intern_self name
      exact Interner.eq_of_find ((state.names.grows_intern name).find hfind) (hsymbol ▸ hname)
  | none =>
      by_cases hother : other = name
      · subst hother
        have hfresh := Interner.not_has_intern hfind
        rw [state.names.find_intern_self, Option.bind_some,
          hsound.entry_withMethod hvalue hkind (fun _ => hunseen rfl), hsound.entry_of_fresh hfresh]
        rfl
      · rw [state.names.find_intern_of_ne hother, hfind]
        rfl

end

theorem Isolates.choice {reached : State} {cls : ClassId} (hisolates : state.Isolates reached owner cls)
    (hvalue : state.Has value) (name : String) :
    reached.choice? value name = state.choice? value name := by
  rw [choice?, hisolates.names, choice?]
  congr 1
  funext symbol
  rw [hisolates.entries value hvalue]

/-- What a value has under a name after a method was defined for one value alone. -/
theorem Sound.choice_defineSingletonMethod (hsound : state.Sound) {name other : String} {body : Body}
    {symbol : Symbol} (howner : state.Has owner) (hvalue : state.Has value)
    (hdefined : state.result (defineSingletonMethod owner name body) = .ok symbol)
    (hunseen : ¬ (other = name ∧ (value = owner ∨ ∃ above id, owner = .cls above ∧
      value = .cls id ∧ above ∈ state.graph.superclassChain id))) :
    (state.after (defineSingletonMethod owner name body)).Searchable ∧
      state.Grows (state.after (defineSingletonMethod owner name body)) ∧
      (state.after (defineSingletonMethod owner name body)).choice? value other =
        state.choice? value other := by
  -- first the class for the methods is made, which changes no entry; then the method is put in
  obtain ⟨cls, hcls, hadded, hafter⟩ := result_bind hdefined
  have hisolates := hsound.isolates howner hcls
  have hmiddle := hisolates.sound
  have hthere := hisolates.grows.has hvalue
  rw [defineSingletonMethod, hafter, defineMethod, after_addMethod_of_ok hadded]
  refine ⟨hmiddle.searchable_withMethod, hisolates.grows.trans (grows_withMethod _), ?_⟩
  rw [← hisolates.choice hvalue]
  apply hmiddle.choice_withMethod hthere (hmiddle.not_isModule_of_holdsOwn hisolates.holds)
  intro hname hmem
  apply hunseen
  refine ⟨hname, ?_⟩
  rcases hmiddle.owner_of_searched hthere hisolates.holds hmem with
    hself | ⟨above, id, hown, rfl, habove⟩
  · exact .inl hself
  · rw [hisolates.grows.graph.superclassChain hsound.graph.stacked hmiddle.graph.stacked hvalue] at habove
    exact .inr ⟨above, id, hown, rfl, habove⟩

/-- A method that is defined for one value alone changes nothing about the methods of other values, unless
they are classes below it: under every name the same method is found as before, the same names are responded
to, and calls run the same bodies. -/
theorem defineSingletonMethod_unseen (hreachable : state.Reachable) {name other : String}
    {body : Body} {symbol : Symbol} (howner : state.Has owner) (hvalue : state.Has value)
    (hdefined : state.result (defineSingletonMethod owner name body) = .ok symbol)
    (hunseen : ¬ (other = name ∧ (value = owner ∨ ∃ above id, owner = .cls above ∧
      value = .cls id ∧ above ∈ state.graph.superclassChain id))) :
    let reached := state.after (defineSingletonMethod owner name body)
    reached.result (findMethod value other) = state.result (findMethod value other) ∧
    (∀ includePrivate, reached.result (respondTo value other includePrivate) =
      state.result (respondTo value other includePrivate)) ∧
    (∀ entry, state.result (findMethod value other) = .ok (some entry) →
      ∀ (run : Runner) (checked : Bool) (arguments : List Value),
        (checked && entry.isPrivate) = false →
        (dispatchName run checked value other arguments).run.run reached =
          (run entry.body value arguments).run.run (reached.after (findMethod value other))) := by
  have hsound := hreachable.sound
  obtain ⟨hsearchable, hgrows, hchoice⟩ :=
    hsound.choice_defineSingletonMethod howner hvalue hdefined hunseen
  have hthere := hgrows.has hvalue
  refine ⟨?_, ?_, ?_⟩
  · rw [hsearchable.result_findMethod hthere, hsound.searchable.result_findMethod hvalue, hchoice]
  · intro includePrivate
    rw [hsearchable.result_respondTo hthere, hsound.searchable.result_respondTo hvalue, hchoice]
  · intro entry hentry run checked arguments hallowed
    rw [hsound.searchable.result_findMethod hvalue, ← hchoice] at hentry
    exact hsearchable.run_dispatchName hthere (Except.ok.inj hentry) run hallowed arguments

/-- A method that is defined for `Array` alone is not one of `String`. -/
theorem method_of_array_unseen_by_string :
    let owner := Value.cls CoreClass.array.id
    let sibling := Value.cls CoreClass.string.id
    plain.result (defineSingletonMethod owner "members" (.reader "@members")) =
        .ok ⟨plain.names.size⟩ ∧
      (plain.after (defineSingletonMethod owner "members" (.reader "@members"))).result
          (findMethod sibling "members") = plain.result (findMethod sibling "members") := by
  intro owner sibling
  have hdefined : plain.result (defineSingletonMethod owner "members" (.reader "@members")) =
      .ok ⟨plain.names.size⟩ := by decide +kernel
  have hsound := reachable_plain.sound.graph
  have howner : plain.Has owner := hsound.stacked.has_core .array
  have hsibling : plain.Has sibling := hsound.stacked.has_core .string
  refine ⟨hdefined, (defineSingletonMethod_unseen reachable_plain howner hsibling hdefined ?_).1⟩
  rintro ⟨_, hself | ⟨above, id, hown, hcls, habove⟩⟩
  · exact absurd (Value.cls.inj hself) (by decide)
  · obtain rfl := Value.cls.inj hown
    obtain rfl := Value.cls.inj hcls
    rw [hsound.mem_chain_of_child rfl] at habove
    exact absurd habove (by decide)

end State

end ObjectModel
