import ObjectModel.Proofs.SingletonMethods

/-! # The class of a value

The class of a value is told by what kind of value it is, and the class at which the search for its methods begins
by walking through singleton classes that are made when they are needed. Both agree: above the start of the search
the first class that is no singleton class is the class of the value. For towers of metaclasses of any height this
holds because a metaclass inherits from a metaclass, until the root is reached, whose metaclass inherits from `Class`.
-/

namespace ObjectModel

/-- The first class on the superclass chain of a class that is no singleton class. -/
def Graph.firstNonSingleton? (graph : Graph) (id : ClassId) : Option ClassId :=
  (graph.superclassChain id).find? fun other => (graph.record other).kind ≠ .singleton

namespace Graph

variable {graph : Graph} {id : ClassId}

namespace Stacked

theorem firstNonSingleton_self (hstacked : graph.Stacked)
    (hkind : (graph.record id).kind ≠ .singleton) : graph.firstNonSingleton? id = some id := by
  rw [firstNonSingleton?, hstacked.superclassChain_eq, List.find?_cons_of_pos (by simpa using hkind)]

theorem firstNonSingleton_of_singleton (hstacked : graph.Stacked) {superclass : ClassId}
    (hkind : (graph.record id).kind = .singleton)
    (hsuper : graph.superclass? id = some superclass) :
    graph.firstNonSingleton? id = graph.firstNonSingleton? superclass := by
  rw [firstNonSingleton?, hstacked.superclassChain_of_some hsuper,
    List.find?_cons_of_neg (by simpa using hkind)]
  rfl

/-- Above singleton classes come only the first class that is none and what that inherits from. -/
theorem mem_chain_of_firstNonSingleton (hstacked : graph.Stacked) {cls other : ClassId}
    (hfirst : graph.firstNonSingleton? id = some cls) (hother : other ∈ graph.superclassChain id)
    (hkind : (graph.record other).kind ≠ .singleton) : other ∈ graph.superclassChain cls := by
  induction id using hstacked.superclassInduction with
  | hroot id hnone =>
      obtain rfl : other = id := by
        rwa [hstacked.superclassChain_of_none hnone, List.mem_singleton] at hother
      rw [hstacked.firstNonSingleton_self hkind] at hfirst
      exact Option.some.inj hfirst ▸ hother
  | hstep id superclass hsuper ih =>
      by_cases hsingleton : (graph.record id).kind = .singleton
      · rw [hstacked.firstNonSingleton_of_singleton hsingleton hsuper] at hfirst
        rw [hstacked.superclassChain_of_some hsuper, List.mem_cons] at hother
        rcases hother with rfl | habove
        · exact absurd hsingleton hkind
        · exact ih hfirst habove
      · rw [hstacked.firstNonSingleton_self hsingleton] at hfirst
        exact Option.some.inj hfirst ▸ hother

theorem mem_ancestors_of_firstNonSingleton (hstacked : graph.Stacked) {cls : ClassId}
    (hid : graph.Has id) (hfirst : graph.firstNonSingleton? id = some cls) :
    cls ∈ graph.ancestors id := by
  have hchain := List.mem_of_find?_eq_some hfirst
  exact mem_ancestors_iff.mpr
    ⟨cls, hchain, hstacked.self_mem_localPart (hstacked.has_of_mem_chain hid hchain)⟩

end Stacked

/-- A core class that is no module is no singleton class either. -/
theorem Sound.firstNonSingleton_core (hsound : graph.Sound) {core : CoreClass}
    (hcore : core.kind = .cls) : graph.firstNonSingleton? core.id = some core.id := by
  apply hsound.stacked.firstNonSingleton_self
  rw [hsound.mirrored.core_kind, hcore]
  decide

/-- Above the metaclass of a module only `Module` and what it inherits from follow, and above any other
metaclass metaclasses follow up to that of the root, which inherits from `Class`. -/
theorem Sound.firstNonSingleton_metaclass (hsound : graph.Sound) (hproper : graph.Proper)
    {metaclass : ClassId} (hslot : (graph.record id).metaclass = some metaclass) :
    graph.firstNonSingleton? metaclass = some (graph.classOfClass id) := by
  have hstacked := hsound.stacked
  have hmirrored := hsound.mirrored
  -- on the way from a class to its superclass, which the metaclasses follow
  induction id using hstacked.superclassInduction generalizing metaclass with
  | hroot id hnone =>
      obtain ⟨_, parent, hparent, hsuper⟩ := hmirrored.mirrors hslot
      rw [hstacked.firstNonSingleton_of_singleton (hmirrored.kind_metaclass hslot) hsuper,
        classOfClass]
      split
      next hmodule =>
        rw [metaclassParent?_of_module (isModule_iff.mp hmodule)] at hparent
        obtain rfl := Option.some.inj hparent
        exact hsound.firstNonSingleton_core rfl
      next hmodule =>
        rw [metaclassParent?_of_none (mt isModule_iff.mpr hmodule) hnone] at hparent
        obtain rfl := Option.some.inj hparent
        exact hsound.firstNonSingleton_core rfl
  | hstep id superclass habove ih =>
      obtain ⟨_, parent, hparent, hsuper⟩ := hmirrored.mirrors hslot
      have hmodule : ¬ graph.isModule id := by
        intro hmodule
        rw [hstacked.superclass_module hmodule] at habove
        simp at habove
      rw [metaclassParent?_of_some (mt isModule_iff.mpr hmodule) habove] at hparent
      -- neither the class nor its superclass is a module, so both are of the class `Class`
      rw [hstacked.firstNonSingleton_of_singleton (hmirrored.kind_metaclass hslot) hsuper,
        ih hparent, classOfClass, if_neg (hproper id superclass habove), classOfClass,
        if_neg hmodule]

/-- `Class` is not above the metaclass of a module. -/
theorem Sound.not_isKindOf_metaclass (hsound : graph.Sound) {metaclass : ClassId}
    (hslot : (graph.record id).metaclass = some metaclass) (hmodule : graph.isModule id) :
    graph.isKindOf metaclass CoreClass.classClass.id = false := by
  have hmirrored := hsound.mirrored
  obtain ⟨_, parent, hparent, hsuper⟩ := hmirrored.mirrors hslot
  rw [metaclassParent?_of_module (isModule_iff.mp hmodule)] at hparent
  obtain rfl := Option.some.inj hparent
  rw [Bool.eq_false_iff, ne_eq, hsound.isKindOf_core (hsound.stacked.has_metaclass hslot) rfl,
    hsound.stacked.superclassChain_of_some hsuper, List.mem_cons, hsound.mem_chain_of_child rfl,
    not_or]
  refine ⟨?_, by decide⟩
  intro heq
  have hkind := hmirrored.kind_metaclass hslot
  rw [← heq, hmirrored.core_kind] at hkind
  cases hkind

end Graph

namespace State

variable {state : State} {value : Value}

/-! ## Where the search begins -/

/-- What holds where the search for the methods of a value begins. -/
structure StartLaws (state : State) (value : Value) : Prop where
  graph : (state.start value).2.graph.Sound
  has : (state.start value).2.graph.Has (state.start value).1
  classOf : (state.start value).2.classOf value = state.classOf value
  first : (state.start value).2.graph.firstNonSingleton? (state.start value).1 =
    some (state.classOf value)

theorem Sound.startLaws_object (hsound : state.Sound) (hvalue : state.Has value) {id : ObjectId}
    (hid : value.objectId? = some id)
    (hstart : state.start value = ((state.heap.object id).dispatchClass, state)) :
    state.StartLaws value := by
  obtain ⟨object, hobject, _⟩ := object_of_has hvalue hid
  have hstacked := hsound.graph.stacked
  have hfits := hsound.object id object hobject
  rw [Heap.object_of_get hobject] at hstart
  have hcls : state.graph.firstNonSingleton? object.cls = some object.cls :=
    hstacked.firstNonSingleton_self (by rw [hfits.kind]; decide)
  refine ⟨hstart ▸ hsound.graph, hstart ▸ hsound.has_dispatchClass hobject, hstart ▸ rfl, ?_⟩
  rw [hstart, classOf_of_objectId hid, Heap.object_of_get hobject, HeapObject.dispatchClass]
  cases hslot : object.singleton with
  | none => exact hcls
  | some singleton =>
      obtain ⟨hattached, hsuper⟩ := hfits.singleton singleton hslot
      have hkind := hsound.graph.mirrored.toPlaced.kind_of_attached hattached
      exact (hstacked.firstNonSingleton_of_singleton hkind hsuper).trans hcls

theorem Sound.startLaws (hsound : state.Sound) (hvalue : state.Has value) :
    state.StartLaws value := by
  have hcore : ∀ core : CoreClass, value.coreClass? = some core →
      state.start value = (state.classOf value, state) → state.StartLaws value := by
    intro core hcore hstart
    refine ⟨hstart ▸ hsound.graph, hstart ▸ hsound.has_classOf hvalue, hstart ▸ rfl, ?_⟩
    rw [hstart, classOf_coreClass hcore]
    exact hsound.graph.firstNonSingleton_core (Value.kind_of_coreClass hcore)
  cases value with
  | str id => exact hsound.startLaws_object hvalue rfl rfl
  | object id => exact hsound.startLaws_object hvalue rfl rfl
  | cls id =>
      have hmade := hsound.graph.stacked.synthesizes hvalue
      obtain ⟨hreached, _⟩ := hsound.metaclassOf hvalue
      have hclass : (state.graph.metaclassOf id).2.classOfClass id = state.graph.classOfClass id := by
        rw [Graph.classOfClass, hsound.graph.stacked.isModule_metaclassOf hvalue, Graph.classOfClass]
      refine ⟨hreached.graph, hsound.graph.stacked.has_metaclassOf hvalue, hclass, ?_⟩
      exact (hreached.graph.firstNonSingleton_metaclass hreached.proper hmade.slot).trans
        (congrArg some hclass)
  | bool flag =>
      cases flag with
      | true => exact hcore .trueClass rfl rfl
      | false => exact hcore .falseClass rfl rfl
  | nil => exact hcore .nilClass rfl rfl
  | int number => exact hcore .integer rfl rfl
  | float bits => exact hcore .float rfl rfl
  | symbol name => exact hcore .symbol rfl rfl
  | encoding id => exact hcore .encoding rfl rfl

theorem result_isA (state : State) (value : Value) (cls : ClassId) :
    state.result (isA value cls) =
      .ok ((state.start value).2.graph.isKindOf (state.start value).1 cls) := by
  rw [result, isA, run_dispatchClass_bind]
  rfl

/-- Every value is one of its class. -/
theorem StartLaws.isA_classOf (hlaws : state.StartLaws value) :
    state.result (isA value (state.classOf value)) = .ok true := by
  have hmem := hlaws.graph.stacked.mem_ancestors_of_firstNonSingleton hlaws.has hlaws.first
  rw [result_isA, Graph.isKindOf, decide_eq_true hmem, Bool.or_true]

/-! ## After a singleton class was made -/

/-- The search for the methods of an object begins at its singleton class, once there is one. -/
theorem dispatchClass_objectSingleton (hvalue : state.Has value) {id : ObjectId}
    (hid : value.objectId? = some id)
    (hstart : ∀ state : State, state.start value = ((state.heap.object id).dispatchClass, state))
    {singleton : ClassId} (hresult : state.result (objectSingleton value id) = .ok singleton) :
    (state.after (objectSingleton value id)).result (dispatchClass value) = .ok singleton := by
  obtain ⟨object, hobject, _⟩ := object_of_has hvalue hid
  have hsame : state.heap.object id = object := Heap.object_of_get hobject
  rw [result, run_dispatchClass, hstart]
  cases hslot : object.singleton with
  | some found =>
      have hrun := run_objectSingleton_of_some value (hsame.symm ▸ hslot)
      rw [result, hrun] at hresult
      obtain rfl := Except.ok.inj hresult
      rw [after, hrun, hsame, HeapObject.dispatchClass, hslot]
      rfl
  | none =>
      have hrun := run_objectSingleton_of_none value (hsame.symm ▸ hslot)
      rw [result, hrun] at hresult
      obtain rfl := Except.ok.inj hresult
      rw [after, hrun, Heap.object_of_get (get_newSingleton value hobject)]
      rfl

theorem Sound.dispatchClass_singletonClassOf (hsound : state.Sound) (hvalue : state.Has value)
    {singleton : ClassId} (hresult : state.result (singletonClassOf value) = .ok singleton) :
    (state.after (singletonClassOf value)).result (dispatchClass value) = .ok singleton := by
  cases value with
  | str id => exact dispatchClass_objectSingleton hvalue rfl (fun _ => rfl) hresult
  | object id => exact dispatchClass_objectSingleton hvalue rfl (fun _ => rfl) hresult
  | cls id =>
      obtain rfl := Except.ok.inj hresult
      have hmade := hsound.graph.stacked.synthesizes hvalue
      exact congrArg (fun found => Except.ok found.1) (Graph.metaclassOf_of_some hmade.slot)
  -- the core classes of nil and the truth values take the place of singleton classes
  | nil =>
      obtain rfl := Except.ok.inj hresult
      rfl
  | bool flag =>
      obtain rfl := Except.ok.inj hresult
      rfl
  | _ => cases hresult

/-! ## Agreement -/

/-- In every state that can be reached the class of a value, of whatever kind it is, is the first class that
is no singleton class on the superclass chain of the class at which the search for its methods begins. So
every value is one of its class; classes that are no modules are ones of `Class`, and modules are ones of
`Module` and not of `Class`; and once a value has a singleton class, the search begins there. -/
theorem classOf_above_dispatchClass (hreachable : state.Reachable) (hvalue : state.Has value) :
    (∃ start, state.result (dispatchClass value) = .ok start ∧
      (state.after (dispatchClass value)).graph.firstNonSingleton? start =
        some (state.classOf value)) ∧
    (state.after (dispatchClass value)).classOf value = state.classOf value ∧
    state.result (isA value (state.classOf value)) = .ok true ∧
    (∀ id, value = .cls id → ¬ state.graph.isModule id →
      state.result (isA value CoreClass.classClass.id) = .ok true) ∧
    (∀ id, value = .cls id → state.graph.isModule id →
      state.result (isA value CoreClass.moduleClass.id) = .ok true ∧
        state.result (isA value CoreClass.classClass.id) = .ok false) ∧
    (∀ singleton, state.result (singletonClassOf value) = .ok singleton →
      (state.after (singletonClassOf value)).result (dispatchClass value) = .ok singleton) := by
  have hsound := hreachable.sound
  have hlaws := hsound.startLaws hvalue
  have hself := hlaws.isA_classOf
  have hafter : state.after (dispatchClass value) = (state.start value).2 :=
    congrArg Prod.snd (state.run_dispatchClass value)
  rw [hafter]
  refine ⟨⟨_, congrArg Prod.fst (state.run_dispatchClass value), hlaws.first⟩, hlaws.classOf, hself,
    ?_, ?_, fun _ hresult => hsound.dispatchClass_singletonClassOf hvalue hresult⟩
  · rintro id rfl hmodule
    rwa [classOf, Graph.classOfClass, if_neg hmodule] at hself
  · rintro id rfl hmodule
    refine ⟨by rwa [classOf, Graph.classOfClass, if_pos hmodule] at hself, ?_⟩
    have hmade := hsound.graph.stacked.synthesizes hvalue
    have hthere : (state.graph.metaclassOf id).2.isModule id :=
      (hsound.graph.stacked.isModule_metaclassOf hvalue).trans hmodule
    rw [result_isA]
    exact congrArg Except.ok (hlaws.graph.not_isKindOf_metaclass hmade.slot hthere)

/-- The metaclass of the metaclass of `Array` is one of the class `Class`, which is the first class above its
own metaclass that is no singleton class. -/
theorem classOf_metaclass_of_metaclass :
    let made := (Expr.metaclass (.metaclass (.classAt ["Array"]))).evaluate (runBody 1) .nil []
    let state := plain.after made
    ∃ id start, plain.result made = .ok (.cls id) ∧
      state.result (dispatchClass (.cls id)) = .ok start ∧
      (state.after (dispatchClass (.cls id))).graph.firstNonSingleton? start =
        some CoreClass.classClass.id := by
  intro made state
  have huses : (Expr.metaclass (.metaclass (.classAt ["Array"]))).Uses plain.Has :=
    .metaclass (.metaclass (.classAt ["Array"]))
  have hreachable : state.Reachable := reachable_plain.reaches (.single (.evaluate 1 huses))
  obtain ⟨id, hresult, hmodule⟩ : ∃ id, plain.result made = .ok (.cls id) ∧
      state.graph.isModule id = false := by
    exact ⟨⟨plain.graph.size + 2⟩, by decide +kernel⟩
  have hgives : plain.Gives made :=
    gives_evaluate (safe_runBody 1) huses (fun _ hvalue => hvalue) trivial (by simp)
  have hvalue := (hgives reachable_plain.sound).2 _ hresult
  obtain ⟨⟨start, hstart, hfirst⟩, _⟩ := classOf_above_dispatchClass hreachable hvalue
  rw [classOf, Graph.classOfClass, hmodule] at hfirst
  exact ⟨id, start, hresult, hstart, hfirst⟩

end State

end ObjectModel
