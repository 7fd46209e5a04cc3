import ObjectModel.Proofs.ClassOf

/-! # Which class the values are of that a class makes

A class that is asked for a new value makes an object of its own class, with one exception: what inherits from
`Module` makes a new position of the class graph, and the class of such a position is told by its kind alone. So
a class that inherits from `Module` and is neither `Module` nor `Class` makes values that are not its own.
-/

namespace ObjectModel

namespace Graph

variable {graph : Graph} {id cls : ClassId}

/-- The class of which the values are that a class makes. -/
def madeClass (graph : Graph) (cls : ClassId) : ClassId :=
  if graph.isKindOf cls CoreClass.moduleClass.id then
    if graph.isKindOf cls CoreClass.classClass.id then CoreClass.classClass.id
    else CoreClass.moduleClass.id
  else cls

namespace Stacked

/-- Two classes that are on the chains of each other are the same. -/
theorem eq_of_mem_chains (hstacked : graph.Stacked) {first second : ClassId}
    (hfirst : first ∈ graph.superclassChain second) (hsecond : second ∈ graph.superclassChain first) :
    first = second := by
  have hle := hstacked.index_le_of_mem_chain hfirst
  have hge := hstacked.index_le_of_mem_chain hsecond
  cases first
  cases second
  congr 1
  exact Nat.le_antisymm hle hge

end Stacked

/-- What inherits from `Class` inherits from `Module`. -/
theorem Sound.module_of_class (hsound : graph.Sound)
    (hclass : CoreClass.classClass.id ∈ graph.superclassChain cls) :
    CoreClass.moduleClass.id ∈ graph.superclassChain cls :=
  hsound.stacked.superclass_mem_chain hclass (hsound.mirrored.core_superclass .classClass)

/-- What inherits from a core class is no module, unless it is one of those itself. -/
theorem Sound.kind_of_inherits (hsound : graph.Sound) {core : CoreClass} (hcore : core.kind = .cls)
    (hinherits : core.id ∈ graph.superclassChain cls) : (graph.record cls).kind ≠ .mixin := by
  intro hkind
  have hmodule := isModule_iff.mpr hkind
  have hnone := hsound.stacked.superclass_module hmodule
  rw [hsound.stacked.superclassChain_of_none hnone, List.mem_singleton] at hinherits
  exact hsound.mirrored.isModule_core hcore (hinherits ▸ hmodule)

/-- The class of what a class makes is always on its superclass chain. -/
theorem Sound.madeClass_mem_chain (hsound : graph.Sound) (hcls : graph.Has cls) :
    graph.madeClass cls ∈ graph.superclassChain cls := by
  rw [madeClass]
  split
  next hmodule =>
    split
    next hclass => exact (hsound.isKindOf_core hcls rfl).mp hclass
    next => exact (hsound.isKindOf_core hcls rfl).mp hmodule
  next => exact hsound.stacked.self_mem_superclassChain cls

theorem Sound.madeClass_eq_self (hsound : graph.Sound) (hcls : graph.Has cls) :
    graph.madeClass cls = cls ↔ (graph.isKindOf cls CoreClass.moduleClass.id →
      cls = CoreClass.moduleClass.id ∨ cls = CoreClass.classClass.id) := by
  have hself (core : CoreClass) : graph.isKindOf core.id core.id := by simp [isKindOf]
  have hbelow : ¬ graph.isKindOf CoreClass.moduleClass.id CoreClass.classClass.id := by
    rw [hsound.isKindOf_core (hsound.stacked.has_core .moduleClass) rfl]
    intro hmem
    have hle := hsound.stacked.index_le_of_mem_chain hmem
    revert hle
    decide
  rw [madeClass]
  split
  next hmodule =>
    rw [imp_iff_right hmodule]
    split
    next hclass =>
      constructor
      · exact fun heq => .inr heq.symm
      · rintro (rfl | rfl)
        · exact absurd hclass hbelow
        · rfl
    next hclass =>
      constructor
      · exact fun heq => .inl heq.symm
      · rintro (rfl | rfl)
        · rfl
        · exact absurd (hself .classClass) hclass
  next hmodule => exact iff_of_true rfl fun hinherits => absurd hinherits hmodule

theorem Stacked.classOfClass_newClass {next : Graph} (hstacked : graph.Stacked)
    {superclass : ClassId} (hsuper : graph.Has superclass)
    (hresult : graph.newClass superclass = .ok (id, next)) :
    next.classOfClass id = CoreClass.classClass.id := by
  obtain ⟨_, rfl, rfl⟩ := newClass_cases hresult
  have hnew := has_add_next graph (.fresh .cls (some superclass) none false)
  rw [classOfClass, (hstacked.add_class hsuper).isModule_metaclassOf hnew, isModule, record_add_next]
  rfl

theorem Stacked.classOfClass_newModule (hstacked : graph.Stacked) :
    graph.newModule.2.classOfClass graph.newModule.1 = CoreClass.moduleClass.id := by
  have hnew := has_add_next graph (.fresh .mixin none none false)
  rw [classOfClass]
  exact if_pos ((hstacked.add_module.isModule_metaclassOf hnew).trans (by rw [isModule, record_add_next]; rfl))

end Graph

namespace State

variable {state : State} {cls : ClassId} {value : Value}

/-- The class of a value never changes. -/
theorem Grows.classOf {first second : State} (hgrows : first.Grows second) (hvalue : first.Has value) :
    second.classOf value = first.classOf value := by
  have hobject {id : ObjectId} (hid : value.objectId? = some id) :
      second.classOf value = first.classOf value := by
    obtain ⟨object, hget, _⟩ := object_of_has hvalue hid
    obtain ⟨next, hnext, hkeeps⟩ := hgrows.heap id object hget
    rw [classOf_of_objectId hid, classOf_of_objectId hid, Heap.object_of_get hget,
      Heap.object_of_get hnext, hkeeps.cls]
  cases value with
  | str id => exact hobject rfl
  | object id => exact hobject rfl
  | cls id =>
      have hkind := (hgrows.graph.record hvalue).kind
      rw [State.classOf, Graph.classOfClass, Graph.isModule, ClassRecord.isModule, hkind]
      rfl
  | bool flag => cases flag <;> rfl
  | _ => rfl

/-- Whether a value is one of a class that is no module is told by the superclass chain of the class of the value: the
singleton classes on the way make no difference. -/
theorem Sound.isA_of_not_module (hsound : state.Sound) (hvalue : state.Has value)
    (hcls : state.graph.Has cls) (hkind : (state.graph.record cls).kind = .cls) :
    state.result (isA value cls) =
      .ok (decide (cls ∈ state.graph.superclassChain (state.classOf value))) := by
  have hlaws := hsound.startLaws hvalue
  have hstacked := hlaws.graph.stacked
  have hgrows := (hsound.runs (hsound.runs_start hvalue)).2
  have hchain : (state.start value).2.graph.superclassChain (state.classOf value) =
      state.graph.superclassChain (state.classOf value) :=
    hgrows.graph.superclassChain hsound.graph.stacked hstacked (hsound.has_classOf hvalue)
  have hthere : ((state.start value).2.graph.record cls).kind = .cls :=
    (hgrows.graph.record hcls).kind.trans hkind
  have hmodule : ¬ (state.start value).2.graph.isModule cls := by
    rw [Graph.isModule_iff, hthere]
    decide
  rw [result_isA, Except.ok.injEq, Bool.eq_iff_iff, decide_eq_true_iff, ← hchain,
    hstacked.isKindOf_of_not_module hlaws.has hmodule]
  constructor
  · intro hmem
    apply hstacked.mem_chain_of_firstNonSingleton hlaws.first hmem
    rw [hthere]
    decide
  · intro hmem
    have hclass := List.mem_of_find?_eq_some hlaws.first
    rw [hstacked.mem_superclassChain] at hmem hclass ⊢
    exact hclass.trans hmem

/-! ## What allocation does -/

theorem kind_of_allocate (hresult : state.result (allocate cls) = .ok value) :
    (state.graph.record cls).kind = .cls := by
  rw [result, allocate, run_get_bind] at hresult
  split at hresult
  next hkind => exact hkind
  · cases hresult
  · cases hresult

/-- A class that inherits from `Module` makes a class or a module. -/
theorem Sound.allocate_of_module (hsound : state.Sound) (hkind : (state.graph.record cls).kind = .cls)
    (hmodule : state.graph.isKindOf cls CoreClass.moduleClass.id) :
    ∃ value, state.result (allocate cls) = .ok value := by
  have hobject : (state.graph.record CoreClass.object.id).kind = .cls :=
    hsound.graph.mirrored.core_kind .object
  rw [result, allocate, run_get_bind, hkind]
  dsimp only
  rw [allocateInstance, run_get_bind]
  dsimp only
  rw [if_pos hmodule]
  split
  · rw [run_bind, run_newClass, Graph.newClass, hobject]
    exact ⟨_, rfl⟩
  · exact ⟨_, rfl⟩

/-- A class that does not inherit from `Module` makes an object, unless it has no allocator. -/
theorem allocate_of_not_module (hkind : (state.graph.record cls).kind = .cls)
    (hmodule : ¬ state.graph.isKindOf cls CoreClass.moduleClass.id) :
    if unallocatable.any fun core => state.graph.isKindOf cls core.id then
      ∃ fault, state.result (allocate cls) = .error (.fault fault)
    else ∃ value id, state.result (allocate cls) = .ok value ∧ value.objectId? = some id := by
  rw [result, allocate, run_get_bind, hkind]
  dsimp only
  rw [allocateInstance, run_get_bind]
  dsimp only
  rw [if_neg hmodule]
  split
  · exact ⟨_, rfl⟩
  · split
    · exact ⟨_, _, rfl, rfl⟩
    · split <;> exact ⟨_, _, rfl, rfl⟩

/-- Allocation succeeds for the proper classes that inherit from `Module` or have an allocator. -/
theorem Sound.allocate_succeeds (hsound : state.Sound) :
    (∃ value, state.result (allocate cls) = .ok value) ↔ (state.graph.record cls).kind = .cls ∧
      (state.graph.isKindOf cls CoreClass.moduleClass.id ∨
        ∀ core ∈ unallocatable, ¬ state.graph.isKindOf cls core.id) := by
  constructor
  · rintro ⟨value, hresult⟩
    have hkind := kind_of_allocate hresult
    refine ⟨hkind, or_iff_not_imp_left.mpr fun hmodule => ?_⟩
    have hcases := allocate_of_not_module hkind hmodule
    split at hcases
    · obtain ⟨fault, hfault⟩ := hcases
      cases hresult.symm.trans hfault
    next hallocator => simpa using hallocator
  · rintro ⟨hkind, hallocates⟩
    by_cases hmodule : state.graph.isKindOf cls CoreClass.moduleClass.id
    · exact hsound.allocate_of_module hkind hmodule
    · have hcases := allocate_of_not_module hkind hmodule
      rw [if_neg (by simpa using hallocates.resolve_left hmodule)] at hcases
      obtain ⟨value, _, hresult, _⟩ := hcases
      exact ⟨value, hresult⟩

/-! ## What is made -/

/-- What a class makes: a value that stands for something, made by a proper class, with the class that goes with it. -/
structure Made (state : State) (cls : ClassId) (reached : State) (value : Value) : Prop where
  has : reached.Has value
  kind : (state.graph.record cls).kind = .cls
  classOf : reached.classOf value = state.graph.madeClass cls

/-- The ways in which a class is asked for a new value: by allocation, with or without setting it up, and by the
methods of the class for these. -/
inductive Makes (state : State) (cls : ClassId) : Action Value → Prop
  | allocate : Makes state cls (allocate cls)
  | instantiate (depth : Nat) {arguments : List Value} (harguments : ∀ value ∈ arguments, state.Has value) :
      Makes state cls (Builtin.instantiate (runBody depth) cls arguments)
  | new (depth : Nat) : Makes state cls (Builtin.runClass (runBody depth) .make (.cls cls) [])
  | allocateMethod (depth : Nat) :
      Makes state cls (Builtin.runClass (runBody depth) .allocate (.cls cls) [])

theorem leads_makeClass {superclass : ClassId} (hsuper : state.graph.Has superclass) :
    state.Leads (do return .cls (← newClass superclass)) fun reached value =>
      reached.Has value ∧ reached.classOf value = CoreClass.classClass.id := by
  have hnew : state.Leads (newClass superclass) fun reached id =>
      reached.graph.Has id ∧ reached.graph.classOfClass id = CoreClass.classClass.id := by
    intro hsound
    obtain ⟨hruns, hmade⟩ := leads_newClass hsuper hsound
    refine ⟨hruns, fun id hresult => ⟨(hmade id hresult).2, ?_⟩⟩
    rw [result, run_newClass] at hresult
    rw [after, run_newClass]
    cases hcase : state.graph.newClass superclass with
    | error fault =>
        rw [hcase] at hresult
        cases hresult
    | ok pair =>
        rw [hcase] at hresult
        obtain rfl := Except.ok.inj hresult
        exact hsound.graph.stacked.classOfClass_newClass hsuper hcase
  exact hnew.bind fun _ _ _ hmade => .pure hmade

theorem leads_makeModule :
    state.Leads (do return .cls (← newModule)) fun reached value =>
      reached.Has value ∧ reached.classOf value = CoreClass.moduleClass.id := by
  have hnew : state.Leads newModule fun reached id =>
      reached.graph.Has id ∧ reached.graph.classOfClass id = CoreClass.moduleClass.id := by
    intro hsound
    obtain ⟨hruns, hmade⟩ := leads_newModule hsound
    refine ⟨hruns, fun id hresult => ⟨(hmade id hresult).2, ?_⟩⟩
    obtain rfl := Except.ok.inj hresult
    exact hsound.graph.stacked.classOfClass_newModule
  exact hnew.bind fun _ _ _ hmade => .pure hmade

theorem leads_allocate_made (hcls : state.graph.Has cls) :
    state.Leads (allocate cls) (state.Made cls) := by
  apply Leads.ofSound
  intro hsound
  by_cases hmodule : state.graph.isKindOf cls CoreClass.moduleClass.id
  · apply Leads.get_bind
    split
    next hkind =>
      apply Leads.get_bind
      apply Leads.ite
      · intro _
        apply Leads.ite
        · intro hclass
          apply (leads_makeClass (hsound.graph.stacked.has_core .object)).mono
          rintro reached value - ⟨hvalue, hmade⟩
          refine ⟨hvalue, hkind, ?_⟩
          rw [hmade, Graph.madeClass, if_pos hmodule, if_pos hclass]
        · intro hclass
          apply leads_makeModule.mono
          rintro reached value - ⟨hvalue, hmade⟩
          refine ⟨hvalue, hkind, ?_⟩
          rw [hmade, Graph.madeClass, if_pos hmodule, if_neg hclass]
      · exact fun hnot => absurd hmodule hnot
    · exact .refuse _
    · exact .refuse _
  · intro _
    obtain ⟨hruns, hallocated⟩ := leads_allocate hcls hsound
    refine ⟨hruns, fun value hresult => ?_⟩
    obtain ⟨hvalue, hobject⟩ := hallocated value hresult
    have hkind := kind_of_allocate hresult
    have hcases := allocate_of_not_module hkind hmodule
    split at hcases
    · obtain ⟨fault, hfault⟩ := hcases
      cases hresult.symm.trans hfault
    · obtain ⟨other, id, hother, hid⟩ := hcases
      obtain rfl := Except.ok.inj (hother.symm.trans hresult)
      refine ⟨hvalue, hkind, ?_⟩
      rw [classOf_of_objectId hid, (hobject id hid).1, Graph.madeClass, if_neg hmodule]

theorem leads_instantiate_made {run : Runner} {arguments : List Value} (hrun : run.Safe)
    (hcls : state.graph.Has cls) (harguments : ∀ value ∈ arguments, state.Has value) :
    state.Leads (Builtin.instantiate run cls arguments) (state.Made cls) := by
  apply Leads.bind (leads_allocate_made hcls)
  intro reached value hgrows hmade
  apply Leads.bind (gives_send "initialize" hrun hmade.has (hgrows.hasAll harguments))
  -- whatever sets the value up, its class stays
  intro last _ hlast _
  exact .pure ⟨hlast.has hmade.has, hmade.kind, (hlast.classOf hmade.has).trans hmade.classOf⟩

theorem leads_makeInstance_made {run : Runner} (hrun : run.Safe) (hcls : state.graph.Has cls) :
    state.Leads (Builtin.makeInstance run cls []) (state.Made cls) := by
  apply Leads.ofSound
  intro hsound
  have hproper {core : CoreClass} (hcore : core.kind = .cls)
      (hinherits : state.graph.isKindOf cls core.id)
      (hkind : ¬ (state.graph.record cls).isSingleton) : (state.graph.record cls).kind = .cls := by
    have hmixin := hsound.graph.kind_of_inherits hcore
      ((hsound.graph.isKindOf_core hcls hcore).mp hinherits)
    cases hcase : (state.graph.record cls).kind with
    | cls => rfl
    | mixin => exact absurd hcase hmixin
    | singleton => exact absurd (decide_eq_true hcase) hkind
  apply Leads.get_bind
  apply Leads.ite
  · exact fun _ => leads_allocate_made hcls
  intro hkind
  apply Leads.ite
  · intro hclass
    have hmodule : state.graph.isKindOf cls CoreClass.moduleClass.id := by
      rw [hsound.graph.isKindOf_core hcls rfl] at hclass ⊢
      exact hsound.graph.module_of_class hclass
    apply Leads.arity_bind
    apply Leads.pure_bind
    apply (leads_makeClass (hsound.graph.stacked.has_core .object)).mono
    rintro reached value - ⟨hvalue, hmade⟩
    refine ⟨hvalue, hproper rfl hclass hkind, ?_⟩
    rw [hmade, Graph.madeClass, if_pos hmodule, if_pos hclass]
  intro hclass
  apply Leads.ite
  · intro hmodule
    apply Leads.arity_bind
    apply leads_makeModule.mono
    rintro reached value - ⟨hvalue, hmade⟩
    refine ⟨hvalue, hproper rfl hmodule hkind, ?_⟩
    rw [hmade, Graph.madeClass, if_pos hmodule, if_neg hclass]
  intro _
  apply Leads.ite
  · intro _
    apply Leads.arity_bind
    apply Leads.bind (leads_allocate_made hcls)
    exact fun _ _ _ hmade => .pure_bind (.pure hmade)
  · exact fun _ => leads_instantiate_made hrun hcls (by simp)

theorem Makes.leads {act : Action Value} (hmakes : state.Makes cls act) (hcls : state.graph.Has cls) :
    state.Leads act (state.Made cls) := by
  cases hmakes with
  | allocate => exact leads_allocate_made hcls
  | instantiate depth harguments => exact leads_instantiate_made (safe_runBody depth) hcls harguments
  | new depth => exact .pure_bind (leads_makeInstance_made (safe_runBody depth) hcls)
  | allocateMethod depth => exact .arity_bind (.pure_bind (leads_allocate_made hcls))

/-- What a class has made is one of it just if the class that goes with it is the class itself. -/
theorem Made.isA {reached : State} (hmade : state.Made cls reached value) (hsound : state.Sound)
    (hreached : reached.Sound) (hgrows : state.Grows reached) (hcls : state.graph.Has cls) :
    reached.result (isA value cls) = .ok (decide (state.graph.madeClass cls = cls)) := by
  have hstacked := hsound.graph.stacked
  have hmem := hsound.graph.madeClass_mem_chain hcls
  have hkind := (hgrows.graph.record hcls).kind.trans hmade.kind
  rw [hreached.isA_of_not_module hmade.has (hgrows.graph.has hcls) hkind, hmade.classOf,
    hgrows.graph.superclassChain hstacked hreached.graph.stacked (hstacked.has_of_mem_chain hcls hmem)]
  refine congrArg Except.ok (decide_eq_decide.mpr ⟨hstacked.eq_of_mem_chains hmem, ?_⟩)
  intro heq
  rw [heq]
  exact hstacked.self_mem_superclassChain cls

/-- In every state that can be reached, a proper class can be allocated just if it inherits from `Module` or has an
allocator. In whatever way a class is asked for a value, if it makes one, then the class of the value is that class,
unless it inherits from `Module`: then it is `Class` or `Module`. So the value is one of the class that made it just
if that does not inherit from `Module` or is `Module` or `Class` itself. -/
theorem made_classOf (hreachable : state.Reachable) (hcls : state.graph.Has cls) :
    ((∃ value, state.result (allocate cls) = .ok value) ↔ (state.graph.record cls).kind = .cls ∧
      (state.graph.isKindOf cls CoreClass.moduleClass.id ∨
        ∀ core ∈ unallocatable, ¬ state.graph.isKindOf cls core.id)) ∧
    (∀ act, state.Makes cls act → ∀ value, state.result act = .ok value →
      let reached := state.after act
      reached.Has value ∧ reached.classOf value = state.graph.madeClass cls ∧
        reached.result (isA value cls) = .ok (decide (state.graph.madeClass cls = cls))) ∧
    (state.graph.madeClass cls = cls ↔ (state.graph.isKindOf cls CoreClass.moduleClass.id →
      cls = CoreClass.moduleClass.id ∨ cls = CoreClass.classClass.id)) := by
  have hsound := hreachable.sound
  refine ⟨hsound.allocate_succeeds, ?_, hsound.graph.madeClass_eq_self hcls⟩
  intro act hmakes value hresult
  obtain ⟨hruns, hpost⟩ := hmakes.leads hcls hsound
  have hmade := hpost value hresult
  obtain ⟨hreached, hgrows⟩ := hsound.runs hruns
  exact ⟨hmade.has, hmade.classOf, hmade.isA hsound hreached hgrows hcls⟩

/-! ## Classes of modules -/

/-- Defines a class that inherits from `Module`. -/
def defineTrait : Expr := .perform (.defineClass "Trait") [.classAt [], .classAt ["Module"]] none

theorem uses_defineTrait : defineTrait.Uses plain.Has :=
  .perform _ nofun (List.forall_mem_cons.mpr
    ⟨.classAt _, List.forall_mem_singleton.mpr (.classAt _)⟩)

/-- The class that inherits from `Module`. -/
def traitClass : ClassId := ⟨30⟩

/-- The state in which it is defined. -/
def traits : State := plain.after (defineTrait.evaluate (runBody 1) .nil [])

theorem reachable_traits : traits.Reachable :=
  reachable_plain.reaches (.single (.evaluate 1 uses_defineTrait))

/-- What is allocated for the class is a module of the class `Module`, and is not one of the class that made it. -/
theorem allocate_misses_class :
    let reached := traits.after (allocate traitClass)
    let value := Value.cls traits.graph.next
    traits.Reachable ∧ traits.graph.Has traitClass ∧
      traits.result (allocate traitClass) = .ok value ∧
      reached.classOf value = CoreClass.moduleClass.id ∧ reached.classOf value ≠ traitClass ∧
      reached.result (isA value traitClass) = .ok false := by
  refine ⟨reachable_traits, ?_⟩
  decide +kernel

/-- A string that is allocated is of the class `String`. A module that is made for a class of modules is not one of
that class, whether it is allocated or made by the method `new` of the class. -/
theorem made_by_string_and_trait :
    let asked := Builtin.runClass (runBody 1) .make (.cls traitClass) []
    (∃ value, plain.result (allocate CoreClass.string.id) = .ok value ∧
      (plain.after (allocate CoreClass.string.id)).classOf value = CoreClass.string.id ∧
      (plain.after (allocate CoreClass.string.id)).result (isA value CoreClass.string.id) = .ok true) ∧
    ∃ value, traits.result asked = .ok value ∧
      (traits.after asked).result (isA value traitClass) = .ok false := by
  intro asked
  obtain ⟨hclass, hmade, hasked⟩ : traits.graph.Has traitClass ∧
      traits.graph.madeClass traitClass ≠ traitClass ∧
      traits.result asked = .ok (.cls traits.graph.next) := by decide +kernel
  have hsound := reachable_plain.sound.graph
  have hstring := hsound.stacked.has_core .string
  have habove {core : CoreClass} (hcore : core.kind = .cls) (hnot : core ∉ [.string, .object, .basicObject]) :
      ¬ plain.graph.isKindOf CoreClass.string.id core.id := by
    rwa [hsound.isKindOf_core hstring hcore, hsound.mem_chain_of_child rfl]
  have hallocator : ∀ core ∈ unallocatable, ¬ plain.graph.isKindOf CoreClass.string.id core.id := by
    intro core hcore
    have hother : core.kind = .cls ∧ core ∉ [CoreClass.string, .object, .basicObject] := by
      revert hcore
      cases core <;> decide
    exact habove hother.1 hother.2
  obtain ⟨hallocates, hvalues, hself⟩ := made_classOf reachable_plain hstring
  obtain ⟨-, htraits, -⟩ := made_classOf reachable_traits hclass
  constructor
  · obtain ⟨value, hresult⟩ := hallocates.mpr ⟨hsound.mirrored.core_kind .string, .inr hallocator⟩
    obtain ⟨-, hclassOf, hisA⟩ := hvalues _ .allocate value hresult
    have hown := hself.mpr fun hinherits => absurd hinherits (habove rfl (by decide))
    rw [hown] at hclassOf hisA
    exact ⟨value, hresult, hclassOf, hisA.trans (by simp)⟩
  · obtain ⟨-, -, hisA⟩ := htraits asked (.new 1) _ hasked
    exact ⟨_, hasked, hisA.trans (by rw [decide_eq_false hmade])⟩

end State

end ObjectModel
