import ObjectModel.Proofs.Later
import ObjectModel.Proofs.Sparing.Runs

/-! # Frozen values

What is frozen stays frozen and stays as it is. A frozen class keeps its methods, its modules and its variables, and as
long as no constants are removed also its constants; a frozen object of the heap keeps its variables and its payload.
The classes that are attached to a frozen value are closed by it, so metaclasses and singleton classes keep their
methods and modules as well, even if they are made after the freezing.
-/

namespace ObjectModel

open Relation

/-- An object that holds what it held: the same variables and the same payload. It may have got a singleton class. -/
structure HeapObject.SameHolding (first second : HeapObject) : Prop where
  ownVariables : second.ownVariables = first.ownVariables
  payload : second.payload = first.payload
  isFrozen : first.isFrozen → second.isFrozen

namespace HeapObject.SameHolding

theorem refl (object : HeapObject) : object.SameHolding object := ⟨rfl, rfl, id⟩

theorem trans {first second third : HeapObject} (hfirst : first.SameHolding second)
    (hsecond : second.SameHolding third) : first.SameHolding third where
  ownVariables := hsecond.ownVariables.trans hfirst.ownVariables
  payload := hsecond.payload.trans hfirst.payload
  isFrozen hfrozen := hsecond.isFrozen (hfirst.isFrozen hfrozen)

end HeapObject.SameHolding

/-- A record with the variables that it had. The rest of it may have changed, but it is not thawed. -/
structure ClassRecord.SameVariables (first second : ClassRecord) : Prop where
  ownVariables : second.ownVariables = first.ownVariables
  isFrozen : first.isFrozen → second.isFrozen

namespace ClassRecord.SameVariables

variable {first second third : ClassRecord}

theorem refl (record : ClassRecord) : record.SameVariables record := ⟨rfl, id⟩

theorem trans (hfirst : first.SameVariables second) (hsecond : second.SameVariables third) :
    first.SameVariables third where
  ownVariables := hsecond.ownVariables.trans hfirst.ownVariables
  isFrozen hfrozen := hsecond.isFrozen (hfirst.isFrozen hfrozen)

theorem of_fills (hfills : first.Fills second) : first.SameVariables second := by
  obtain ⟨slot, _, rfl⟩ := hfills
  exact ⟨rfl, id⟩

theorem of_isBlank (hblank : first.IsBlank) : Graph.missing.SameVariables first := by
  obtain ⟨kind, superclass, attached, isCore, slot, rfl⟩ := hblank
  exact ⟨rfl, id⟩

end ClassRecord.SameVariables

namespace Heap

/-- The frozen objects of a heap are in another one as they were. -/
def KeepsFrozen (first second : Heap) : Prop :=
  ∀ id object, first.get? id = some object → object.isFrozen →
    ∃ next, second.get? id = some next ∧ object.SameHolding next

theorem KeepsFrozen.refl (heap : Heap) : heap.KeepsFrozen heap :=
  fun _ object hobject _ => ⟨object, hobject, .refl object⟩

theorem KeepsFrozen.trans {first second third : Heap} (hfirst : first.KeepsFrozen second)
    (hsecond : second.KeepsFrozen third) : first.KeepsFrozen third := by
  intro id object hobject hfrozen
  obtain ⟨middle, hmiddle, hheld⟩ := hfirst id object hobject hfrozen
  obtain ⟨last, hlast, hholds⟩ := hsecond id middle hmiddle (hheld.isFrozen hfrozen)
  exact ⟨last, hlast, hheld.trans hholds⟩

theorem keepsFrozen_add (heap : Heap) (object : HeapObject) : heap.KeepsFrozen (heap.add object).2 :=
  fun _ old hold _ => ⟨old, get_add_of_some hold object, .refl old⟩

theorem keepsFrozen_update {heap : Heap} {id : ObjectId} {change : HeapObject → HeapObject}
    (hchange : ∀ object, heap.get? id = some object → object.isFrozen →
      object.SameHolding (change object)) : heap.KeepsFrozen (heap.update id change) := by
  intro other object hobject hfrozen
  by_cases heq : other = id
  · subst heq
    refine ⟨change object, ?_, hchange object hobject hfrozen⟩
    rw [get_update_self, hobject]
    rfl
  · exact ⟨object, (get_update_of_ne heq change).trans hobject, .refl object⟩

end Heap

/-- A record that was added has no variables. -/
theorem Graph.Extends.sameVariables {first second : Graph} (hextends : first.Extends second)
    (id : ClassId) : (first.record id).SameVariables (second.record id) := by
  by_cases hid : first.Has id
  · exact .of_fills (hextends.record hid)
  · rw [record_of_not_has hid]
    by_cases hnew : second.Has id
    · exact .of_isBlank (hextends.blank hnew hid)
    · rw [record_of_not_has hnew]
      exact .refl _

namespace State

variable {first state later : State}

/-! ## One change -/

theorem sameVariables_orSame {changed id : ClassId} {change : ClassRecord → ClassRecord}
    {mixin : ClassId} (hchange : Graph.MixesIn mixin change) {result : Except Fault (Bool × Graph)}
    (hresult : ∀ added graph, result = .ok (added, graph) →
      graph = state.graph ∨ graph = state.graph.update changed change ∧
        state.graph.Mixable changed mixin) :
    (state.graph.record id).SameVariables ((state.orSame result).graph.record id) := by
  cases hcase : result with
  | error fault => exact .refl _
  | ok pair =>
      obtain ⟨added, graph⟩ := pair
      rcases hresult added graph hcase with rfl | ⟨rfl, _⟩
      · exact .refl _
      · apply state.graph.forall_record_update changed .refl
        rcases hchange with rfl | rfl <;> exact fun _ => ⟨rfl, fun hfrozen => hfrozen⟩

/-- An allowed change leaves the variables of a frozen class as they are. -/
theorem Sound.sameVariables_apply (hsound : state.Sound) {change : Change}
    (hfits : change.Fits state) (hguarded : change.Guarded state) (hinstall : change ≠ .installBuiltins)
    {id : ClassId} (hfrozen : (state.graph.record id).isFrozen) :
    (state.graph.record id).SameVariables ((change.apply state).graph.record id) := by
  have hstacked := hsound.graph.stacked
  have hrewrite {changed : ClassId} {change : ClassRecord → ClassRecord}
      (hchange : ∀ record : ClassRecord, record.SameVariables (change record)) :
      (state.graph.record id).SameVariables ((state.changeClass changed change).graph.record id) :=
    state.graph.forall_record_update changed .refl hchange id
  cases change with
  | newClass superclass =>
      rw [Change.apply]
      cases hresult : state.graph.newClass superclass with
      | error fault => exact .refl _
      | ok pair => exact (hstacked.extends_newClass hfits hresult).1.sameVariables id
  | newModule => exact hstacked.extends_newModule.1.sameVariables id
  | metaclassOf changed => exact (hstacked.synthesizes hfits).path.extends_graph.sameVariables id
  | newSingleton value object => exact (state.graph.extends_add _ _ _ _).sameVariables id
  | includeModule changed mixin =>
      exact sameVariables_orSame (.inl rfl) fun _ _ hresult => Graph.includeModule_cases hresult
  | prependModule changed mixin =>
      exact sameVariables_orSame (.inr rfl) fun _ _ hresult => Graph.prependModule_cases hresult
  | putMethod | eraseMethod | putConstant | flagConstant | eraseConstant | nameClass =>
      exact hrewrite fun _ => ⟨rfl, fun hfrozen => hfrozen⟩
  | putVariable value name content =>
      cases value with
      | cls changed =>
          -- the guard asks for a class that is not frozen, so it is another one
          have hother : id ≠ changed := by
            rintro rfl
            exact absurd hfrozen (Bool.eq_false_iff.mp hguarded)
          have hsame : ((state.changeClass changed (.putVariable name content)).graph.record id) =
              state.graph.record id :=
            Graph.record_update_of_ne hother _
          rw [Change.apply, hsame]
          exact .refl _
      | _ => exact .refl _
  | freeze value =>
      cases value with
      | cls changed => exact hrewrite fun _ => ⟨rfl, fun _ => rfl⟩
      | _ => exact .refl _
  | installBuiltins => exact absurd rfl hinstall
  | _ => exact .refl _

/-- An allowed change leaves the frozen objects of the heap as they are. -/
theorem keepsFrozen_apply {change : Change} (hguarded : change.Guarded state)
    (hinstall : change ≠ .installBuiltins) : state.heap.KeepsFrozen (change.apply state).heap := by
  have hsame {α : Type} (result : Except Fault (α × Graph)) :
      state.heap.KeepsFrozen (state.orSame result).heap := by
    cases result <;> exact .refl _
  have hvariable {id : ObjectId} (name : Symbol) (content : Value)
      (hopen : (state.heap.object id).isFrozen = false) :
      state.heap.KeepsFrozen (state.heap.update id (.putVariable name content)) := by
    apply Heap.keepsFrozen_update
    intro object hobject hfrozen
    rw [Heap.object_of_get hobject] at hopen
    exact absurd hfrozen (Bool.eq_false_iff.mp hopen)
  cases change with
  | newClass superclass => exact hsame _
  | includeModule id mixin => exact hsame _
  | prependModule id mixin => exact hsame _
  | newSingleton value id =>
      exact Heap.keepsFrozen_update fun _ _ _ => ⟨rfl, rfl, fun hfrozen => hfrozen⟩
  | putVariable value name content =>
      cases value with
      | str id => exact hvariable name content hguarded
      | object id => exact hvariable name content hguarded
      | _ => exact .refl _
  | freeze value =>
      cases value with
      | str id => exact Heap.keepsFrozen_update fun _ _ _ => ⟨rfl, rfl, fun _ => rfl⟩
      | object id => exact Heap.keepsFrozen_update fun _ _ _ => ⟨rfl, rfl, fun _ => rfl⟩
      | _ => exact .refl _
  | addObject object => exact Heap.keepsFrozen_add _ _
  | setText id content =>
      apply Heap.keepsFrozen_update
      intro object hobject hfrozen
      have hopen : object.isFrozen = false := Heap.object_of_get hobject ▸ hguarded
      exact absurd hfrozen (Bool.eq_false_iff.mp hopen)
  | installBuiltins => exact absurd rfl hinstall
  | _ => exact .refl _

/-! ## Later states -/

/-- Frozen classes keep their variables, and stay frozen. -/
theorem Sound.sameVariables_of_continues (hsound : first.Sound) (hcontinues : first.Continues later)
    (hinstalled : later.installations = first.installations) {id : ClassId}
    (hfrozen : (first.graph.record id).isFrozen) :
    (first.graph.record id).SameVariables (later.graph.record id) := by
  refine hsound.continues_induct
    (motive := fun state => (first.graph.record id).SameVariables (state.graph.record id)) ?_
    (fun _ hsame => hsame) hcontinues hinstalled (.refl _)
  intro state change _ _ _ hstate hfits hguarded hinstall hsame
  exact hsame.trans (hstate.sameVariables_apply hfits hguarded hinstall (hsame.isFrozen hfrozen))

/-- Frozen objects of the heap keep their variables and their payload, and stay frozen. -/
theorem Sound.keepsFrozen_of_continues (hsound : first.Sound) (hcontinues : first.Continues later)
    (hinstalled : later.installations = first.installations) :
    first.heap.KeepsFrozen later.heap := by
  refine hsound.continues_induct (motive := fun state => first.heap.KeepsFrozen state.heap) ?_
    (fun _ hkeeps => hkeeps) hcontinues hinstalled (.refl _)
  intro state change _ _ _ _ _ hguarded hinstall hkeeps
  exact hkeeps.trans (keepsFrozen_apply hguarded hinstall)

/-- A frozen value stays frozen. -/
theorem Sound.isFrozen_of_continues (hsound : first.Sound) (hcontinues : first.Continues later)
    (hinstalled : later.installations = first.installations) {value : Value}
    (hvalue : first.Has value) (hfrozen : first.isFrozen value) : later.isFrozen value := by
  have hheap {id : ObjectId} {object : HeapObject} (hobject : first.heap.get? id = some object)
      (hfrozen : (first.heap.object id).isFrozen) : (later.heap.object id).isFrozen := by
    rw [Heap.object_of_get hobject] at hfrozen
    obtain ⟨next, hnext, hholds⟩ :=
      hsound.keepsFrozen_of_continues hcontinues hinstalled id object hobject hfrozen
    rw [Heap.object_of_get hnext]
    exact hholds.isFrozen hfrozen
  cases value with
  | cls id => exact (hsound.sameVariables_of_continues hcontinues hinstalled hfrozen).isFrozen hfrozen
  | str id =>
      obtain ⟨object, hobject, _⟩ := hvalue
      exact hheap hobject hfrozen
  | object id =>
      obtain ⟨object, hobject, _⟩ := hvalue
      exact hheap hobject hfrozen
  | _ => rfl

/-- A frozen class behaves as it did. -/
theorem Sound.sameBehavior_of_isFrozen (hsound : first.Sound) (hcontinues : first.Continues later)
    (hinstalled : later.installations = first.installations) {id : ClassId}
    (hfrozen : (first.graph.record id).isFrozen) :
    (first.graph.record id).SameBehavior (later.graph.record id) := by
  apply hsound.sameBehavior_of_continues _ hcontinues hinstalled
  intro state hbefore hcount _ hopen
  have hstill := (hsound.sameVariables_of_continues hbefore hcount hfrozen).isFrozen hfrozen
  exact absurd hstill (Bool.eq_false_iff.mp hopen.2.1)

/-- A class that is attached to a frozen value behaves as it did, and one that is made after the freezing as one
without methods. -/
theorem Sound.sameBehavior_of_attached (hsound : first.Sound) (hcontinues : first.Continues later)
    (hinstalled : later.installations = first.installations) {value : Value}
    (hvalue : first.Has value) (hfrozen : first.isFrozen value) {id : ClassId}
    (hattached : (later.graph.record id).attached = some value) :
    (first.graph.record id).SameBehavior (later.graph.record id) := by
  apply hsound.sameBehavior_of_continues _ hcontinues hinstalled
  rintro state hbefore hcount hrest ⟨hid, hmutable⟩
  rw [(hrest.graph.record hid).attached] at hattached
  have hstill := hsound.isFrozen_of_continues hbefore hcount hvalue hfrozen
  exact absurd hstill (Bool.eq_false_iff.mp (hmutable.2.2 value hattached))

end State

/-! ## Constants -/

/-- The change takes no constant out of a table, and puts in no body that does. -/
def Change.Spares : Change → Prop
  | .putMethod _ _ body _ => body.Spares
  | .eraseConstant _ _ => False
  | _ => True

namespace State

variable {first state later : State}

/-- An allowed change that takes no constant out of a table spares those of frozen classes. -/
theorem sparedIn_apply (hsparing : state.HasSparing) {change : Change} (hguarded : change.Guarded state)
    (hspares : change.Spares) : state.SparedIn (change.apply state) := by
  have hsame {α : Type} {result : Except Fault (α × Graph)}
      (hresult : ∀ value graph, result = .ok (value, graph) → state.graph.SameContent graph) :
      state.SparedIn (state.orSame result) := by
    cases hcase : result with
    | error fault => exact .refl hsparing
    | ok pair => exact sparedIn_of_sameContent hsparing (hresult pair.1 pair.2 hcase)
  cases change with
  | newClass superclass => exact hsame fun _ _ hresult => Graph.sameContent_newClass hresult
  | newModule => exact sparedIn_of_sameContent hsparing state.graph.sameContent_newModule
  | metaclassOf id => exact (sparing_metaclassOf id).sparedIn hsparing
  | newSingleton value id =>
      exact sparedIn_of_sameContent hsparing (state.graph.sameContent_add _ _ _ _)
  | includeModule id mixin =>
      exact hsame fun _ _ hresult =>
        Graph.sameContent_mix (.inl rfl) (Graph.includeModule_cases hresult)
  | prependModule id mixin =>
      exact hsame fun _ _ hresult =>
        Graph.sameContent_mix (.inr rfl) (Graph.prependModule_cases hresult)
  | putMethod id name body visibility =>
      have hbody : ({ owner := id, body, visibility } : MethodEntry).body.Spares := hspares
      exact (sparing_putMethod id name hbody).sparedIn hsparing
  | eraseMethod id name => exact (sparing_eraseMethod id name).sparedIn hsparing
  | putConstant scope name value =>
      exact sparedIn_changeConstants hsparing hguarded rfl fun _ => ⟨rfl, rfl⟩
  | flagConstant scope name change =>
      exact sparedIn_changeConstants hsparing hguarded rfl fun _ => ⟨rfl, rfl⟩
  | eraseConstant => exact hspares.elim
  | nameClass scope id name => exact sparedIn_nameClass hsparing scope id name
  | putVariable value name content =>
      cases value with
      | cls id =>
          exact sparedIn_of_sameContent hsparing
            (state.graph.sameContent_update id fun _ => ⟨rfl, rfl, rfl, rfl⟩)
      | _ => exact sparedIn_of_sameContent hsparing (.refl _)
  | freeze value =>
      cases value with
      | cls id => exact sparedIn_freeze hsparing id
      | _ => exact sparedIn_of_sameContent hsparing (.refl _)
  | installBuiltins => exact sparing_installBuiltins.sparedIn hsparing
  | _ => exact sparedIn_of_sameContent hsparing (.refl _)

/-- One move of an object model that goes around no guard and removes no constant. -/
inductive SparingActs (state : State) : State → Prop
  | evaluate (depth : Nat) {expression : Expr} (hspares : expression.Spares) :
      SparingActs state (state.after (expression.evaluate (runBody depth) .nil []))
  | change {change : Change} (hguarded : change.Guarded state) (hspares : change.Spares) :
      SparingActs state (change.apply state)
  | ready (defaults : Encoding.Defaults) :
      SparingActs state { state with defaults, warnings := [] }

/-- A state comes later than another one, and no constant was removed on the way. -/
def ContinuesSparing (first later : State) : Prop :=
  first.HasSparing ∧ ReflTransGen SparingActs first later

theorem sparedIn_of_continues (hcontinues : first.ContinuesSparing later) : first.SparedIn later := by
  obtain ⟨hsparing, hacts⟩ := hcontinues
  induction hacts with
  | refl => exact .refl hsparing
  | tail _ hacts ih =>
      apply ih.trans
      cases hacts with
      | evaluate depth hspares => exact sparedIn_evaluate ih.hasSparing depth hspares
      | change hguarded hspares => exact sparedIn_apply ih.hasSparing hguarded hspares
      | ready defaults => exact sparedIn_of_sameContent ih.hasSparing (.refl _)

/-! ## What is frozen stays as it is -/

theorem isFrozen_handle {id : ObjectId} {object : HeapObject}
    (hobject : state.heap.get? id = some object) :
    state.isFrozen (object.handle id) = object.isFrozen := by
  have hsame : (state.heap.object id).isFrozen = object.isFrozen :=
    congrArg HeapObject.isFrozen (Heap.object_of_get hobject)
  rw [HeapObject.handle]
  split <;> exact hsame

/-- From a state that can be reached to any later one, with the builtin methods not installed again, a frozen class stays
frozen and keeps its methods, its modules and its variables, and its metaclass, old or new, its methods and modules; if
no constant is removed on the way, it keeps its constants with their order and flags as well. A frozen object of the
heap stays frozen and keeps its variables and its payload, and its singleton class, old or new, its methods and
modules. -/
theorem frozen_stays (hreachable : state.Reachable) (hcontinues : state.Continues later)
    (hinstalled : later.installations = state.installations) :
    (∀ id, (state.graph.record id).isFrozen →
      (later.graph.record id).isFrozen ∧
      (state.graph.record id).SameBehavior (later.graph.record id) ∧
      (later.graph.record id).ownVariables = (state.graph.record id).ownVariables ∧
      (∀ metaclass, (later.graph.record id).metaclass = some metaclass →
        (state.graph.record metaclass).SameBehavior (later.graph.record metaclass)) ∧
      (state.ContinuesSparing later →
        (later.graph.record id).constants = (state.graph.record id).constants)) ∧
    ∀ id object, state.heap.get? id = some object → object.isFrozen →
      ∃ next, later.heap.get? id = some next ∧ next.isFrozen ∧
        next.ownVariables = object.ownVariables ∧ next.payload = object.payload ∧
        ∀ singleton, next.singleton = some singleton →
          (state.graph.record singleton).SameBehavior (later.graph.record singleton) := by
  have hsound := hreachable.sound
  obtain ⟨hlast, hgrows⟩ := hsound.continues hcontinues
  refine ⟨?_, ?_⟩
  · intro id hfrozen
    have hsame := hsound.sameVariables_of_continues hcontinues hinstalled hfrozen
    refine ⟨hsame.isFrozen hfrozen,
      hsound.sameBehavior_of_isFrozen hcontinues hinstalled hfrozen, hsame.ownVariables, ?_,
      fun hspared => (sparedIn_of_continues hspared).constants hfrozen⟩
    intro metaclass hslot
    have hid : state.Has (.cls id) := by
      by_contra hid
      rw [Graph.record_of_not_has hid] at hfrozen
      cases hfrozen
    exact hsound.sameBehavior_of_attached hcontinues hinstalled hid hfrozen
      (hlast.graph.mirrored.mirrors hslot).1
  · intro id object hobject hfrozen
    obtain ⟨next, hnext, hholds⟩ :=
      hsound.keepsFrozen_of_continues hcontinues hinstalled id object hobject hfrozen
    refine ⟨next, hnext, hholds.isFrozen hfrozen, hholds.ownVariables, hholds.payload, ?_⟩
    intro singleton hslot
    -- the singleton class is attached to the value that stands for the object, then as before
    have hattached := ((hlast.object id next hnext).singleton singleton hslot).1
    have hhandle : next.handle id = object.handle id := by
      obtain ⟨found, hfound, hkeeps⟩ := hgrows.heap id object hobject
      obtain rfl := Option.some.inj (hnext.symm.trans hfound)
      exact hkeeps.handle id
    rw [hhandle] at hattached
    exact hsound.sameBehavior_of_attached hcontinues hinstalled (has_handle hobject)
      ((isFrozen_handle hobject).trans hfrozen) hattached

/-- A frozen module gets no constants, and a frozen string no methods of its own. -/
theorem frozen_module_stays :
    let freezing := Expr.sequence [.perform .freeze [.classAt ["Comparable"]] none,
      .perform .freeze [.text "held"] (some "held")]
    let attempt := Expr.sequence [.metaclass (.named "held"),
      .perform (.constantSet "Limit") [.classAt ["Comparable"], .constant (.int 3)] none]
    let state := plain.after (freezing.evaluate (runBody 1) .nil [])
    let later := state.after (attempt.evaluate (runBody 1) .nil [])
    (state.heap.object ⟨0⟩).singleton = none ∧
      state.result (attempt.evaluate (runBody 1) .nil []) = .error (.fault (.frozen "Comparable")) ∧
      (later.graph.record CoreClass.comparable.id).constants =
        (state.graph.record CoreClass.comparable.id).constants ∧
      ∃ singleton, (later.heap.object ⟨0⟩).singleton = some singleton ∧
        (state.graph.record singleton).SameBehavior (later.graph.record singleton) := by
  intro freezing attempt state later
  obtain ⟨hmodule, hstring, hnone, hrefused, hsome, hinstalled⟩ :
      (state.graph.record CoreClass.comparable.id).isFrozen ∧
        (∃ object ∈ state.heap.get? ⟨0⟩, object.isFrozen) ∧ (state.heap.object ⟨0⟩).singleton = none ∧
        state.result (attempt.evaluate (runBody 1) .nil []) =
          .error (.fault (.frozen "Comparable")) ∧
        (later.heap.object ⟨0⟩).singleton.isSome ∧ later.installations = state.installations := by
    decide +kernel
  -- both programs use what is there, and remove no constant
  have hfreezing : freezing.Uses plain.Has ∧ freezing.Spares := by
    constructor
    · refine .sequence (List.forall_mem_cons.mpr ⟨?_, List.forall_mem_singleton.mpr ?_⟩)
      · exact .perform _ nofun (List.forall_mem_singleton.mpr (.classAt _))
      · exact .perform _ nofun (List.forall_mem_singleton.mpr (.text _))
    · refine .of_parts rfl (List.forall_mem_cons.mpr ⟨?_, List.forall_mem_singleton.mpr ?_⟩)
      · exact .perform _ rfl nofun (List.forall_mem_singleton.mpr (.of_parts rfl nofun))
      · exact .perform _ rfl nofun (List.forall_mem_singleton.mpr (.of_parts rfl nofun))
  have hattempt : attempt.Uses state.Has ∧ attempt.Spares := by
    constructor
    · refine .sequence (List.forall_mem_cons.mpr ⟨?_, List.forall_mem_singleton.mpr ?_⟩)
      · exact .metaclass (.named _)
      · exact .perform _ nofun (List.forall_mem_cons.mpr
          ⟨.classAt _, List.forall_mem_singleton.mpr (.constant trivial)⟩)
    · refine .of_parts rfl (List.forall_mem_cons.mpr ⟨?_, List.forall_mem_singleton.mpr ?_⟩)
      · exact .of_parts rfl (List.forall_mem_singleton.mpr (.of_parts rfl nofun))
      · exact .perform _ rfl nofun (List.forall_mem_cons.mpr
          ⟨.of_parts rfl nofun, List.forall_mem_singleton.mpr (.of_parts rfl nofun)⟩)
  have hsparing : state.HasSparing :=
    (sparedIn_evaluate (hasSparing_initial _ _ _) 1 hfreezing.2).hasSparing
  have hreachable : state.Reachable :=
    reachable_plain.reaches (.single (.evaluate 1 hfreezing.1))
  obtain ⟨hclasses, hobjects⟩ :=
    frozen_stays hreachable (.single (.evaluate 1 hattempt.1)) hinstalled
  obtain ⟨-, -, -, -, hconstants⟩ := hclasses CoreClass.comparable.id hmodule
  obtain ⟨object, hobject, hfrozen⟩ := hstring
  obtain ⟨next, hnext, -, -, -, hsingleton⟩ := hobjects ⟨0⟩ object hobject hfrozen
  obtain ⟨singleton, hslot⟩ := Option.isSome_iff_exists.mp hsome
  refine ⟨hnone, hrefused, hconstants ⟨hsparing, .single (.evaluate 1 hattempt.2)⟩, singleton, hslot,
    hsingleton singleton ?_⟩
  rwa [Heap.object_of_get hnext] at hslot

end State

end ObjectModel
