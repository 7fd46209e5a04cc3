import ObjectModel.Proofs.Reachable
import ObjectModel.Proofs.Sparing.Actions
import ObjectModel.Proofs.State.Constants
import ObjectModel.Proofs.State.Definitions

/-! # What a failed definition leaves behind

Defining a class or a module makes it first and then assigns the constant, and the name is looked at only there. So a
definition that is refused leaves the state as it was, unless it is refused for its name: then the class or module that
was made stays in the graph together with its metaclass, without a name and bound to nothing.
-/

namespace ObjectModel

/-! ## New classes with their metaclasses -/

namespace Graph

variable {graph : Graph}

/-- The graph with a new class or module at the end, and behind it its metaclass. -/
def withPair (graph : Graph) (kind : ClassKind) (superclass : Option ClassId) (parent : ClassId) :
    Graph :=
  ⟨graph.classes ++
    [{ ClassRecord.fresh kind superclass none false with metaclass := some ⟨graph.size + 1⟩ },
      .fresh .singleton (some parent) (some (.cls graph.next)) false]⟩

theorem attachMetaclass_next (graph : Graph) (kind : ClassKind) (superclass : Option ClassId)
    (parent : ClassId) :
    (graph.add (.fresh kind superclass none false)).2.attachMetaclass graph.next parent =
      graph.withPair kind superclass parent := by
  rw [attachMetaclass, record_add_next, withPair]
  simp [add, update, next, size, ClassRecord.fresh, List.modify_eq_take_drop]

/-- The metaclass of a record that was just added is the only one that is made, if the one that it inherits from is
there. -/
theorem metaclassOf_next {kind : ClassKind} {superclass : Option ClassId} {parent : ClassId}
    (hparent : (graph.add (.fresh kind superclass none false)).2.parentWithin graph.size graph.next =
      (parent, (graph.add (.fresh kind superclass none false)).2)) :
    ((graph.add (.fresh kind superclass none false)).2.metaclassOf graph.next).2 =
      graph.withPair kind superclass parent := by
  have hmissing :
      ((graph.add (.fresh kind superclass none false)).2.record graph.next).metaclass = none := by
    rw [record_add_next]
    rfl
  have hmade := metaclassWithin_of_none hmissing hparent rfl
  exact (congrArg Prod.snd hmade).trans (graph.attachMetaclass_next kind superclass parent)

theorem newModule_eq (graph : Graph) :
    graph.newModule = (graph.next, graph.withPair .mixin none CoreClass.moduleClass.id) := by
  have hparent : (graph.add (.fresh .mixin none none false)).2.parentWithin graph.size graph.next =
      (CoreClass.moduleClass.id, (graph.add (.fresh .mixin none none false)).2) := by
    rw [parentWithin, record_add_next]
    rfl
  exact Prod.ext rfl (metaclassOf_next hparent)

/-- The metaclass of a superclass is there, so a new class adds two records. -/
theorem Filled.newClass_eq (hfilled : graph.Filled) {superclass : ClassId}
    (hsuper : graph.Has superclass) (hkind : (graph.record superclass).kind = .cls) :
    ∃ parent, graph.newClass superclass =
      .ok (graph.next, graph.withPair .cls (some superclass) parent) := by
  have hproper : (graph.record superclass).kind ≠ .singleton := by simp [hkind]
  obtain ⟨parent, hslot⟩ := Option.isSome_iff_exists.mp (hfilled superclass hsuper hproper)
  refine ⟨parent, ?_⟩
  have hstill :
      ((graph.add (.fresh .cls (some superclass) none false)).2.record superclass).metaclass =
        some parent := by
    rw [record_add_of_ne (ne_next_of_has hsuper), hslot]
  have hparent :
      (graph.add (.fresh .cls (some superclass) none false)).2.parentWithin graph.size graph.next =
        (parent, (graph.add (.fresh .cls (some superclass) none false)).2) := by
    obtain ⟨bound, hbound⟩ := Nat.exists_eq_succ_of_ne_zero (Nat.ne_of_gt (Nat.zero_lt_of_lt hsuper))
    rw [parentWithin, record_add_next, hbound]
    exact metaclassWithin_of_some bound hstill
  rw [newClass, hkind]
  exact congrArg (fun next => Except.ok (graph.next, next)) (metaclassOf_next hparent)

end Graph

namespace State

variable {state : State} {scope : ClassId} {name : String}

/-! ## One definition for classes and modules -/

/-- A definition in a scope: what stands under the name is reopened, or something new is made and assigned. -/
def definition (scope : ClassId) (name : String) (reopen : Value → Action ClassId)
    (make : Action ClassId) : Action ClassId := do
  checkNotFrozen scope
  match ← ask fun state => state.ownConstant? scope name with
  | some existing => reopen existing
  | none =>
      let id ← make
      assignConstant scope name (.cls id)
      pure id

/-- A definition is refused only for its name: nothing but a valid name is missing in a scope that may be changed. -/
structure Misnames (state : State) (scope : ClassId) (name : String) : Prop where
  isOpen : (state.graph.record scope).isFrozen = false
  isNew : state.ownConstant? scope name = none
  isWrong : ¬ Name.isConstant name

/-- What a definition leaves of a state that does not end in something new: the state as it was where it fails and where
it reopens what is there, but something new without a name, with its metaclass, where it strays. -/
structure LeavesBehind (state : State) (act : Action ClassId) (scope : ClassId) (name : String)
    (strays : Prop) (kind : ClassKind) (superclass : Option ClassId) : Prop where
  failed : ∀ halt, state.result act = .error halt → ¬ strays → state.after act = state
  reopened : ∀ id, state.result act = .ok id → state.ownConstant? scope name ≠ none →
    state.after act = state
  strayed : strays → state.result act = .error (.fault (.constantName name)) ∧
    ∃ parent, state.after act = state.withGraph (state.graph.withPair kind superclass parent)

/-- What leaves the state as it was and does not stray. -/
theorem LeavesBehind.of_same {act : Action ClassId} {strays : Prop} {kind : ClassKind}
    {superclass : Option ClassId} (hafter : state.after act = state) (hkept : ¬ strays) :
    state.LeavesBehind act scope name strays kind superclass :=
  ⟨fun _ _ _ => hafter, fun _ _ _ => hafter, fun hstrays => absurd hstrays hkept⟩

theorem result_nameClass (state : State) (scope : ClassId) (name : String) (value : Value) :
    state.result (nameClass scope name value) = .ok () := by
  cases value with
  | cls id =>
      rw [result, nameClass, run_get_bind]
      dsimp only
      split <;> rfl
  | _ => rfl

/-- An assignment that gets past the check of the name is not refused. -/
theorem result_assignConstant (state : State) (scope : ClassId) {name : String} (value : Value)
    (hname : Name.isConstant name) : state.result (assignConstant scope name value) = .ok () := by
  have hchecked : (checkConstantName name).run.run state = (.ok (), state) := by
    rw [checkConstantName, if_pos hname]
    rfl
  have hnamed : (intern name).run.run state =
      (.ok (state.names.intern name).1, { state with names := (state.names.intern name).2 }) := rfl
  have hrest : state.result (assignConstant scope name value) =
      (state.withConstant scope name value).result (nameClass scope name value) := by
    rw [result, assignConstant, run_bind_of_ok hchecked, run_bind_of_ok hnamed, run_get_bind,
      withConstant]
    dsimp only
    split <;> rfl
  rw [hrest, result_nameClass]

theorem result_assignConstant_of_not (state : State) (scope : ClassId) {name : String}
    (value : Value) (hname : ¬ Name.isConstant name) :
    state.result (assignConstant scope name value) = .error (.fault (.constantName name)) := by
  rw [result, assignConstant, run_bind, checkConstantName, if_neg hname]
  rfl

section

variable (reopen : Value → Action ClassId) (make : Action ClassId)

/-- What stands under the name is reopened in a scope that may be changed. -/
theorem run_definition_of_own {existing : Value} (hopen : (state.graph.record scope).isFrozen = false)
    (hown : state.ownConstant? scope name = some existing) :
    (definition scope name reopen make).run.run state = (reopen existing).run.run state := by
  rw [definition, run_bind, run_checkNotFrozen, hopen]
  simp only [Bool.false_eq_true, if_false]
  rw [run_ask_bind, hown]

/-- Where nothing stands under the name, something is made and then assigned. -/
theorem run_definition_of_new (hopen : (state.graph.record scope).isFrozen = false)
    (hown : state.ownConstant? scope name = none) :
    (definition scope name reopen make).run.run state =
      (make >>= fun id => assignConstant scope name (.cls id) >>= fun _ => pure id).run.run state := by
  rw [definition, run_bind, run_checkNotFrozen, hopen]
  simp only [Bool.false_eq_true, if_false]
  rw [run_ask_bind, hown]

/-- Assigning what was made is refused just for a wrong name, and leaves it then as it was made. -/
theorem assigned_cases {middle : State} (scope : ClassId) (name : String) (id : ClassId)
    (hmake : make.run.run state = (.ok id, middle)) :
    let act := make >>= fun id => assignConstant scope name (.cls id) >>= fun _ => pure id
    (Name.isConstant name ∧ state.result act = .ok id) ∨
      (¬ Name.isConstant name ∧ state.result act = .error (.fault (.constantName name)) ∧
        state.after act = middle) := by
  intro act
  by_cases hname : Name.isConstant name
  · have hdone := middle.result_assignConstant scope (.cls id) hname
    refine .inl ⟨hname, ?_⟩
    rw [result, run_bind_of_ok hmake, run_bind]
    rw [result] at hdone
    cases hcase : (assignConstant scope name (.cls id)).run.run middle with
    | mk outcome reached =>
        rw [hcase] at hdone
        dsimp only at hdone
        rw [hdone]
        rfl
  · have hrefused := middle.result_assignConstant_of_not scope (.cls id) hname
    have hafter := middle.after_assignConstant_of_not scope (.cls id) hname
    have hrun : act.run.run state = (.error (.fault (.constantName name)), middle) := by
      rw [run_bind_of_ok hmake, run_bind]
      rw [result] at hrefused
      rw [after] at hafter
      cases hcase : (assignConstant scope name (.cls id)).run.run middle with
      | mk outcome reached =>
          rw [hcase] at hrefused hafter
          dsimp only at hrefused hafter
          rw [hrefused, hafter]
    exact .inr ⟨hname, congrArg Prod.fst hrun, congrArg Prod.snd hrun⟩

/-- A definition that only makes something if that is possible, and reopens without a change. -/
theorem leavesBehind_definition {possible : Prop} {kind : ClassKind} {superclass : Option ClassId}
    (hreopen : ∀ existing, state.after (reopen existing) = state)
    (hrefused : ¬ possible → ∃ halt, make.run.run state = (.error halt, state))
    (hmade : possible → ∃ parent, make.run.run state =
      (.ok state.graph.next, state.withGraph (state.graph.withPair kind superclass parent))) :
    state.LeavesBehind (definition scope name reopen make) scope name
      (state.Misnames scope name ∧ possible) kind superclass := by
  cases hfrozen : (state.graph.record scope).isFrozen with
  | true =>
      have hrun : (definition scope name reopen make).run.run state =
          (.error (.fault (.frozen (state.graph.displayName scope))), state) := by
        rw [definition, run_bind, run_checkNotFrozen, hfrozen]
        rfl
      refine .of_same (congrArg Prod.snd hrun) ?_
      rintro ⟨hmisnames, -⟩
      exact absurd hfrozen (by simp [hmisnames.isOpen])
  | false =>
      cases hown : state.ownConstant? scope name with
      | some existing =>
          have hrun := run_definition_of_own reopen make hfrozen hown
          refine .of_same ((congrArg Prod.snd hrun).trans (hreopen existing)) ?_
          rintro ⟨hmisnames, -⟩
          exact absurd hown (by simp [hmisnames.isNew])
      | none =>
          have hrun := run_definition_of_new reopen make hfrozen hown
          by_cases hpossible : possible
          · obtain ⟨parent, hnew⟩ := hmade hpossible
            rcases assigned_cases make scope name _ hnew with
              ⟨hname, hdone⟩ | ⟨hname, hstopped, hafter⟩
            · refine ⟨?_, fun _ _ hsome => absurd hown hsome, fun hstrays => absurd hname hstrays.1.isWrong⟩
              intro halt herror
              rw [result, hrun] at herror
              exact absurd (hdone.symm.trans herror) (by simp)
            · refine ⟨?_, fun _ _ hsome => absurd hown hsome, fun _ => ⟨?_, parent, ?_⟩⟩
              · exact fun _ _ hkept => absurd ⟨⟨hfrozen, hown, hname⟩, hpossible⟩ hkept
              · exact (congrArg Prod.fst hrun).trans hstopped
              · exact (congrArg Prod.snd hrun).trans hafter
          · obtain ⟨halt, hstopped⟩ := hrefused hpossible
            have hafter : state.after (definition scope name reopen make) = state := by
              rw [after, hrun, run_bind, hstopped]
            exact .of_same hafter fun hstrays => hpossible hstrays.2

end

/-! ## Classes and modules -/

theorem after_reopenClass (state : State) (existing : Value) (superclass : Option ClassId) :
    state.after (reopenClass existing name superclass) = state := by
  rw [after, reopenClass, run_get_bind]
  split
  · rfl
  · split <;> rfl

/-- Making a class is refused for a superclass that is no proper class, and else adds two records. -/
theorem run_newClass_cases (hsound : state.Sound) {superclass : ClassId}
    (hsuper : state.graph.Has superclass) :
    ((state.graph.record superclass).kind ≠ .cls →
      ∃ halt, (newClass superclass).run.run state = (.error halt, state)) ∧
    ((state.graph.record superclass).kind = .cls → ∃ parent, (newClass superclass).run.run state =
      (.ok state.graph.next,
        state.withGraph (state.graph.withPair .cls (some superclass) parent))) := by
  constructor
  · intro hkind
    rw [run_newClass, Graph.newClass]
    cases hcase : (state.graph.record superclass).kind with
    | cls => exact absurd hcase hkind
    | mixin => exact ⟨_, rfl⟩
    | singleton => exact ⟨_, rfl⟩
  · intro hkind
    obtain ⟨parent, hmade⟩ := hsound.graph.filled.newClass_eq hsuper hkind
    exact ⟨parent, by rw [run_newClass, hmade]⟩

theorem run_newModule (state : State) : newModule.run.run state =
    (.ok state.graph.next,
      state.withGraph (state.graph.withPair .mixin none CoreClass.moduleClass.id)) := by
  change (Except.ok state.graph.newModule.1, state.withGraph state.graph.newModule.2) = _
  rw [state.graph.newModule_eq]

/-- In every state that can be reached, a definition of a class or a module that fails leaves the state as it was, and so
does one that succeeds for a name that the scope has already. It is otherwise just where a name that may not name a
constant is new in a scope that is not frozen, and the superclass is a proper class: then it is refused for the name, and
the graph has a new class or module without a name and its metaclass at the end. -/
theorem definition_leaves_behind (hreachable : state.Reachable) (scope : ClassId) (name : String) :
    (∀ superclass : Option ClassId, (∀ above, superclass = some above → state.graph.Has above) →
      let above := superclass.getD CoreClass.object.id
      state.LeavesBehind (defineClass scope name superclass) scope name
        (state.Misnames scope name ∧ (state.graph.record above).kind = .cls) .cls (some above)) ∧
    state.LeavesBehind (defineModule scope name) scope name (state.Misnames scope name) .mixin none := by
  have hsound := hreachable.sound
  constructor
  · intro superclass hsuper above
    have habove : state.graph.Has above := by
      cases superclass with
      | none => exact hsound.graph.stacked.has_core .object
      | some above => exact hsuper above rfl
    obtain ⟨hrefused, hmade⟩ := run_newClass_cases hsound habove
    exact leavesBehind_definition _ _ (state.after_reopenClass · superclass) hrefused hmade
  · have hmodule : state.LeavesBehind (defineModule scope name) scope name
        (state.Misnames scope name ∧ True) .mixin none := by
      refine leavesBehind_definition _ _ (fun existing => ?_) (fun himpossible => absurd trivial himpossible)
        fun _ => ⟨CoreClass.moduleClass.id, state.run_newModule⟩
      rw [after, run_ask_bind]
      split <;> rfl
    rw [and_true] at hmodule
    exact hmodule

/-- A class that is refused for its name stays in the graph. -/
theorem definition_strays :
    let act := defineClass CoreClass.object.id "lower" none
    plain.Reachable ∧ plain.result act = .error (.fault (.constantName "lower")) ∧
      (plain.after act).graph.size = plain.graph.size + 2 := by
  refine ⟨reachable_plain, ?_⟩
  decide +kernel

/-- Under a module no class can be defined, and the module `Kernel` is reopened: in both ways nothing changes. Under a
wrong name a class and a module stray. -/
theorem definition_leaves_plain :
    plain.after (defineClass CoreClass.object.id "Cat" (some CoreClass.kernel.id)) = plain ∧
      plain.after (defineModule CoreClass.object.id "Kernel") = plain ∧
      ∃ parent, plain.after (defineModule CoreClass.object.id "lower") =
        plain.withGraph (plain.graph.withPair .mixin none parent) := by
  have hkernel : ∀ above, some CoreClass.kernel.id = some above → plain.graph.Has above := by
    rintro above ⟨⟩
    exact reachable_plain.sound.graph.stacked.has_core .kernel
  obtain ⟨hkind, hopen, hnew, hown, hfails, hopens⟩ :
      (plain.graph.record CoreClass.kernel.id).kind ≠ .cls ∧
      (plain.graph.record CoreClass.object.id).isFrozen = false ∧
      plain.ownConstant? CoreClass.object.id "lower" = none ∧
      plain.ownConstant? CoreClass.object.id "Kernel" ≠ none ∧
      plain.result (defineClass CoreClass.object.id "Cat" (some CoreClass.kernel.id)) =
        .error (.fault (.typeMismatch "superclass must be a Class")) ∧
      plain.result (defineModule CoreClass.object.id "Kernel") = .ok CoreClass.kernel.id := by
    decide +kernel
  obtain ⟨hclass, -⟩ := definition_leaves_behind reachable_plain CoreClass.object.id "Cat"
  obtain ⟨-, hreopened⟩ := definition_leaves_behind reachable_plain CoreClass.object.id "Kernel"
  obtain ⟨-, hmodule⟩ := definition_leaves_behind reachable_plain CoreClass.object.id "lower"
  exact ⟨(hclass _ hkernel).failed _ hfails fun hstrays => hkind hstrays.2,
    hreopened.reopened _ hopens hown, (hmodule.strayed ⟨hopen, hnew, by decide⟩).2⟩

end State

end ObjectModel
