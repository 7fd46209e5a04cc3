import ObjectModel.Proofs.Confinement.Slot
import ObjectModel.Proofs.FailedDefinitions

/-! # What an operation may change

Every operation on a method, a constant, the mixed in modules or an instance variable has one slot that it may change.
If it fails, it changed nothing; if it succeeds, everything outside its slot is as it was, but that a class which is
assigned to a constant may get its name.
-/

namespace ObjectModel

namespace State

variable {state : State}

/-! ## Confined operations -/

/-- The symbol that a name has or that it gets when it is seen next. -/
def symbolOf (state : State) (name : String) : Symbol := (state.names.intern name).1

theorem symbolOf_of_find {name : String} {symbol : Symbol} (hname : state.names.find? name = some symbol) :
    state.symbolOf name = symbol := by
  rw [symbolOf, Interner.intern_of_find hname]

/-- An operation fails without a change, but that it may have interned the name of an instance variable; and if it ends
with a result, then only a slot, names and warnings differ from what is expected. Names that were seen keep their
symbols in any case. -/
structure Confines {α : Type} (state : State) (act : Action α) (slot : Slot) (expected : State)
    (interned : Option String) : Prop where
  failed : ∀ halt, state.result act = .error halt → state.after act = state ∨
    ∃ name, interned = some name ∧ Name.isVariable name ∧
      state.after act = { state with names := (state.names.intern name).2 }
  done : ∀ value, state.result act = .ok value → slot.SameOutside expected (state.after act)
  names : state.names.Grows (state.after act).names

namespace Confines

variable {α β : Type} {act : Action α} {next : α → Action β} {slot : Slot} {expected : State}
  {interned : Option String}

/-- An action that stops at once. -/
theorem stop {halt : Halt} (hrun : act.run.run state = (.error halt, state)) :
    state.Confines act slot expected interned := by
  refine ⟨fun _ _ => .inl (congrArg Prod.snd hrun), fun value hresult => ?_, ?_⟩
  · rw [result, hrun] at hresult
    cases hresult
  · rw [after, hrun]
    exact List.prefix_refl _

/-- An action that stops once it has interned the name of a variable. -/
theorem stop_interned {halt : Halt} {name : String} (hname : Name.isVariable name)
    (hrun : act.run.run state = (.error halt, { state with names := (state.names.intern name).2 })) :
    state.Confines act slot expected (some name) := by
  refine ⟨fun _ _ => .inr ⟨name, rfl, hname, congrArg Prod.snd hrun⟩, fun value hresult => ?_, ?_⟩
  · rw [result, hrun] at hresult
    cases hresult
  · rw [after, hrun]
    exact state.names.grows_intern name

/-- An action that ends in a state that is as expected outside of the slot. -/
theorem step (value : α) {reached : State} (hrun : act.run.run state = (.ok value, reached))
    (hsame : slot.SameOutside expected reached) (hnames : state.names.Grows reached.names) :
    state.Confines act slot expected interned := by
  refine ⟨fun halt herror => ?_, fun _ _ => ?_, ?_⟩
  · rw [result, hrun] at herror
    cases herror
  · rw [after, hrun]
    exact hsame
  · rw [after, hrun]
    exact hnames

theorem pure (value : α) : state.Confines (pure value) slot state interned :=
  step value rfl (.refl slot state) (List.prefix_refl _)

theorem refuse (fault : Fault) : state.Confines (refuse fault : Action α) slot expected interned :=
  stop rfl

theorem of_run {other : Action α} (hother : state.Confines other slot expected interned)
    (hrun : act.run.run state = other.run.run state) : state.Confines act slot expected interned := by
  obtain ⟨hfailed, hdone, hnames⟩ := hother
  rw [after, ← hrun] at hfailed hdone hnames
  rw [result, ← hrun] at hfailed hdone
  exact ⟨hfailed, hdone, hnames⟩

theorem get_bind {next : State → Action β}
    (hnext : state.Confines (next state) slot expected interned) :
    state.Confines (get >>= next) slot expected interned := .of_run hnext rfl

theorem ask_bind {read : State → α} (hnext : state.Confines (next (read state)) slot expected interned) :
    state.Confines (ask read >>= next) slot expected interned := .of_run hnext rfl

/-- An action that only looks comes before one that is confined. -/
theorem look_bind (hlook : state.after act = state)
    (hnext : ∀ value, state.Confines (next value) slot expected interned) :
    state.Confines (act >>= next) slot expected interned := by
  have hrun : act.run.run state = (state.result act, state) := Prod.ext rfl hlook
  cases hresult : state.result act with
  | error halt =>
      rw [hresult] at hrun
      apply stop
      rw [run_bind, hrun]
  | ok value =>
      rw [hresult] at hrun
      exact .of_run (hnext value) (run_bind_of_ok hrun next)

/-- What is returned does not matter. -/
theorem bind_pure (hact : state.Confines act slot expected interned) (answer : α → β) :
    state.Confines (act >>= fun value => Pure.pure (answer value)) slot expected interned := by
  have hafter : state.after (act >>= fun value => Pure.pure (answer value)) = state.after act := by
    rw [after_bind]
    split <;> rfl
  have hresult : state.result (act >>= fun value => Pure.pure (answer value)) =
      (state.result act).map answer := by
    rw [result, run_bind, result]
    cases act.run.run state with
    | mk outcome reached => cases outcome <;> rfl
  obtain ⟨hfailed, hdone, hnames⟩ := hact
  rw [← hafter] at hfailed hdone hnames
  refine ⟨?_, ?_, hnames⟩
  · intro halt herror
    rw [hresult] at herror
    cases hcase : state.result act with
    | error other => exact hfailed other hcase
    | ok value =>
        rw [hcase] at herror
        cases herror
  · intro other hother
    rw [hresult] at hother
    cases hcase : state.result act with
    | error halt =>
        rw [hcase] at hother
        cases hother
    | ok value => exact hdone value hcase

/-- A change of the record of a class that only reaches the slot. -/
theorem changeClass {id : ClassId} {change clear : ClassRecord → ClassRecord}
    (hslot : ∀ state : State, slot.clear state = state.changeClass id clear)
    (habsorb : ∀ record, clear (change record) = clear record) :
    state.Confines (ObjectModel.changeClass id change) slot state interned :=
  step _ rfl (Slot.sameOutside_changeClass hslot habsorb state state.names state.warnings)
    (List.prefix_refl _)

end Confines

/-! ## Method tables -/

theorem confines_addMethod (state : State) (id : ClassId) (name : String) (body : Body)
    (visibility : Visibility) :
    state.Confines (addMethod id name body visibility) (.method id (state.symbolOf name)) state none := by
  have hrun := state.run_addMethod id name body visibility
  cases hcheck : state.result (checkMutable id) with
  | error halt =>
      rw [hcheck] at hrun
      exact .stop hrun
  | ok _ =>
      rw [hcheck] at hrun
      exact .step _ hrun
        (Slot.sameOutside_changeClass (fun _ => rfl) (Slot.eraseMethod_putMethod _ _) state _ _)
        (state.names.grows_intern name)

theorem confines_refuseUndefined {α : Type} {slot : Slot} {expected : State}
    {interned : Option String} (id : ClassId) (name : String) :
    state.Confines (refuseUndefined id name : Action α) slot expected interned :=
  .ask_bind (.refuse _)

theorem confines_removeMethod (state : State) (id : ClassId) (name : String) :
    state.Confines (removeMethod id name) (.method id (state.symbolOf name)) state none := by
  refine .look_bind (state.after_checkMutable id) fun _ => .get_bind ?_
  split
  next symbol hsymbol =>
    rw [symbolOf_of_find (Option.eq_some_of_filter_eq_some hsymbol)]
    exact .changeClass (fun _ => rfl) (Slot.eraseMethod_eraseMethod symbol)
  · exact confines_refuseUndefined id name

theorem confines_undefMethod (state : State) (id : ClassId) (name : String) :
    state.Confines (undefMethod id name) (.method id (state.symbolOf name)) state none := by
  refine .look_bind (state.after_checkMutable id) fun _ => .ask_bind ?_
  split
  next symbol entry hnamed =>
    rw [symbolOf_of_find (methodNamed_eq_some.mp hnamed).1]
    exact .changeClass (fun _ => rfl) (Slot.eraseMethod_putMethod symbol _)
  · exact confines_refuseUndefined id name

theorem confines_aliasMethod (state : State) (id : ClassId) (name old : String) :
    state.Confines (aliasMethod id name old) (.method id (state.symbolOf name)) state none := by
  refine .ask_bind ?_
  split
  next entry _ => exact state.confines_addMethod id name entry.body entry.visibility
  · exact confines_refuseUndefined id old

theorem confines_setVisibility (state : State) (id : ClassId) (name : String) (visibility : Visibility) :
    state.Confines (setVisibility id name visibility) (.method id (state.symbolOf name)) state none := by
  refine .ask_bind ?_
  split
  next entry _ =>
    split
    · exact (state.confines_addMethod id name entry.body visibility).bind_pure fun _ => ()
    · exact .pure ()
  · exact confines_refuseUndefined id name

theorem mix_changes {side : Side} {graph next : Graph} {id mixin : ClassId} {added : Bool}
    (hresult : side.mix graph id mixin = .ok (added, next)) :
    next = graph ∨ next = graph.update id (side.change mixin) := by
  cases side with
  | front => exact (Graph.prependModule_cases hresult).imp_right And.left
  | behind => exact (Graph.includeModule_cases hresult).imp_right And.left

theorem confines_mixIn (state : State) (side : Side) (id mixin : ClassId) :
    state.Confines (side.operation id mixin) (.mixins side id) state none := by
  have hrun := state.run_mixIn id fun graph => side.mix graph id mixin
  rw [← operation_eq] at hrun
  cases hcheck : state.result (checkMutable id) with
  | error halt =>
      rw [hcheck] at hrun
      exact .stop hrun
  | ok _ =>
      cases hmix : side.mix state.graph id mixin with
      | error fault =>
          rw [hcheck, hmix] at hrun
          exact .stop hrun
      | ok pair =>
          obtain ⟨added, graph⟩ := pair
          rw [hcheck, hmix] at hrun
          rcases mix_changes hmix with rfl | rfl
          · exact .step _ hrun (.refl _ state) (List.prefix_refl _)
          · exact .step _ hrun
              (Slot.sameOutside_changeClass (fun _ => rfl) (Slot.clearSide_change side mixin) state _ _)
              (List.prefix_refl _)

/-! ## Constants -/

theorem confines_flagConstant (state : State) (scope : ClassId) (name : String)
    (change : ConstantEntry → ConstantEntry) :
    state.Confines (flagConstant scope name change) (.constant scope (state.symbolOf name)) state none := by
  refine .look_bind (congrArg Prod.snd (state.run_checkNotFrozen scope)) fun _ => .get_bind ?_
  dsimp only
  split
  next symbol hsymbol =>
    rw [symbolOf_of_find (Option.eq_some_of_filter_eq_some hsymbol)]
    exact .changeClass (fun _ => rfl) (Slot.eraseConstant_flagConstant symbol change)
  · exact .refuse _

/-- A class is named if it has no name and is no singleton class. -/
theorem after_nameClass_cls (state : State) (scope id : ClassId) (name : String) :
    state.after (nameClass scope name (.cls id)) =
      if (state.graph.record id).name.isNone && !(state.graph.record id).isSingleton then
        (Change.nameClass scope id (state.qualifiedName scope name)).apply state
      else state := by
  rw [after, nameClass, run_get_bind]
  dsimp only
  split <;> rfl

/-- Names do not depend on the constants. -/
theorem displayName_putConstant (graph : Graph) (scope : ClassId) (symbol : Symbol) (value : Value) :
    Graph.displayName (graph.update scope (.putConstant symbol value)) = graph.displayName := by
  have hkept := @Graph.forall_record_update (fun before after =>
    after.name = before.name ∧ after.kind = before.kind ∧ after.attached = before.attached ∧
      after.superclass = before.superclass) graph scope (.putConstant symbol value)
    (fun _ => ⟨rfl, rfl, rfl, rfl⟩) fun _ => ⟨rfl, rfl, rfl, rfl⟩
  have hwithin : ∀ bound,
      Graph.displayWithin (graph.update scope (.putConstant symbol value)) bound =
        graph.displayWithin bound := by
    intro bound
    induction bound with
    | zero => rfl
    | succ bound ih =>
        funext id
        obtain ⟨hname, hkind, hattached, hsuper⟩ := hkept id
        rw [Graph.displayWithin, Graph.displayWithin, hname, hkind, hattached, hsuper, ih]
  funext id
  rw [Graph.displayName, hwithin, Graph.displayName]

theorem withConstant_eq (state : State) (scope : ClassId) (name : String) (value : Value) :
    ∃ warnings, state.withConstant scope name value =
      { state.changeClass scope (.putConstant (state.symbolOf name) value) with
        names := (state.names.intern name).2, warnings } := by
  rw [withConstant]
  dsimp only
  split
  · exact ⟨_, rfl⟩
  · exact ⟨_, rfl⟩

/-- It does not matter whether what is assigned gets its name before it is assigned or afterwards. -/
theorem after_nameClass_withConstant (state : State) (scope : ClassId) (name : String) (value : Value) :
    ∃ warnings, (state.withConstant scope name value).after (nameClass scope name value) =
      { (state.after (nameClass scope name value)).changeClass scope
          (.putConstant (state.symbolOf name) value) with
        names := (state.names.intern name).2, warnings } := by
  obtain ⟨warnings, hassigned⟩ := state.withConstant_eq scope name value
  refine ⟨warnings, ?_⟩
  cases value with
  | cls id =>
      have hrecord := @Graph.forall_record_update (fun before after =>
        after.name = before.name ∧ after.isSingleton = before.isSingleton) state.graph scope
        (.putConstant (state.symbolOf name) (.cls id)) (fun _ => ⟨rfl, rfl⟩) (fun _ => ⟨rfl, rfl⟩) id
      have hqualified : (state.withConstant scope name (.cls id)).qualifiedName scope name =
          state.qualifiedName scope name := by
        rw [qualifiedName, graph_withConstant, displayName_putConstant, qualifiedName]
      have hgraph : (state.withConstant scope name (.cls id)).graph =
          state.graph.update scope (.putConstant (state.symbolOf name) (.cls id)) :=
        state.graph_withConstant scope name (.cls id)
      rw [← hgraph] at hrecord
      rw [after_nameClass_cls, after_nameClass_cls, hqualified, hrecord.1, hrecord.2]
      split
      -- one record may be both the scope and what is assigned, so the two changes have to commute
      · have hswap := modify_comm (ClassRecord.putConstant (state.symbolOf name) (.cls id))
          (fun record => { record with
            owner := some scope, name := some (state.qualifiedName scope name) })
          (fun _ => rfl) state.graph.classes scope.index id.index
        rw [hassigned]
        exact congrArg (fun classes =>
          { state with graph := ⟨classes⟩, names := (state.names.intern name).2, warnings }) hswap
      · exact hassigned
  | _ => exact hassigned

theorem confines_constantSet (state : State) (scope : ClassId) (name : String) (value : Value) :
    state.Confines (constantSet scope name value) (.constant scope (state.symbolOf name))
      (state.after (nameClass scope name value)) none := by
  refine .look_bind (congrArg Prod.snd (state.run_checkNotFrozen scope)) fun _ => .bind_pure ?_ _
  by_cases hname : Name.isConstant name
  · obtain ⟨warnings, hnamed⟩ := state.after_nameClass_withConstant scope name value
    have hafter := (state.after_assignConstant scope value hname).trans hnamed
    exact .step () (Prod.ext (state.result_assignConstant scope value hname) hafter)
      (Slot.sameOutside_changeClass (fun _ => rfl) (Slot.eraseConstant_putConstant _ value) _ _ warnings)
      (state.names.grows_intern name)
  · exact .stop (Prod.ext (state.result_assignConstant_of_not scope value hname)
      (state.after_assignConstant_of_not scope value hname))

/-! ## Variables -/

/-- Setting a variable fails with the state as it was but for the name, or changes the slot. -/
theorem confines_variableSet (state : State) (value : Value) (name : String) (content : Value) :
    state.Confines (variableSet value name content) (.ofVariable value (state.symbolOf name)) state
      (some name) := by
  by_cases hname : Name.isVariable name
  · -- from here on the name is interned, whether the value may be changed or not
    have hinterned : (variableSymbol name).run.run state =
        (.ok (state.symbolOf name), { state with names := (state.names.intern name).2 }) := by
      rw [variableSymbol, if_pos hname]
      rfl
    cases hfrozen : State.isFrozen { state with names := (state.names.intern name).2 } value with
    | true =>
        obtain ⟨halt, hrun⟩ : ∃ halt, (variableSet value name content).run.run state =
            (.error halt, { state with names := (state.names.intern name).2 }) := by
          rw [variableSet, run_bind_of_ok hinterned, run_ask_bind, hfrozen]
          exact ⟨_, rfl⟩
        exact .stop_interned hname hrun
    | false =>
        have hobject (id : ObjectId) : Slot.SameOutside (.objectVariable id (state.symbolOf name)) state
            { state.changeObject id (.putVariable (state.symbolOf name) content) with
              names := (state.names.intern name).2 } :=
          Slot.sameOutside_putVariable id _ content state _ _
        have hclass (id : ClassId) : Slot.SameOutside (.classVariable id (state.symbolOf name)) state
            { state.changeClass id (.putVariable (state.symbolOf name) content) with
              names := (state.names.intern name).2 } :=
          Slot.sameOutside_changeClass (fun _ => rfl) (Slot.eraseVariable_putVariable _ content) state _ _
        have hgrows := state.names.grows_intern name
        cases value with
        | str id =>
            refine .step content ?_ (hobject id) hgrows
            rw [variableSet, run_bind_of_ok hinterned, run_ask_bind, hfrozen]
            rfl
        | object id =>
            refine .step content ?_ (hobject id) hgrows
            rw [variableSet, run_bind_of_ok hinterned, run_ask_bind, hfrozen]
            rfl
        | cls id =>
            refine .step content ?_ (hclass id) hgrows
            rw [variableSet, run_bind_of_ok hinterned, run_ask_bind, hfrozen]
            rfl
        | _ => cases hfrozen
  · have hrun : (variableSet value name content).run.run state =
        (.error (.fault (.variableName name)), state) := by
      rw [variableSet, run_bind, variableSymbol, if_neg hname]
      rfl
    exact .stop hrun

/-! ## All operations -/

/-- What naming does to a state: nothing, or it gives a class that has no name and is no singleton class its name
and its owner. -/
theorem after_nameClass_cases (state : State) (scope : ClassId) (name : String) (value : Value) :
    state.after (nameClass scope name value) = state ∨ ∃ id, value = .cls id ∧
      (state.graph.record id).name = none ∧ (state.graph.record id).isSingleton = false ∧
      state.after (nameClass scope name value) =
        (Change.nameClass scope id (state.qualifiedName scope name)).apply state := by
  cases value with
  | cls id =>
      rw [after_nameClass_cls]
      split
      next hfresh =>
        simp only [Bool.and_eq_true, Option.isNone_iff_eq_none, Bool.not_eq_true'] at hfresh
        exact .inr ⟨id, rfl, hfresh.1, hfresh.2, rfl⟩
      · exact .inl rfl
  | _ => exact .inl rfl

/-- In every state each of the operations either fails with the state as it was, but that setting an instance variable
may have interned its name, or changes at most its slot: the entry of its name in one table, or the modules on one side
of a class. Only a class that is assigned to a constant may get its name and its owner besides. States that are the same
outside of a slot have everything else in common. -/
theorem operations_confined (state : State) :
    (∀ id name body,
      state.Confines (defineMethod id name body) (.method id (state.symbolOf name)) state none) ∧
    (∀ id name, state.Confines (removeMethod id name) (.method id (state.symbolOf name)) state none) ∧
    (∀ id name, state.Confines (undefMethod id name) (.method id (state.symbolOf name)) state none) ∧
    (∀ id name old,
      state.Confines (aliasMethod id name old) (.method id (state.symbolOf name)) state none) ∧
    (∀ id name visibility,
      state.Confines (setVisibility id name visibility) (.method id (state.symbolOf name)) state none) ∧
    (∀ id mixin, state.Confines (includeModule id mixin) (.mixins .behind id) state none) ∧
    (∀ id mixin, state.Confines (prependModule id mixin) (.mixins .front id) state none) ∧
    (∀ scope name value,
      state.Confines (constantSet scope name value) (.constant scope (state.symbolOf name))
        (state.after (nameClass scope name value)) none) ∧
    (∀ isPrivate scope name,
      state.Confines (setConstantPrivate isPrivate scope name) (.constant scope (state.symbolOf name))
        state none) ∧
    (∀ scope name,
      state.Confines (deprecateConstant scope name) (.constant scope (state.symbolOf name)) state none) ∧
    (∀ value name content,
      state.Confines (variableSet value name content) (.ofVariable value (state.symbolOf name)) state
        (some name)) ∧
    (∀ scope name value, state.after (nameClass scope name value) = state ∨ ∃ id, value = .cls id ∧
      (state.graph.record id).name = none ∧ (state.graph.record id).isSingleton = false ∧
      state.after (nameClass scope name value) =
        (Change.nameClass scope id (state.qualifiedName scope name)).apply state) ∧
    ∀ slot first second, Slot.SameOutside slot first second → slot.Untouched first second := by
  refine ⟨fun id name body => state.confines_addMethod id name body .pub, state.confines_removeMethod,
    state.confines_undefMethod, state.confines_aliasMethod, state.confines_setVisibility,
    state.confines_mixIn .behind, state.confines_mixIn .front, state.confines_constantSet,
    fun isPrivate scope name => state.confines_flagConstant scope name _,
    fun scope name => state.confines_flagConstant scope name _, state.confines_variableSet,
    state.after_nameClass_cases, fun _ _ _ => Slot.SameOutside.untouched⟩

/-- A method that is defined for all objects changes nothing but its own entry: the classes are as many as before, and
the record of strings is the same. A method of a module that is not there is not removed, and nothing changes. -/
theorem operations_confined_plain :
    let defined := plain.after (defineMethod CoreClass.object.id "greet" (.reader "@name"))
    defined.graph.size = plain.graph.size ∧
      defined.graph.record CoreClass.string.id = plain.graph.record CoreClass.string.id ∧
      plain.after (removeMethod CoreClass.kernel.id "greet") = plain := by
  intro defined
  obtain ⟨hdefine, hremove, -, -, -, -, -, -, -, -, -, -, huntouched⟩ := operations_confined plain
  obtain ⟨hdone, hfails⟩ :
      (plain.result (defineMethod CoreClass.object.id "greet" (.reader "@name"))).isOk ∧
      plain.result (removeMethod CoreClass.kernel.id "greet") =
        .error (.fault (.methodNotDefined "greet" "Kernel")) := by
    decide +kernel
  obtain ⟨symbol, hsymbol⟩ : ∃ symbol,
      plain.result (defineMethod CoreClass.object.id "greet" (.reader "@name")) = .ok symbol := by
    cases hcase : plain.result (defineMethod CoreClass.object.id "greet" (.reader "@name")) with
    | ok symbol => exact ⟨symbol, rfl⟩
    | error halt =>
        rw [hcase] at hdone
        cases hdone
  have hsame := huntouched _ _ _ ((hdefine CoreClass.object.id "greet" (.reader "@name")).done symbol hsymbol)
  refine ⟨hsame.classes, hsame.others _ (by simp [Slot.class?, CoreClass.id]), ?_⟩
  rcases (hremove CoreClass.kernel.id "greet").failed _ hfails with hkept | ⟨_, hname, _⟩
  · exact hkept
  · cases hname

end State

end ObjectModel
