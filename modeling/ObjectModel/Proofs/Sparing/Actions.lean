import ObjectModel.Proofs.Sparing.Rules

/-! # Sparing actions

Every action of the object model but the removal of a constant is sparing, as long as the bodies that it runs are.
-/

namespace ObjectModel

open Relation

/-! ## Objects and names -/

instance sparing_intern (name : String) : Sparing (intern name) :=
  .of_sameContent fun state => ⟨.refl _, state.names.grows_intern name, rfl⟩

/-- Warning of something else than a constant that is assigned again. -/
theorem sparing_warn {message : String} (hmessage : message ≠ "already initialized constant")
    (scope name : String) : Sparing (warn message scope name) := by
  apply Sparing.of_sameContent
  intro state
  refine ⟨.refl _, List.prefix_rfl, List.countP_append.trans ?_⟩
  rw [List.countP_singleton, if_neg (by simpa using hmessage)]
  rfl

instance sparing_addObject (object : HeapObject) : Sparing (addObject object) :=
  .of_graph fun _ => ⟨rfl, rfl, rfl⟩

instance sparing_changeObject (id : ObjectId) (change : HeapObject → HeapObject) :
    Sparing (changeObject id change) :=
  .of_graph fun _ => ⟨rfl, rfl, rfl⟩

instance sparing_newString (content : String) : Sparing (newString content) := .bind

instance sparing_newArray (items : List Value) : Sparing (newArray items) := .bind

instance sparing_newLiteral (content : String) : Sparing (newLiteral content) := by
  rw [newLiteral]
  infer_instance

instance sparing_configValue (key : String) : Sparing (configValue key) := by
  rw [configValue]
  refine Sparing.andThen fun found => ?_
  cases found <;> infer_instance

/-! ## Constants -/

instance sparing_checkNotFrozen (id : ClassId) : Sparing (checkNotFrozen id) := by
  rw [checkNotFrozen]
  infer_instance

instance sparing_checkConstantName (name : String) : Sparing (checkConstantName name) := by
  rw [checkConstantName]
  infer_instance

instance sparing_constantGet (scope : ClassId) (name : String) : Sparing (constantGet scope name) := by
  rw [constantGet]
  refine Sparing.andThen fun _ => Sparing.andThen fun state => ?_
  have hwarn (owner : ClassId) :
      Sparing (warn "deprecated constant referenced" (state.qualifier owner) name) :=
    sparing_warn (by decide) _ name
  split <;> infer_instance

instance sparing_constantDefined (scope : ClassId) (name : String) (inherited : Bool) :
    Sparing (constantDefined scope name inherited) := by
  rw [constantDefined]
  infer_instance

namespace State

variable {state : State}

theorem run_checkNotFrozen (state : State) (scope : ClassId) :
    (checkNotFrozen scope).run.run state =
      (if (state.graph.record scope).isFrozen then
        .error (.fault (.frozen (state.graph.displayName scope))) else .ok (), state) := by
  rw [checkNotFrozen, run_get_bind]
  split <;> rfl

/-- After the check a class is known not to be frozen. -/
theorem steps_checkNotFrozen {scope : ClassId} {α : Type} {next : Unit → Action α}
    (hnext : (state.graph.record scope).isFrozen = false →
      ReflTransGen SparingStep state (state.after (next ()))) :
    ReflTransGen SparingStep state (state.after (checkNotFrozen scope >>= next)) := by
  rw [after, run_bind, run_checkNotFrozen]
  cases hfrozen : (state.graph.record scope).isFrozen with
  | true => exact .refl
  | false => exact hnext hfrozen

end State

instance sparing_constantSet (scope : ClassId) (name : String) (value : Value) :
    Sparing (constantSet scope name value) where
  steps {state} hsparing := by
    apply State.steps_checkNotFrozen
    intro hopen
    exact State.steps_bind (.single (.assign name value hopen)) fun _ _ => .refl

theorem sparing_flagConstant (scope : ClassId) (name : String) {change : ConstantEntry → ConstantEntry}
    (hvalue : ∀ entry : ConstantEntry, (change entry).value = entry.value) :
    Sparing (flagConstant scope name change) where
  steps {state} hsparing := by
    apply State.steps_checkNotFrozen
    intro hopen
    rw [State.after, State.run_get_bind]
    dsimp only
    split
    next symbol _ => exact .single (.flags symbol hopen hvalue)
    · exact .refl

instance sparing_setConstantPrivate (isPrivate : Bool) (scope : ClassId) (name : String) :
    Sparing (setConstantPrivate isPrivate scope name) :=
  sparing_flagConstant scope name fun _ => rfl

instance sparing_deprecateConstant (scope : ClassId) (name : String) :
    Sparing (deprecateConstant scope name) :=
  sparing_flagConstant scope name fun _ => rfl

/-! ## Variables and freezing -/

/-- Changing what has no part in the content of a record. -/
theorem sparing_changeClass (id : ClassId) (change : ClassRecord → ClassRecord)
    (hchange : ∀ record : ClassRecord, record.SameContent (change record)) :
    Sparing (changeClass id change) :=
  .of_sameContent fun state => ⟨state.graph.sameContent_update id hchange, List.prefix_rfl, rfl⟩

instance sparing_freeze (value : Value) : Sparing (freeze value) := by
  cases value with
  | str id => exact sparing_changeObject id _
  | object id => exact sparing_changeObject id _
  | cls id => exact ⟨fun _ => .single (.freeze id)⟩
  | _ => exact .pure ()

instance sparing_refuseFrozen {α : Type} (value : Value) : Sparing (refuseFrozen value : Action α) := by
  rw [refuseFrozen]
  infer_instance

instance sparing_variableSymbol (name : String) : Sparing (variableSymbol name) := by
  rw [variableSymbol]
  infer_instance

instance sparing_variableGet (value : Value) (name : String) : Sparing (variableGet value name) := by
  rw [variableGet]
  infer_instance

instance sparing_variableSet (value : Value) (name : String) (content : Value) :
    Sparing (variableSet value name content) := by
  have hclass := fun id symbol => sparing_changeClass id (.putVariable symbol content)
    fun _ => ⟨rfl, rfl, rfl, rfl⟩
  cases value <;> (rw [variableSet]; infer_instance)

/-! ## Singleton classes -/

instance sparing_metaclassOf (id : ClassId) : Sparing (metaclassOf id) :=
  .of_sameContent fun state => ⟨state.graph.sameContent_metaclassOf id, List.prefix_rfl, rfl⟩

instance sparing_dispatchClass (value : Value) : Sparing (dispatchClass value) := by
  unfold dispatchClass
  split <;> infer_instance

instance sparing_objectSingleton (value : Value) (id : ObjectId) :
    Sparing (objectSingleton value id) := by
  have hgrown (cls : ClassId) : Sparing (growGraph fun graph => graph.newObjectSingleton value cls) :=
    .of_sameContent fun state => ⟨state.graph.sameContent_add _ _ _ _, List.prefix_rfl, rfl⟩
  rw [objectSingleton]
  refine Sparing.andThen fun object => ?_
  split <;> infer_instance

instance sparing_singletonClassOf (value : Value) : Sparing (singletonClassOf value) := by
  unfold singletonClassOf
  split <;> infer_instance

instance sparing_isA (value : Value) (cls : ClassId) : Sparing (isA value cls) := by
  rw [isA]
  infer_instance

/-! ## Method tables -/

instance sparing_checkMutable (id : ClassId) : Sparing (checkMutable id) := by
  rw [checkMutable]
  refine Sparing.andThen fun _ => Sparing.andThen fun state => ?_
  have hattached : Sparing (match (state.graph.record id).attached with
      | some attached => if state.isFrozen attached then refuseFrozen attached else pure ()
      | none => pure ()) := by
    split <;> infer_instance
  infer_instance

theorem sparing_putMethod (id : ClassId) (name : Symbol) {entry : MethodEntry}
    (hbody : entry.body.Spares) : Sparing (changeClass id (.putMethod name entry)) where
  steps {state} hsparing := by
    refine .single (.methods (fun _ => ⟨rfl, rfl, rfl⟩) ?_)
    intro other pair hpair
    rcases Graph.mem_putMethod hpair with ⟨_, rfl⟩ | hold
    · exact .inl hbody
    · exact .inr hold

instance sparing_eraseMethod (id : ClassId) (name : Symbol) :
    Sparing (changeClass id (.eraseMethod name)) where
  steps _ :=
    .single (.methods (fun _ => ⟨rfl, rfl, rfl⟩) fun _ _ hpair => .inr (Graph.mem_eraseMethod hpair))

theorem sparing_addMethod (id : ClassId) (name : String) {body : Body} (visibility : Visibility)
    (hbody : body.Spares) : Sparing (addMethod id name body visibility) := by
  have hput (symbol : Symbol) :
      Sparing (changeClass id (.putMethod symbol { owner := id, body, visibility })) :=
    sparing_putMethod id symbol hbody
  rw [addMethod]
  infer_instance

theorem sparing_defineMethod (id : ClassId) (name : String) {body : Body} (hbody : body.Spares) :
    Sparing (defineMethod id name body) :=
  sparing_addMethod id name .pub hbody

theorem sparing_defineSingletonMethod (value : Value) (name : String) {body : Body}
    (hbody : body.Spares) : Sparing (defineSingletonMethod value name body) := by
  have hdefine := fun id => sparing_defineMethod id name hbody
  rw [defineSingletonMethod]
  infer_instance

instance sparing_refuseUndefined {α : Type} (id : ClassId) (name : String) :
    Sparing (refuseUndefined id name : Action α) := by
  rw [refuseUndefined]
  infer_instance

instance sparing_removeMethod (id : ClassId) (name : String) : Sparing (removeMethod id name) := by
  rw [removeMethod]
  refine Sparing.andThen fun _ => Sparing.andThen fun state => ?_
  split <;> infer_instance

/-- What is done with a method that was found may rely on its body to spare constants. -/
theorem sparing_named {α : Type} {id : ClassId} {name : String}
    {next : Option (Symbol × MethodEntry) → Action α} (hnone : Sparing (next none))
    (hsome : ∀ symbol entry, entry.body.Spares → Sparing (next (some (symbol, entry)))) :
    Sparing (ask (fun state => state.methodNamed? id name) >>= next) where
  steps {state} hsparing := by
    rw [State.after, State.run_ask_bind]
    cases hnamed : state.methodNamed? id name with
    | none => exact hnone.steps hsparing
    | some found => exact (hsome found.1 found.2 (hsparing.of_named hnamed)).steps hsparing

instance sparing_undefMethod (id : ClassId) (name : String) : Sparing (undefMethod id name) := by
  rw [undefMethod]
  refine Sparing.andThen fun _ => ?_
  exact sparing_named inferInstance fun symbol _ _ => sparing_putMethod id symbol trivial

instance sparing_aliasMethod (id : ClassId) (name old : String) :
    Sparing (aliasMethod id name old) := by
  rw [aliasMethod]
  exact sparing_named inferInstance fun _ entry hbody =>
    sparing_addMethod id name entry.visibility hbody

instance sparing_setVisibility (id : ClassId) (name : String) (visibility : Visibility) :
    Sparing (setVisibility id name visibility) := by
  rw [setVisibility]
  refine sparing_named inferInstance fun _ entry hbody => ?_
  have hput := sparing_addMethod id name visibility hbody
  infer_instance

/-- Mixing in by one of the two operations of the graph. -/
theorem sparing_mixIn (id : ClassId) {mix : Graph → Except Fault (Bool × Graph)}
    (hmix : ∀ {graph added next}, mix graph = .ok (added, next) → graph.SameContent next) :
    Sparing (mixIn id mix) := by
  rw [mixIn]
  refine Sparing.andThen fun _ => ⟨fun {state} _ => ?_⟩
  rw [State.after, State.run_get_bind]
  cases hresult : mix state.graph with
  | error fault => exact .refl
  | ok pair => exact .single (.rest ⟨hmix hresult, List.prefix_rfl, rfl⟩)

instance sparing_includeModule (id mixin : ClassId) : Sparing (includeModule id mixin) :=
  sparing_mixIn id fun hresult =>
    Graph.sameContent_mix (.inl rfl) (Graph.includeModule_cases hresult)

instance sparing_prependModule (id mixin : ClassId) : Sparing (prependModule id mixin) :=
  sparing_mixIn id fun hresult =>
    Graph.sameContent_mix (.inr rfl) (Graph.prependModule_cases hresult)

/-! ## Definitions -/

/-- Making a class or a module leaves the records that are there with their content. -/
theorem State.sameContent_newClass (state : State) (superclass : ClassId) :
    state.SameContent (state.after (newClass superclass)) := by
  rw [after, newClass, run_get_bind]
  cases hresult : state.graph.newClass superclass with
  | error fault => exact ⟨.refl _, List.prefix_rfl, rfl⟩
  | ok pair => exact ⟨Graph.sameContent_newClass hresult, List.prefix_rfl, rfl⟩

theorem State.sameContent_newModule (state : State) : state.SameContent (state.after newModule) :=
  ⟨state.graph.sameContent_newModule, List.prefix_rfl, rfl⟩

instance sparing_newClass (superclass : ClassId) : Sparing (newClass superclass) :=
  .of_sameContent fun state => state.sameContent_newClass superclass

instance sparing_newModule : Sparing newModule := .of_sameContent State.sameContent_newModule

instance sparing_reopenClass (existing : Value) (name : String) (superclass : Option ClassId) :
    Sparing (reopenClass existing name superclass) := by
  rw [reopenClass]
  refine Sparing.andThen fun state => ?_
  split <;> infer_instance

/-- Making a class or a module and naming it in a scope that is not frozen. -/
theorem State.steps_defineNew {state : State} {scope : ClassId}
    (hopen : (state.graph.record scope).isFrozen = false) (name : String) {make : Action ClassId}
    (hmake : state.SameContent (state.after make)) :
    ReflTransGen SparingStep state (state.after (do
      let id ← make
      assignConstant scope name (.cls id)
      pure id)) := by
  refine steps_bind (.single (.rest hmake)) fun id _ => ?_
  have hstill := (hmake.graph scope).isFrozen.trans hopen
  exact steps_bind (.single (.assign name (.cls id) hstill)) fun _ _ => .refl

instance sparing_defineClass (scope : ClassId) (name : String) (superclass : Option ClassId) :
    Sparing (defineClass scope name superclass) where
  steps {state} hsparing := by
    apply State.steps_checkNotFrozen
    intro hopen
    rw [State.after, State.run_ask_bind]
    split
    next existing _ => exact (sparing_reopenClass existing name superclass).steps hsparing
    · exact State.steps_defineNew hopen name (state.sameContent_newClass _)

instance sparing_defineModule (scope : ClassId) (name : String) :
    Sparing (defineModule scope name) where
  steps {state} hsparing := by
    apply State.steps_checkNotFrozen
    intro hopen
    rw [State.after, State.run_ask_bind]
    split
    next existing _ =>
      rw [State.run_ask_bind]
      split <;> exact .refl
    · exact State.steps_defineNew hopen name state.sameContent_newModule

instance sparing_allocateInstance (cls : ClassId) : Sparing (allocateInstance cls) := by
  rw [allocateInstance]
  infer_instance

instance sparing_allocate (cls : ClassId) : Sparing (allocate cls) := by
  rw [allocate]
  refine Sparing.andThen fun state => ?_
  split <;> infer_instance

/-! ## Looking for methods -/

instance sparing_findMethod (receiver : Value) (name : String) :
    Sparing (findMethod receiver name) := by
  rw [findMethod]
  refine Sparing.andThen fun symbol => ?_
  cases symbol <;> infer_instance

instance sparing_respondTo (receiver : Value) (name : String) (includePrivate : Bool) :
    Sparing (respondTo receiver name includePrivate) := by
  rw [respondTo]
  infer_instance

instance sparing_refuseMissing {α : Type} (receiver : Value) (name : String) :
    Sparing (refuseMissing receiver name : Action α) := by
  rw [refuseMissing]
  infer_instance

instance sparing_hasCustomMissing (receiver : Value) : Sparing (hasCustomMissing receiver) := by
  rw [hasCustomMissing]
  infer_instance

/-! ## Calls -/

section

variable {run : Runner} [hrun : run.IsSparing]

/-- What runs the body of a method that was found in a table spares constants. -/
instance sparing_callMissing (receiver : Value) (name : Symbol) (arguments : List Value) :
    Sparing (callMissing run receiver name arguments) := by
  rw [callMissing]
  refine Sparing.andThen fun missing => Sparing.andThen fun start =>
    ⟨fun {state} hsparing => ?_⟩
  rw [State.after, State.run_get_bind]
  split
  next hook hfind =>
    have hbody : hook.body.Spares := by
      split at hfind
      · cases hfind
      · exact hsparing.of_find hfind
    exact (hrun.sparing hbody _ _).steps hsparing
  · exact (sparing_refuseMissing _ _).steps hsparing

instance sparing_dispatch (checked : Bool) (receiver : Value) (name : Symbol)
    (arguments : List Value) : Sparing (dispatch run checked receiver name arguments) := by
  rw [dispatch]
  refine Sparing.andThen fun start => ⟨fun {state} hsparing => ?_⟩
  rw [State.after, State.run_get_bind]
  split
  · exact (sparing_callMissing receiver name arguments).steps hsparing
  next entry hfind =>
    have hcall := hrun.sparing (hsparing.of_find hfind) receiver arguments
    have hchecked : Sparing (if checked && entry.isPrivate then
        refuse (.privateMethod (state.symbolText name) (state.describeReceiver receiver))
      else run entry.body receiver arguments) := inferInstance
    exact hchecked.steps hsparing

instance sparing_dispatchName (checked : Bool) (receiver : Value) (name : String)
    (arguments : List Value) : Sparing (dispatchName run checked receiver name arguments) := by
  rw [dispatchName]
  refine Sparing.andThen fun symbol => ?_
  cases symbol <;> infer_instance

instance sparing_invoke (receiver : Value) (name : String) (arguments : List Value) :
    Sparing (invoke run receiver name arguments) :=
  sparing_dispatchName true receiver name arguments

instance sparing_send (receiver : Value) (name : String) (arguments : List Value) :
    Sparing (send run receiver name arguments) :=
  sparing_dispatchName false receiver name arguments

/-! ## Default encodings -/

instance sparing_convertToText (value : Value) : Sparing (convertToText run value) := by
  rw [convertToText]
  infer_instance

instance sparing_encodingArgument (value : Value) : Sparing (encodingArgument run value) := by
  unfold encodingArgument
  split <;> infer_instance

instance sparing_assignDefault (value : Value)
    (assign : Encoding.Defaults → Encoding.Argument → Except Fault Encoding.Defaults) :
    Sparing (assignDefault run value assign) := by
  have hset (argument : Encoding.Argument) : Sparing (do
      let state ← get
      let defaults ← settle (assign state.defaults argument)
      set { state with defaults }) := by
    apply Sparing.of_graph
    intro state
    rw [State.after, State.run_get_bind]
    cases assign state.defaults argument <;> exact ⟨rfl, rfl, rfl⟩
  rw [assignDefault]
  infer_instance

instance sparing_setDefaultInternal (value : Value) : Sparing (setDefaultInternal run value) := by
  rw [setDefaultInternal]
  infer_instance

instance sparing_setDefaultExternal (value : Value) : Sparing (setDefaultExternal run value) := by
  rw [setDefaultExternal]
  infer_instance

end

end ObjectModel
