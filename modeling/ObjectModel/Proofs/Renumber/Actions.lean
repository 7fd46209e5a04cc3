import ObjectModel.Dispatch
import ObjectModel.Proofs.Renumber.Rules

/-! # Actions and installation numbers

Every action of the object model does the same with other installation numbers in the state, as long as the
running of bodies does. Only a call can notice the numbers, since it asks whether the hook for missing methods
is the one of the first installation; and it asks only if the name that is called is unknown.
-/

namespace ObjectModel

variable {number : Nat → Nat}

/-! ## Objects and names -/

instance steady_intern (name : String) : Steady number (intern name) := .of_run (fun _ => rfl) fun _ => rfl

instance steady_warn (message scope name : String) : Steady number (warn message scope name) :=
  .modify (fun _ => rfl) fun _ => rfl

instance steady_addObject (object : HeapObject) : Steady number (addObject object) :=
  .of_run (fun _ => rfl) fun _ => rfl

instance steady_changeObject (id : ObjectId) (change : HeapObject → HeapObject) :
    Steady number (changeObject id change) :=
  .modify (fun _ => rfl) fun _ => rfl

instance steady_newString (content : String) : Steady number (newString content) := .bind

instance steady_newArray (items : List Value) : Steady number (newArray items) := .bind

instance steady_newLiteral (content : String) : Steady number (newLiteral content) := by
  have hread : Steady number (ask fun state => state.options.frozenLiterals) := .ask fun _ => rfl
  rw [newLiteral]
  infer_instance

instance steady_configValue (key : String) : Steady number (configValue key) := by
  have hread : Steady number (ask fun state => state.configuration.table.find? key) := .ask fun _ => rfl
  rw [configValue]
  refine Parallel.andThen fun found => ?_
  cases found <;> infer_instance

/-- Changing the class graph in ways that differ at most in the numbers. -/
theorem parallel_changeGraph {change other : Graph → Graph}
    (hchange : ∀ graph : Graph, other (graph.renumber number) = (change graph).renumber number) :
    Parallel number (changeGraph change) (changeGraph other) := by
  refine .modify (fun state => ?_) fun _ => rfl
  rw [State.renumber, hchange]
  rfl

/-- Changing a record in ways that differ at most in the numbers. -/
theorem parallel_changeClass (id : ClassId) {change other : ClassRecord → ClassRecord}
    (hchange : ∀ record : ClassRecord, other (record.renumber number) = (change record).renumber number) :
    Parallel number (changeClass id change) (changeClass id other) :=
  parallel_changeGraph fun graph => graph.update_renumber number id hchange

/-! ## Constants -/

instance steady_checkNotFrozen (id : ClassId) : Steady number (checkNotFrozen id) := by
  rw [checkNotFrozen]
  exact .get_same (fun _ => by simp) fun _ => inferInstance

instance steady_checkConstantName (name : String) : Steady number (checkConstantName name) := by
  rw [checkConstantName]
  infer_instance

instance steady_constantGet (scope : ClassId) (name : String) : Steady number (constantGet scope name) := by
  rw [constantGet]
  refine Parallel.andThen fun _ => .get_same (fun _ => by simp) fun state => ?_
  split <;> infer_instance

instance steady_constantDefined (scope : ClassId) (name : String) (inherited : Bool) :
    Steady number (constantDefined scope name inherited) := by
  have hread : Steady number (ask fun state => (state.resolveConstant? scope name (!inherited)).isSome) :=
    .ask fun _ => by simp
  rw [constantDefined]
  infer_instance

instance steady_nameClass (scope : ClassId) (name : String) (value : Value) :
    Steady number (nameClass scope name value) := by
  cases value with
  | cls id =>
      have hnamed (qualified : String) : Steady number (changeClass id fun record =>
          { record with owner := some scope, name := some qualified }) :=
        parallel_changeClass id fun _ => rfl
      rw [nameClass]
      refine .get_same (fun _ => by simp [ClassRecord.isSingleton]) fun state => ?_
      infer_instance
  | _ => exact .pure ()

instance steady_assignConstant (scope : ClassId) (name : String) (value : Value) :
    Steady number (assignConstant scope name value) := by
  have hput (symbol : Symbol) : Steady number (changeClass scope (.putConstant symbol value)) :=
    parallel_changeClass scope fun _ => rfl
  rw [assignConstant]
  refine Parallel.andThen fun _ => Parallel.andThen fun symbol =>
    .get_same (fun _ => by simp) fun state => ?_
  infer_instance

instance steady_constantSet (scope : ClassId) (name : String) (value : Value) :
    Steady number (constantSet scope name value) := by
  rw [constantSet]
  infer_instance

instance steady_flagConstant (scope : ClassId) (name : String)
    (change : ConstantEntry → ConstantEntry) : Steady number (flagConstant scope name change) := by
  have hflag (symbol : Symbol) : Steady number (changeClass scope (.flagConstant symbol change)) :=
    parallel_changeClass scope fun _ => rfl
  rw [flagConstant]
  refine Parallel.andThen fun _ => .get_same (fun _ => by simp) fun state => ?_
  dsimp only
  split <;> infer_instance

instance steady_setConstantPrivate (isPrivate : Bool) (scope : ClassId) (name : String) :
    Steady number (setConstantPrivate isPrivate scope name) :=
  steady_flagConstant scope name _

instance steady_deprecateConstant (scope : ClassId) (name : String) :
    Steady number (deprecateConstant scope name) :=
  steady_flagConstant scope name _

instance steady_constantRemove (scope : ClassId) (name : String) :
    Steady number (constantRemove scope name) := by
  have herase (symbol : Symbol) : Steady number (changeClass scope (.eraseConstant symbol)) :=
    parallel_changeClass scope fun _ => rfl
  rw [constantRemove]
  refine .get_same (fun _ => by simp) fun state => ?_
  split <;> infer_instance

/-! ## Variables and freezing -/

instance steady_freeze (value : Value) : Steady number (freeze value) := by
  cases value with
  | str id => exact steady_changeObject id _
  | object id => exact steady_changeObject id _
  | cls id => exact parallel_changeClass id fun _ => rfl
  | _ => exact .pure ()

instance steady_isFrozen (value : Value) : Steady number (ask fun state => state.isFrozen value) :=
  .ask fun _ => by simp

instance steady_inspect (value : Value) : Steady number (ask fun state => state.inspect value) :=
  .ask fun _ => by simp

instance steady_refuseFrozen {α : Type} (value : Value) : Steady number (refuseFrozen value : Action α) := by
  rw [refuseFrozen]
  infer_instance

instance steady_variableSymbol (name : String) : Steady number (variableSymbol name) := by
  rw [variableSymbol]
  infer_instance

instance steady_variableGet (value : Value) (name : String) : Steady number (variableGet value name) := by
  have hread (symbol : Symbol) : Steady number (ask fun state => (state.variablesOf value).find? symbol) :=
    .ask fun _ => by simp
  rw [variableGet]
  infer_instance

instance steady_variableSet (value : Value) (name : String) (content : Value) :
    Steady number (variableSet value name content) := by
  have hclass (id : ClassId) (symbol : Symbol) : Steady number (changeClass id (.putVariable symbol content)) :=
    parallel_changeClass id fun _ => rfl
  cases value <;> (rw [variableSet]; infer_instance)

/-! ## Singleton classes -/

/-- Making a record in a way that does not depend on the numbers. -/
theorem steady_growGraph {grow : Graph → ClassId × Graph}
    (hgrow : ∀ graph : Graph, grow (graph.renumber number) = ((grow graph).1, (grow graph).2.renumber number)) :
    Steady number (growGraph grow) := by
  refine .of_run (fun state => ?_) fun _ => rfl
  rw [growGraph, State.run_get_bind, State.renumber_graph, hgrow]
  rfl

instance steady_metaclassOf (id : ClassId) : Steady number (metaclassOf id) :=
  steady_growGraph fun graph => graph.metaclassOf_renumber number id

instance steady_classOf (value : Value) : Steady number (ask fun state => state.classOf value) :=
  .ask fun _ => by simp

instance steady_dispatchClass (value : Value) : Steady number (dispatchClass value) := by
  have hobject (id : ObjectId) : Steady number (ask fun state => (state.heap.object id).dispatchClass) :=
    .ask fun _ => rfl
  unfold dispatchClass
  split <;> infer_instance

instance steady_objectSingleton (value : Value) (id : ObjectId) :
    Steady number (objectSingleton value id) := by
  have hobject : Steady number (ask fun state => state.heap.object id) := .ask fun _ => rfl
  have hmade (cls : ClassId) : Steady number (growGraph fun graph => graph.newObjectSingleton value cls) :=
    steady_growGraph fun graph => graph.addFresh_renumber number _ _ _ _
  rw [objectSingleton]
  refine Parallel.andThen fun object => ?_
  split <;> infer_instance

instance steady_singletonClassOf (value : Value) : Steady number (singletonClassOf value) := by
  unfold singletonClassOf
  split <;> infer_instance

instance steady_isA (value : Value) (cls : ClassId) : Steady number (isA value cls) := by
  have hread (start : ClassId) : Steady number (ask fun state => state.graph.isKindOf start cls) :=
    .ask fun _ => by simp
  rw [isA]
  infer_instance


/-! ## Method tables -/

instance steady_checkMutable (id : ClassId) : Steady number (checkMutable id) := by
  rw [checkMutable]
  refine Parallel.andThen fun _ => .get_same (fun _ => by simp) fun state => ?_
  have hattached : Steady number (match (state.graph.record id).attached with
      | some attached => if state.isFrozen attached then refuseFrozen attached else pure ()
      | none => pure ()) := by
    split <;> infer_instance
  infer_instance

theorem parallel_putMethod (id : ClassId) (name : Symbol) (entry : MethodEntry) :
    Parallel number (changeClass id (.putMethod name entry))
      (changeClass id (.putMethod name (entry.renumber number))) :=
  parallel_changeClass id fun record => record.putMethod_renumber number name entry

instance steady_eraseMethod (id : ClassId) (name : Symbol) :
    Steady number (changeClass id (.eraseMethod name)) :=
  parallel_changeClass id fun record => record.eraseMethod_renumber number name

theorem parallel_addMethod (id : ClassId) (name : String) (body : Body) (visibility : Visibility) :
    Parallel number (addMethod id name body visibility)
      (addMethod id name (body.renumber number) visibility) := by
  have hput (symbol : Symbol) :
      Parallel number (changeClass id (.putMethod symbol { owner := id, body, visibility }))
        (changeClass id (.putMethod symbol { owner := id, body := body.renumber number, visibility })) :=
    parallel_putMethod id symbol { owner := id, body, visibility }
  rw [addMethod, addMethod]
  infer_instance

theorem parallel_defineMethod (id : ClassId) (name : String) (body : Body) :
    Parallel number (defineMethod id name body) (defineMethod id name (body.renumber number)) :=
  parallel_addMethod id name body .pub

theorem parallel_defineSingletonMethod (value : Value) (name : String) (body : Body) :
    Parallel number (defineSingletonMethod value name body)
      (defineSingletonMethod value name (body.renumber number)) := by
  have hdefine (id : ClassId) :
      Parallel number (defineMethod id name body) (defineMethod id name (body.renumber number)) :=
    parallel_defineMethod id name body
  rw [defineSingletonMethod, defineSingletonMethod]
  infer_instance

instance steady_displayName (id : ClassId) :
    Steady number (ask fun state => state.graph.displayName id) :=
  .ask fun _ => by simp

instance steady_refuseUndefined {α : Type} (id : ClassId) (name : String) :
    Steady number (refuseUndefined id name : Action α) := by
  rw [refuseUndefined]
  infer_instance

instance steady_removeMethod (id : ClassId) (name : String) : Steady number (removeMethod id name) := by
  have howns (state : State) : (state.renumber number).ownsMethod id = state.ownsMethod id :=
    funext fun symbol => state.ownsMethod_renumber number id symbol
  rw [removeMethod]
  refine Parallel.andThen fun _ => .get_same (fun state => by simp [howns]) fun state => ?_
  split <;> infer_instance

/-- What is done with a method that was found, which stands there with another number. -/
theorem parallel_named {α : Type} {id : ClassId} {name : String}
    {next last : Option (Symbol × MethodEntry) → Action α} (hnone : Parallel number (next none) (last none))
    (hsome : ∀ symbol entry,
      Parallel number (next (some (symbol, entry))) (last (some (symbol, entry.renumber number)))) :
    Parallel number (ask (fun state => state.methodNamed? id name) >>= next)
      (ask (fun state => state.methodNamed? id name) >>= last) := by
  refine .ask_bind fun state => ?_
  rw [State.methodNamed_renumber]
  cases state.methodNamed? id name with
  | none => exact hnone
  | some found => exact hsome found.1 found.2

instance steady_undefMethod (id : ClassId) (name : String) : Steady number (undefMethod id name) := by
  rw [undefMethod]
  refine Parallel.andThen fun _ => parallel_named inferInstance fun symbol entry => ?_
  exact parallel_putMethod id symbol { owner := id, body := .tombstone, visibility := .pub }

instance steady_aliasMethod (id : ClassId) (name old : String) :
    Steady number (aliasMethod id name old) := by
  rw [aliasMethod]
  exact parallel_named inferInstance fun symbol entry =>
    parallel_addMethod id name entry.body entry.visibility

instance steady_setVisibility (id : ClassId) (name : String) (visibility : Visibility) :
    Steady number (setVisibility id name visibility) := by
  rw [setVisibility]
  refine parallel_named inferInstance fun symbol entry => ?_
  have hadd : Parallel number (addMethod id name entry.body visibility)
      (addMethod id name (entry.body.renumber number) visibility) :=
    parallel_addMethod id name entry.body visibility
  simp only [MethodEntry.renumber_visibility, MethodEntry.renumber_body]
  infer_instance

/-- Making a class graph out of another one, or failing to, in a way that does not depend on the numbers. -/
theorem steady_settleGraph {α : Type} (grow : Graph → Except Fault (α × Graph))
    (hgrow : ∀ graph : Graph, grow (graph.renumber number) =
      (grow graph).map fun grown => (grown.1, grown.2.renumber number)) :
    Steady number (do
      let state ← get
      let (value, graph) ← settle (grow state.graph)
      set { state with graph }
      pure value) := by
  refine .of_run (fun state => ?_) fun state => ?_
  · rw [State.result, State.after, State.run_get_bind, State.run_get_bind, State.renumber_graph, hgrow]
    cases grow state.graph <;> rfl
  · rw [State.after, State.run_get_bind]
    cases grow state.graph <;> rfl

instance steady_includeModule (id mixin : ClassId) : Steady number (includeModule id mixin) := by
  rw [includeModule, mixIn]
  exact .andThen fun _ => steady_settleGraph (fun graph => graph.includeModule id mixin)
    fun graph => graph.includeModule_renumber number id mixin

instance steady_prependModule (id mixin : ClassId) : Steady number (prependModule id mixin) := by
  rw [prependModule, mixIn]
  exact .andThen fun _ => steady_settleGraph (fun graph => graph.prependModule id mixin)
    fun graph => graph.prependModule_renumber number id mixin

/-! ## Definitions -/

instance steady_newClass (superclass : ClassId) : Steady number (newClass superclass) :=
  steady_settleGraph (fun graph => graph.newClass superclass)
    fun graph => graph.newClass_renumber number superclass

instance steady_newModule : Steady number newModule :=
  steady_growGraph fun graph => graph.newModule_renumber number

instance steady_reopenClass (existing : Value) (name : String) (superclass : Option ClassId) :
    Steady number (reopenClass existing name superclass) := by
  rw [reopenClass]
  refine .get_same (fun _ => by simp) fun state => ?_
  split <;> infer_instance

instance steady_ownConstant (scope : ClassId) (name : String) :
    Steady number (ask fun state => state.ownConstant? scope name) :=
  .ask fun _ => by simp

instance steady_defineClass (scope : ClassId) (name : String) (superclass : Option ClassId) :
    Steady number (defineClass scope name superclass) := by
  rw [defineClass]
  refine Parallel.andThen fun _ => Parallel.andThen fun existing => ?_
  cases existing <;> infer_instance

instance steady_defineModule (scope : ClassId) (name : String) :
    Steady number (defineModule scope name) := by
  have hmodule (value : Value) : Steady number (ask fun state => state.module? value) :=
    .ask fun _ => by simp
  rw [defineModule]
  refine Parallel.andThen fun _ => Parallel.andThen fun existing => ?_
  cases existing with
  | none => infer_instance
  | some value =>
      refine Parallel.andThen fun found => ?_
      cases found <;> infer_instance

instance steady_allocateInstance (cls : ClassId) : Steady number (allocateInstance cls) := by
  rw [allocateInstance]
  refine .get_same (fun _ => by simp) fun state => ?_
  infer_instance

instance steady_allocate (cls : ClassId) : Steady number (allocate cls) := by
  rw [allocate]
  refine .get_same (fun _ => by simp) fun state => ?_
  split <;> infer_instance

end ObjectModel
