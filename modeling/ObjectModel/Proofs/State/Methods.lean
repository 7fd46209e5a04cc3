import ObjectModel.Proofs.State.Definitions

/-! # What singleton classes, method tables and dispatch lead to

A singleton class is made at most once. Method tables are changed only where that is allowed, and what is put into
them was given or found in another table. Dispatch runs only bodies that stand in some table.
-/

namespace ObjectModel

namespace State

variable {state : State}

/-! ## Classes of values -/

theorem leads_metaclassOf {id : ClassId} (hid : state.graph.Has id) :
    state.Leads (metaclassOf id) fun reached metaclass =>
      reached = (Change.metaclassOf id).apply state ∧ reached.graph.Has metaclass := by
  apply Leads.ofSound
  intro hsound
  refine .change (.metaclassOf id) rfl (fun _ => hid) trivial ?_
  intro metaclass hresult
  obtain rfl := Except.ok.inj hresult
  exact ⟨rfl, hsound.graph.stacked.has_metaclassOf hid⟩

theorem Sound.has_classOf (hsound : state.Sound) {value : Value} (hvalue : state.Has value) :
    state.graph.Has (state.classOf value) := by
  have hcore := hsound.graph.stacked.has_core
  cases value with
  | bool flag => cases flag <;> exact hcore _
  | str id =>
      obtain ⟨object, hobject, _⟩ := hvalue
      rw [classOf, Heap.object_of_get hobject]
      exact (hsound.object id object hobject).cls
  | object id =>
      obtain ⟨object, hobject, _⟩ := hvalue
      rw [classOf, Heap.object_of_get hobject]
      exact (hsound.object id object hobject).cls
  | cls id =>
      rw [classOf, Graph.classOfClass]
      split <;> exact hcore _
  | _ => exact hcore _

theorem Sound.has_dispatchClass (hsound : state.Sound) {id : ObjectId} {object : HeapObject}
    (hobject : state.heap.get? id = some object) : state.graph.Has object.dispatchClass := by
  have hfits := hsound.object id object hobject
  rw [HeapObject.dispatchClass]
  cases hsingleton : object.singleton with
  | none => exact hfits.cls
  | some singleton => exact Graph.has_of_attached (hfits.singleton singleton hsingleton).1

theorem leads_dispatchClass {value : Value} (hvalue : state.Has value) :
    state.Leads (dispatchClass value) fun reached start => reached.graph.Has start := by
  apply Leads.ofSound
  intro hsound
  have hobject : ∀ {id object}, state.heap.get? id = some object →
      state.graph.Has (state.heap.object id).dispatchClass := by
    intro id object hobject
    rw [Heap.object_of_get hobject]
    exact hsound.has_dispatchClass hobject
  cases value with
  | str id =>
      obtain ⟨object, hget, _⟩ := hvalue
      exact .ask (hobject hget)
  | object id =>
      obtain ⟨object, hget, _⟩ := hvalue
      exact .ask (hobject hget)
  | cls id => exact (leads_metaclassOf hvalue).mono fun _ _ _ hmade => hmade.2
  | _ => exact .ask (hsound.has_classOf hvalue)

theorem leads_objectSingleton {value : Value} {id : ObjectId} (hvalue : state.Has value)
    (hid : value.objectId? = some id) :
    state.Leads (objectSingleton value id) fun reached singleton =>
      reached.graph.Has singleton := by
  apply Leads.ofSound
  intro hsound
  obtain ⟨object, hobject, _⟩ := object_of_has hvalue hid
  apply Leads.ask_bind
  rw [Heap.object_of_get hobject]
  cases hsingleton : object.singleton with
  | some singleton =>
      have hattached := ((hsound.object id object hobject).singleton singleton hsingleton).1
      exact .pure (Graph.has_of_attached hattached)
  | none =>
      have hfree : (state.heap.object id).singleton = none := by
        rwa [Heap.object_of_get hobject]
      refine .change (.newSingleton value id) ?_ (fun _ => ⟨hvalue, hid, hfree⟩) trivial ?_
      · rw [← Heap.object_of_get hobject]
        rfl
      · intro singleton hresult
        obtain rfl := Except.ok.inj hresult
        exact Graph.has_add_next _ _

theorem leads_singletonClassOf {value : Value} (hvalue : state.Has value) :
    state.Leads (singletonClassOf value) fun reached singleton => reached.graph.Has singleton := by
  apply Leads.ofSound
  intro hsound
  cases value with
  | cls id => exact (leads_metaclassOf hvalue).mono fun _ _ _ hmade => hmade.2
  | str id => exact leads_objectSingleton hvalue rfl
  | object id => exact leads_objectSingleton hvalue rfl
  | nil => exact .ask (hsound.has_classOf hvalue)
  | bool flag => exact .ask (hsound.has_classOf hvalue)
  | _ => exact .refuse _

theorem leads_isA {value : Value} (hvalue : state.Has value) (cls : ClassId) :
    state.Leads (isA value cls) fun _ _ => True :=
  (leads_dispatchClass hvalue).bind fun _ _ _ _ => .ask trivial

/-! ## Method tables -/

theorem looks_checkMutable (id : ClassId) :
    state.Looks (checkMutable id) fun _ => state.IsMutable id := by
  apply Leads.look_bind (looks_checkNotFrozen id)
  intro _ hopen
  apply Leads.get_bind
  apply Leads.ite
  · exact fun _ => .refuse_bind _
  intro hsealed
  have hunsealed : ¬ (state.options.sealCore ∧ (state.graph.record id).isCore) := by
    simpa only [Bool.and_eq_true] using hsealed
  dsimp only
  split
  next attached hattached =>
    apply Leads.ite
    · exact fun _ => leads_refuseFrozen attached
    · intro hfrozen
      refine .pure ⟨rfl, hopen, hunsealed, ?_⟩
      intro other hother
      obtain rfl := Option.some.inj (hattached.symm.trans hother)
      exact Bool.eq_false_of_not_eq_true hfrozen
  next hnone =>
    refine .pure ⟨rfl, hopen, hunsealed, ?_⟩
    intro other hother
    rw [hnone] at hother
    simp at hother

/-- Whether a table may be changed is only looked at. -/
theorem after_checkMutable (state : State) (id : ClassId) : state.after (checkMutable id) = state := by
  have hopen : state.after (checkNotFrozen id) = state := by
    rw [checkNotFrozen, after, run_get_bind]
    split <;> rfl
  rw [checkMutable, after_bind, hopen]
  split
  · rw [after, run_get_bind]
    dsimp only
    split
    · rfl
    · cases (state.graph.record id).attached with
      | none => rfl
      | some attached =>
          dsimp only [pure_bind]
          split <;> rfl
  · rfl

theorem leads_putMethod {id : ClassId} {name : Symbol} {body : Body} (visibility : Visibility)
    (hid : state.graph.Has id) (hname : state.names.Has name) (hbody : state.FitsBody body)
    (hcopied : body.isBuiltin → state.HasMethod id body) (hmutable : state.IsMutable id) :
    state.Leads (ObjectModel.changeClass id (.putMethod name { owner := id, body, visibility }))
      fun _ _ => True :=
  .change (.putMethod id name body visibility) rfl (fun _ => ⟨hid, hname, hbody⟩)
    ⟨hmutable, hcopied⟩ fun _ _ => trivial

theorem leads_addMethod {id : ClassId} (name : String) {body : Body} (visibility : Visibility)
    (hid : state.graph.Has id) (hbody : state.FitsBody body)
    (hcopied : body.isBuiltin → state.HasMethod id body) :
    state.Leads (addMethod id name body visibility) fun reached symbol =>
      reached.names.Has symbol := by
  apply Leads.look_bind (looks_checkMutable id)
  intro _ hmutable
  apply Leads.bind (leads_intern name)
  rintro named symbol hnamed ⟨rfl, hsymbol⟩
  apply Leads.bind (leads_putMethod visibility (hnamed.graph.has hid) hsymbol
    (hnamed.fitsBody hbody) hcopied hmutable)
  rintro reached _ hgrows -
  exact .pure (hgrows.names.has hsymbol)

theorem leads_defineMethod {id : ClassId} (name : String) {body : Body} (hid : state.graph.Has id)
    (hbody : state.FitsBody body) (hown : body.isBuiltin = false) :
    state.Leads (defineMethod id name body) fun reached symbol => reached.names.Has symbol :=
  leads_addMethod name .pub hid hbody fun hbuiltin => by simp [hown] at hbuiltin

theorem leads_defineSingletonMethod {value : Value} (name : String) {body : Body}
    (hvalue : state.Has value) (hbody : state.FitsBody body) (hown : body.isBuiltin = false) :
    state.Leads (defineSingletonMethod value name body) fun reached symbol =>
      reached.names.Has symbol := by
  apply Leads.bind (leads_singletonClassOf hvalue)
  intro reached singleton hgrows hsingleton
  exact leads_defineMethod name hsingleton (hgrows.fitsBody hbody) hown

theorem leads_refuseUndefined {α : Type} (id : ClassId) (name : String)
    {post : State → α → Prop} : state.Leads (refuseUndefined id name) post :=
  .ask_bind (.refuse _)

/-- A method that is found stands in some table, so its body uses what is there. -/
theorem Sound.fitsBody_of_find (hsound : state.Sound) {id : ClassId} {name : Symbol}
    {entry : MethodEntry} (hfind : state.graph.findMethod? id name = some entry) :
    state.FitsBody entry.body := by
  obtain ⟨hfirst, _⟩ := Graph.findMethod_eq_some.mp hfind
  obtain ⟨ancestor, _, hentry⟩ := Graph.exists_of_firstEntry hfirst
  exact ((hsound.record ancestor).methods _ hentry).2.2

theorem methodNamed_eq_some {id : ClassId} {name : String} {symbol : Symbol} {entry : MethodEntry} :
    state.methodNamed? id name = some (symbol, entry) ↔
      state.names.find? name = some symbol ∧ state.graph.findMethod? id symbol = some entry := by
  rw [methodNamed?]
  constructor
  · intro hnamed
    obtain ⟨found, hname, hrest⟩ := Option.bind_eq_some_iff.mp hnamed
    obtain ⟨method, hmethod, hpair⟩ := Option.bind_eq_some_iff.mp hrest
    obtain ⟨rfl, rfl⟩ := Prod.mk.inj (Option.some.inj hpair)
    exact ⟨hname, hmethod⟩
  · rintro ⟨hname, hmethod⟩
    rw [hname, Option.bind_eq_bind, Option.bind_some, hmethod]
    rfl

theorem Sound.methodNamed (hsound : state.Sound) {id : ClassId} {name : String} {symbol : Symbol}
    {entry : MethodEntry} (hnamed : state.methodNamed? id name = some (symbol, entry)) :
    state.names.Has symbol ∧ state.FitsBody entry.body ∧ state.HasMethod id entry.body := by
  obtain ⟨hname, hmethod⟩ := methodNamed_eq_some.mp hnamed
  exact ⟨Interner.has_of_find hname, hsound.fitsBody_of_find hmethod, symbol, entry, hmethod, rfl⟩

theorem leads_removeMethod {id : ClassId} (name : String) (hid : state.graph.Has id) :
    state.Leads (removeMethod id name) fun _ _ => True := by
  apply Leads.look_bind (looks_checkMutable id)
  intro _ hmutable
  apply Leads.get_bind
  split
  next symbol _ =>
    exact .change (.eraseMethod id symbol) rfl (fun _ => hid) hmutable fun _ _ => trivial
  · exact leads_refuseUndefined id name

theorem leads_undefMethod {id : ClassId} (name : String) (hid : state.graph.Has id) :
    state.Leads (undefMethod id name) fun _ _ => True := by
  apply Leads.look_bind (looks_checkMutable id)
  intro _ hmutable
  apply Leads.ofSound
  intro hsound
  apply Leads.ask_bind
  split
  next symbol entry hnamed =>
    exact leads_putMethod .pub hid (hsound.methodNamed hnamed).1 trivial
      (fun hbuiltin => absurd hbuiltin Bool.false_ne_true) hmutable
  · exact leads_refuseUndefined id name

theorem leads_aliasMethod {id : ClassId} (name old : String) (hid : state.graph.Has id) :
    state.Leads (aliasMethod id name old) fun reached symbol => reached.names.Has symbol := by
  apply Leads.ofSound
  intro hsound
  apply Leads.ask_bind
  split
  next symbol entry hnamed =>
    obtain ⟨_, hbody, hhas⟩ := hsound.methodNamed hnamed
    exact leads_addMethod name entry.visibility hid hbody fun _ => hhas
  · exact leads_refuseUndefined id old

theorem leads_setVisibility {id : ClassId} (name : String) (visibility : Visibility)
    (hid : state.graph.Has id) :
    state.Leads (setVisibility id name visibility) fun _ _ => True := by
  apply Leads.ofSound
  intro hsound
  apply Leads.ask_bind
  split
  next symbol entry hnamed =>
    apply Leads.ite
    · intro _
      obtain ⟨_, hbody, hhas⟩ := hsound.methodNamed hnamed
      apply Leads.bind (leads_addMethod name visibility hid hbody fun _ => hhas)
      exact fun _ _ _ _ => .pure trivial
    · exact fun _ => .pure trivial
  · exact leads_refuseUndefined id name

/-- Mixing in by one of the two operations of the graph. -/
theorem leads_mixIn {id : ClassId} (change : Change) {mix : Graph → Except Fault (Bool × Graph)}
    (happly : change.apply state = state.orSame (mix state.graph)) (hfits : change.Fits state)
    (hguarded : state.IsMutable id → change.Guarded state) :
    state.Leads (mixIn id mix) fun _ _ => True := by
  apply Leads.look_bind (looks_checkMutable id)
  intro _ hmutable
  apply Leads.get_bind
  apply Leads.settle_bind
  rintro ⟨added, graph⟩ hresult
  refine .change change ?_ (fun _ => hfits) (hguarded hmutable) fun _ _ => trivial
  rw [happly, hresult]
  rfl

theorem leads_includeModule {id mixin : ClassId} (hid : state.graph.Has id)
    (hmixin : state.graph.Has mixin) : state.Leads (includeModule id mixin) fun _ _ => True :=
  leads_mixIn (.includeModule id mixin) rfl ⟨hid, hmixin⟩ fun hmutable => hmutable

theorem leads_prependModule {id mixin : ClassId} (hid : state.graph.Has id)
    (hmixin : state.graph.Has mixin) : state.Leads (prependModule id mixin) fun _ _ => True :=
  leads_mixIn (.prependModule id mixin) rfl ⟨hid, hmixin⟩ fun hmutable => hmutable

end State

end ObjectModel
