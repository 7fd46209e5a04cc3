import ObjectModel.Proofs.State.Run

/-! # What actions on objects and variables lead to

New objects have the payload that their class asks for. Instance variables are set and objects frozen only where the
guards allow it.
-/

namespace ObjectModel

/-! ## Chains of core classes -/

theorem Graph.Sound.chain_of_child {graph : Graph} (hsound : graph.Sound) {core : CoreClass}
    (hcore : core.superclass? = some .object) :
    graph.superclassChain core.id = [core, .object, .basicObject].map CoreClass.id := by
  have hsuper (core : CoreClass) : graph.superclass? core.id = core.superclass?.map CoreClass.id :=
    hsound.mirrored.core_superclass core
  have hfirst : graph.superclass? core.id = some CoreClass.object.id := by
    rw [hsuper, hcore]
    rfl
  rw [hsound.stacked.superclassChain_of_some hfirst,
    hsound.stacked.superclassChain_of_some (hsuper .object),
    hsound.stacked.superclassChain_of_none (hsuper .basicObject)]
  rfl

theorem Graph.Sound.mem_chain_of_child {graph : Graph} (hsound : graph.Sound)
    {core other : CoreClass} (hcore : core.superclass? = some .object) :
    other.id ∈ graph.superclassChain core.id ↔ other ∈ [core, .object, .basicObject] := by
  rw [hsound.chain_of_child hcore, List.mem_map_of_injective CoreClass.id_injective]

/-- Being of a core class that is no module means to have it on the superclass chain. -/
theorem Graph.Sound.isKindOf_core {graph : Graph} (hsound : graph.Sound) {id : ClassId}
    (hid : graph.Has id) {core : CoreClass} (hcore : core.kind = .cls) :
    graph.isKindOf id core.id ↔ core.id ∈ graph.superclassChain id :=
  hsound.stacked.isKindOf_of_not_module hid (hsound.mirrored.isModule_core hcore)

namespace State

variable {state : State}

/-- An action gives a value that stands for something. -/
abbrev Gives (state : State) (act : Action Value) : Prop :=
  state.Leads act fun reached value => reached.Has value

theorem leads_intern (name : String) : state.Leads (intern name) fun reached symbol =>
    reached = (Change.intern name).apply state ∧ reached.names.Has symbol := by
  apply Leads.change (.intern name) rfl (fun _ => trivial) trivial
  intro symbol hresult
  obtain rfl := Except.ok.inj hresult
  exact ⟨rfl, state.names.has_intern name⟩

theorem leads_warn (message scope name : String) :
    state.Leads (warn message scope name) fun reached _ =>
      reached = (Change.warn { message, scope, name }).apply state := by
  apply Leads.change (.warn { message, scope, name }) rfl (fun _ => trivial) trivial
  exact fun _ _ => rfl

/-! ## New objects -/

/-- A new object with the payload that its class asks for. -/
theorem fitsObject_new (id : ObjectId) {cls : ClassId}
    {payload : Payload} (isFrozen : Bool) (hcls : state.graph.Has cls)
    (hkind : (state.graph.record cls).kind = .cls)
    (hallocatable : ∀ core ∈ withoutInstances, core.id ∉ state.graph.superclassChain cls)
    (htext : (HeapObject.fresh cls payload).text?.isSome ↔
      CoreClass.string.id ∈ state.graph.superclassChain cls)
    (harray : (HeapObject.fresh cls payload).items?.isSome ↔
      CoreClass.array.id ∈ state.graph.superclassChain cls)
    (hitems : ∀ items, payload = .array items → ∀ item ∈ items, state.Has item) :
    state.FitsObject id { HeapObject.fresh cls payload with isFrozen } := by
  refine ⟨hcls, hkind, hallocatable, htext, harray, ?_, ?_, ?_⟩
  · intro pair hpair
    simp [HeapObject.fresh, Table.empty] at hpair
  · intro items hget
    cases payload with
    | array found =>
        obtain rfl := Option.some.inj hget
        exact hitems found rfl
    | plain => simp [HeapObject.items?, HeapObject.fresh] at hget
    | text content => simp [HeapObject.items?, HeapObject.fresh] at hget
  · intro singleton hsingleton
    simp [HeapObject.fresh] at hsingleton

theorem Sound.fitsObject_text (hsound : state.Sound) (id : ObjectId) (content : String)
    (isFrozen : Bool) :
    state.FitsObject id { HeapObject.fresh CoreClass.string.id (.text content) with isFrozen } := by
  have hchain : ∀ other : CoreClass,
      other.id ∈ state.graph.superclassChain CoreClass.string.id ↔
        other ∈ [CoreClass.string, .object, .basicObject] :=
    fun _ => hsound.graph.mem_chain_of_child rfl
  apply fitsObject_new id isFrozen (hsound.graph.stacked.has_core .string)
    (hsound.graph.mirrored.core_kind .string)
  · intro core hcore
    rw [hchain]
    revert hcore
    cases core <;> decide
  · rw [hchain]
    exact iff_of_true rfl (by decide)
  · rw [hchain]
    exact iff_of_false Bool.false_ne_true (by decide)
  · intro items hpayload
    cases hpayload

theorem Sound.fitsObject_array (hsound : state.Sound) (id : ObjectId) {items : List Value}
    (hitems : ∀ item ∈ items, state.Has item) :
    state.FitsObject id (.fresh CoreClass.array.id (.array items)) := by
  have hchain : ∀ other : CoreClass,
      other.id ∈ state.graph.superclassChain CoreClass.array.id ↔
        other ∈ [CoreClass.array, .object, .basicObject] :=
    fun _ => hsound.graph.mem_chain_of_child rfl
  apply fitsObject_new id false (hsound.graph.stacked.has_core .array)
    (hsound.graph.mirrored.core_kind .array)
  · intro core hcore
    rw [hchain]
    revert hcore
    cases core <;> decide
  · rw [hchain]
    exact iff_of_false Bool.false_ne_true (by decide)
  · rw [hchain]
    exact iff_of_true rfl (by decide)
  · intro found hpayload
    obtain rfl := Payload.array.inj hpayload
    exact hitems

theorem leads_addObject {object : HeapObject}
    (hfits : state.Sound → state.FitsObject state.heap.next object)
    (hfree : object.singleton = none) :
    state.Leads (addObject object) fun reached id =>
      reached = (Change.addObject object).apply state ∧ reached.heap.get? id = some object := by
  apply Leads.change (.addObject object) rfl (fun hsound => ⟨hfits hsound, hfree⟩) trivial
  intro id hresult
  obtain rfl := Except.ok.inj hresult
  exact ⟨rfl, state.heap.get_add_next object⟩

theorem has_str {id : ObjectId} {object : HeapObject} (hobject : state.heap.get? id = some object)
    (htext : object.text?.isSome) : state.Has (.str id) :=
  ⟨object, hobject, htext⟩

theorem has_object {id : ObjectId} {object : HeapObject}
    (hobject : state.heap.get? id = some object) (htext : object.text? = none) :
    state.Has (.object id) :=
  ⟨object, hobject, htext⟩

theorem gives_newString (content : String) : state.Gives (newString content) := by
  apply Leads.bind
    (leads_addObject (fun hsound => hsound.fitsObject_text state.heap.next content false) rfl)
  rintro reached id _ ⟨_, hobject⟩
  exact .pure (has_str hobject rfl)

theorem gives_newArray {items : List Value} (hitems : ∀ item ∈ items, state.Has item) :
    state.Gives (newArray items) := by
  apply Leads.bind
    (leads_addObject (fun hsound => hsound.fitsObject_array state.heap.next hitems) rfl)
  rintro reached id _ ⟨_, hobject⟩
  exact .pure (has_object hobject rfl)

theorem leads_freeze {value : Value} (hvalue : state.Has value) :
    state.Leads (freeze value) fun reached _ => reached = (Change.freeze value).apply state := by
  apply Leads.change (.freeze value) _ (fun _ => hvalue) trivial (fun _ _ => rfl)
  cases value <;> rfl

theorem gives_newLiteral (content : String) : state.Gives (newLiteral content) := by
  apply Leads.bind
    (leads_addObject (fun hsound => hsound.fitsObject_text state.heap.next content false) rfl)
  rintro reached id _ ⟨_, hobject⟩
  have hid := has_str hobject rfl
  apply Leads.ask_bind
  apply Leads.ite
  · intro _
    apply Leads.bind (leads_freeze hid)
    rintro last _ hgrows _
    exact .pure (hgrows.has hid)
  · intro _
    exact .pure hid

theorem gives_configValue (key : String) : state.Gives (configValue key) := by
  apply Leads.ask_bind
  cases state.configuration.table.find? key with
  | none => exact .pure trivial
  | some entry =>
      apply Leads.bind (leads_addObject
        (fun hsound => hsound.fitsObject_text state.heap.next entry.value entry.frozen) rfl)
      rintro reached id _ ⟨_, hobject⟩
      exact .pure (has_str hobject rfl)

/-! ## Instance variables -/

theorem leads_variableSymbol (name : String) :
    state.Leads (variableSymbol name) fun reached symbol =>
      reached = (Change.intern name).apply state ∧ reached.names.Has symbol :=
  .ite (fun _ => leads_intern name) fun _ => .refuse _

theorem leads_refuseFrozen {α : Type} (value : Value) {post : State → α → Prop} :
    state.Leads (refuseFrozen value) post :=
  .ask_bind (.refuse _)

/-- The variables of a value hold what is there. -/
theorem Sound.fitsVariables (hsound : state.Sound) {value : Value} (hvalue : state.Has value) :
    state.FitsVariables (state.variablesOf value) := by
  cases value with
  | str id =>
      obtain ⟨object, hobject, _⟩ := hvalue
      rw [variablesOf, Heap.object_of_get hobject]
      exact (hsound.object id object hobject).ownVariables
  | object id =>
      obtain ⟨object, hobject, _⟩ := hvalue
      rw [variablesOf, Heap.object_of_get hobject]
      exact (hsound.object id object hobject).ownVariables
  | cls id => exact (hsound.record id).ownVariables
  | _ =>
      intro pair hpair
      simp [variablesOf, Table.empty] at hpair

theorem leads_variableGet {value : Value} (hvalue : state.Has value) (name : String) :
    state.Leads (variableGet value name) fun reached content => reached.Has (content.getD .nil) := by
  apply Leads.bind (leads_variableSymbol name)
  rintro reached symbol hgrows -
  apply Leads.ofSound
  intro hsound
  apply Leads.ask
  cases hfind : (reached.variablesOf value).find? symbol with
  | none => trivial
  | some content =>
      have hvariables := hsound.fitsVariables (hgrows.has hvalue)
      exact (hvariables _ (Table.mem_of_find hfind)).2

theorem gives_variableSet {value content : Value} (hvalue : state.Has value) (name : String)
    (hcontent : state.Has content) : state.Gives (variableSet value name content) := by
  apply Leads.bind (leads_variableSymbol name)
  rintro reached symbol hgrows ⟨_, hsymbol⟩
  apply Leads.ask_bind
  apply Leads.ite
  · intro _
    exact .stop_bind (leads_refuseFrozen value)
  intro hopen
  have hcontent := hgrows.has hcontent
  -- the three kinds of values that can have variables go the same way
  have hput (act : Action Unit)
      (hact : reached.after act = (Change.putVariable value symbol content).apply reached) :
      reached.Leads (act >>= fun _ => pure content) fun last value => last.Has value := by
    have hchange : reached.Leads act fun _ _ => True :=
      .change (.putVariable value symbol content) hact
        (fun _ => ⟨hgrows.has hvalue, hsymbol, hcontent⟩)
        (Bool.eq_false_of_not_eq_true hopen) fun _ _ => trivial
    exact hchange.bind fun _ _ hlast _ => .pure (hlast.has hcontent)
  cases value with
  | str id => exact hput _ rfl
  | object id => exact hput _ rfl
  | cls id => exact hput _ rfl
  | _ => exact .stop_bind (leads_refuseFrozen _)

end State

end ObjectModel
