import ObjectModel.Proofs.State.Change
import ObjectModel.Proofs.Table

/-! # Changes keep the laws

A change whose parts are there leads from a sound state to a sound one, which has grown from it.
-/

namespace ObjectModel

/-- Two records with the same tables of their own. -/
structure ClassRecord.SameTables (first second : ClassRecord) : Prop where
  methods : second.methods = first.methods
  constants : second.constants = first.constants
  ownVariables : second.ownVariables = first.ownVariables
  owner : second.owner = first.owner

theorem ClassRecord.Fills.sameTables {first second : ClassRecord} (hfills : first.Fills second) :
    first.SameTables second := by
  obtain ⟨slot, _, rfl⟩ := hfills
  exact ⟨rfl, rfl, rfl, rfl⟩

namespace State

variable {state : State}

theorem FitsRecord.of_sameTables {id : ClassId} {first second : ClassRecord}
    (hfits : state.FitsRecord id first) (hsame : first.SameTables second)
    (hattached : second.attached = first.attached) : state.FitsRecord id second := by
  refine ⟨?_, ?_, ?_, ?_, ?_⟩
  · rw [hsame.methods]
    exact hfits.methods
  · rw [hsame.constants]
    exact hfits.constants
  · rw [hsame.ownVariables]
    exact hfits.ownVariables
  · rw [hattached]
    exact hfits.attached
  · rw [hsame.owner]
    exact hfits.owner

theorem FitsRecord.of_isBlank {id : ClassId} {record : ClassRecord} (hblank : record.IsBlank)
    (hattached : ∀ value, record.attached = some value → state.Has value) :
    state.FitsRecord id record := by
  obtain ⟨kind, superclass, attached, isCore, slot, rfl⟩ := hblank
  exact ⟨by simp [ClassRecord.fresh, Table.empty], by simp [ClassRecord.fresh, Table.empty],
    by simp [FitsVariables, ClassRecord.fresh, Table.empty], hattached, by simp [ClassRecord.fresh]⟩

/-! ## Changes of one record -/

theorem grows_changeClass (state : State) (id : ClassId) {change : ClassRecord → ClassRecord}
    (hsame : ∀ record : ClassRecord, record.SameSlot (change record)) :
    state.Grows (state.changeClass id change) :=
  ⟨(state.graph.sameSlots_update id hsame).grows, List.prefix_refl _, .refl _, Nat.le_refl _⟩

theorem Sound.changeClass (hsound : state.Sound) {id : ClassId} {change : ClassRecord → ClassRecord}
    (hsame : ∀ record : ClassRecord, record.SameSlot (change record))
    (hgraph : (state.graph.update id change).Sound)
    (hfits : state.FitsRecord id (change (state.graph.record id))) :
    (state.changeClass id change).Sound := by
  have hgrows := state.grows_changeClass id hsame
  apply hsound.of_grows hgrows hgraph
  · intro other
    rcases state.graph.record_update id other change with heq | ⟨rfl, _, heq⟩
    · exact .inl heq
    · right
      rw [show (state.changeClass other change).graph.record other =
        change (state.graph.record other) from heq]
      exact hgrows.fitsRecord hfits
  · exact fun _ _ hobject => .inl hobject
  · intro other value hattached
    left
    rw [← ((state.graph.sameSlots_update id hsame).record other).attached]
    exact hattached
  · exact fun _ hpair => .inl hpair
  · rfl

/-- Changing the tables of a record so that what they hold is there. -/
theorem Sound.changeTables (hsound : state.Sound) {id : ClassId}
    {change : ClassRecord → ClassRecord}
    (hframe : ∀ record : ClassRecord, record.SameFrame (change record))
    (hfits : state.FitsRecord id (change (state.graph.record id))) :
    (state.changeClass id change).Sound ∧ state.Grows (state.changeClass id change) := by
  have hsame : ∀ record : ClassRecord, record.SameSlot (change record) :=
    fun record => (hframe record).toSameSlot
  have hgraph := hsound.graph.of_sameFrame (state.graph.sameFrame_update id hframe)
  exact ⟨hsound.changeClass hsame hgraph hfits, state.grows_changeClass id hsame⟩

/-! ## Changes of one object -/

theorem grows_changeObject {id : ObjectId} {change : HeapObject → HeapObject}
    (hkeeps : ∀ object, state.heap.get? id = some object → object.Keeps (change object)) :
    state.Grows (state.changeObject id change) :=
  ⟨.refl _, List.prefix_refl _, Heap.grows_update hkeeps, Nat.le_refl _⟩

theorem Sound.changeObject (hsound : state.Sound) {id : ObjectId} {change : HeapObject → HeapObject}
    (hkeeps : ∀ object, state.heap.get? id = some object → object.Keeps (change object))
    (hfits : ∀ object, state.heap.get? id = some object → state.FitsObject id (change object)) :
    (state.changeObject id change).Sound ∧ state.Grows (state.changeObject id change) := by
  have hgrows := grows_changeObject hkeeps
  refine ⟨?_, hgrows⟩
  apply hsound.of_grows hgrows hsound.graph
  · exact fun _ => .inl rfl
  · intro other object hobject
    rcases Heap.get_update_cases hobject with hold | ⟨rfl, old, hold, rfl⟩
    · exact .inl hold
    · exact .inr (hgrows.fitsObject hsound.graph.stacked hsound.graph.stacked (hfits old hold))
  · exact fun _ _ hattached => .inl hattached
  · exact fun _ hpair => .inl hpair
  · rfl

/-! ## Changes of the class graph -/

theorem grows_withGraph {graph : Graph} (hgrows : state.graph.Grows graph) :
    state.Grows (state.withGraph graph) :=
  ⟨hgrows, List.prefix_refl _, .refl _, Nat.le_refl _⟩

/-- Going over to a graph with new blank records, which are attached to classes, if to anything. -/
theorem Sound.withGraph (hsound : state.Sound) {graph : Graph} (hextends : state.graph.Extends graph)
    (hgraph : graph.Sound)
    (hattached : ∀ id value, (graph.record id).attached = some value →
      (state.graph.record id).attached = some value ∨ ∃ owner, value = .cls owner) :
    (state.withGraph graph).Sound := by
  have hgrows := grows_withGraph hextends.grows
  apply hsound.of_grows hgrows hgraph
  · intro id
    by_cases hid : state.graph.Has id
    · right
      exact (hgrows.fitsRecord (hsound.record id)).of_sameTables (hextends.record hid).sameTables
        (hextends.grows.record hid).attached
    -- new records are blank, and a position in neither graph has the missing record
    by_cases hnew : graph.Has id
    · right
      apply FitsRecord.of_isBlank (hextends.blank hnew hid)
      intro value hvalue
      rcases hattached id value hvalue with hold | ⟨owner, rfl⟩
      · exact absurd (Graph.has_of_attached hold) hid
      · exact Graph.has_of_metaclass (hgraph.mirrored.metaclass_of_attached hvalue)
    · left
      rw [Graph.record_of_not_has hid]
      exact Graph.record_of_not_has hnew
  · exact fun _ _ hobject => .inl hobject
  · intro id value hvalue
    exact (hattached id value hvalue).imp_right .inl
  · exact fun _ hpair => .inl hpair
  · rfl

theorem Sound.metaclassOf (hsound : state.Sound) {id : ClassId} (hid : state.graph.Has id) :
    (state.withGraph (state.graph.metaclassOf id).2).Sound ∧
      state.Grows (state.withGraph (state.graph.metaclassOf id).2) := by
  have hpath := (hsound.graph.stacked.synthesizes hid).path
  refine ⟨?_, grows_withGraph hpath.grows⟩
  exact hsound.withGraph hpath.extends_graph (hsound.graph.synthesis hpath)
    fun _ _ hattached => hpath.attached_cases hattached

/-- A new class or module with its metaclass. -/
theorem Sound.withNew (hsound : state.Sound) {kind : ClassKind} {superclass : Option ClassId}
    (hstacked : (state.graph.add (.fresh kind superclass none false)).2.Stacked)
    (hgraph : ((state.graph.add (.fresh kind superclass none false)).2.metaclassOf
      state.graph.next).2.Sound) :
    (state.withGraph ((state.graph.add (.fresh kind superclass none false)).2.metaclassOf
        state.graph.next).2).Sound ∧
      state.Grows (state.withGraph ((state.graph.add (.fresh kind superclass none false)).2.metaclassOf
        state.graph.next).2) := by
  have hpath := (hstacked.synthesizes (Graph.has_add_next _ _)).path
  have hextends := (state.graph.extends_add kind superclass none false).trans hpath.extends_graph
  refine ⟨hsound.withGraph hextends hgraph ?_, grows_withGraph hextends.grows⟩
  intro id value hattached
  exact (hpath.attached_cases hattached).imp_left Graph.attached_of_add

theorem Sound.newClass (hsound : state.Sound) {superclass id : ClassId} {graph : Graph}
    (hsuper : state.graph.Has superclass)
    (hresult : state.graph.newClass superclass = .ok (id, graph)) :
    (state.withGraph graph).Sound ∧ state.Grows (state.withGraph graph) := by
  have hgraph := hsound.graph.newClass hsuper hresult
  obtain ⟨_, rfl, rfl⟩ := Graph.newClass_cases hresult
  exact hsound.withNew (hsound.graph.stacked.add_class hsuper) hgraph

theorem Sound.newModule (hsound : state.Sound) :
    (state.withGraph state.graph.newModule.2).Sound ∧
      state.Grows (state.withGraph state.graph.newModule.2) :=
  hsound.withNew hsound.graph.stacked.add_module hsound.graph.newModule

/-- Mixing a module into a class. -/
theorem Sound.mix (hsound : state.Sound) {id mixin : ClassId}
    (hmixable : state.graph.Mixable id mixin) {change : ClassRecord → ClassRecord}
    (hchange : Graph.MixesIn mixin change) :
    (state.changeClass id change).Sound ∧ state.Grows (state.changeClass id change) := by
  refine ⟨?_, state.grows_changeClass id hchange.sameSlot⟩
  apply hsound.changeClass hchange.sameSlot (hsound.graph.mix hmixable hchange)
  apply (hsound.record id).of_sameTables _ (hchange.sameSlot _).attached
  rcases hchange with rfl | rfl <;> exact ⟨rfl, rfl, rfl, rfl⟩

/-! ## Tables of records -/

namespace FitsRecord

variable {id : ClassId} {record : ClassRecord}

theorem putMethod (hfits : state.FitsRecord id record) {name : Symbol} {body : Body}
    (visibility : Visibility) (hname : state.names.Has name) (hbody : state.FitsBody body) :
    state.FitsRecord id (record.putMethod name { owner := id, body, visibility }) := by
  refine { hfits with methods := ?_ }
  intro pair hpair
  rcases Table.mem_insert hpair with rfl | hold
  · exact ⟨hname, rfl, hbody⟩
  · exact hfits.methods pair hold

theorem eraseMethod (hfits : state.FitsRecord id record) (name : Symbol) :
    state.FitsRecord id (record.eraseMethod name) :=
  { hfits with methods := fun pair hpair => hfits.methods pair (Table.mem_erase hpair) }

theorem putConstant (hfits : state.FitsRecord id record) {name : Symbol} {value : Value}
    (hname : state.names.Has name) (hvalue : state.Has value) :
    state.FitsRecord id (record.putConstant name value) := by
  refine { hfits with constants := ?_ }
  intro pair hpair
  rcases Table.mem_insert hpair with rfl | hold
  · refine ⟨hname, ?_⟩
    simp only
    split <;> exact hvalue
  · exact hfits.constants pair hold

theorem flagConstant (hfits : state.FitsRecord id record) (name : Symbol)
    {change : ConstantEntry → ConstantEntry}
    (hchange : ∀ entry : ConstantEntry, (change entry).value = entry.value) :
    state.FitsRecord id (record.flagConstant name change) := by
  refine { hfits with constants := ?_ }
  intro pair hpair
  rcases Table.mem_adjust hpair with ⟨entry, hentry, rfl⟩ | hold
  · have hold := hfits.constants _ hentry
    exact ⟨hold.1, (hchange entry).symm ▸ hold.2⟩
  · exact hfits.constants pair hold

theorem eraseConstant (hfits : state.FitsRecord id record) (name : Symbol) :
    state.FitsRecord id (record.eraseConstant name) :=
  { hfits with constants := fun pair hpair => hfits.constants pair (Table.mem_erase hpair) }

theorem named (hfits : state.FitsRecord id record) {scope : ClassId} (hscope : state.graph.Has scope)
    (name : String) :
    state.FitsRecord id { record with owner := some scope, name := some name } :=
  { hfits with owner := fun _ howner => Option.some.inj howner ▸ hscope }

end FitsRecord

theorem FitsVariables.insert {table : Table Symbol Value} (htable : state.FitsVariables table)
    {name : Symbol} {value : Value} (hname : state.names.Has name) (hvalue : state.Has value) :
    state.FitsVariables (table.insert name value) := by
  intro pair hpair
  rcases Table.mem_insert hpair with rfl | hold
  · exact ⟨hname, hvalue⟩
  · exact htable pair hold

theorem FitsRecord.putVariable {id : ClassId} {record : ClassRecord}
    (hfits : state.FitsRecord id record) {name : Symbol} {value : Value}
    (hname : state.names.Has name) (hvalue : state.Has value) :
    state.FitsRecord id (record.putVariable name value) :=
  { hfits with ownVariables := hfits.ownVariables.insert hname hvalue }

theorem FitsRecord.frozen {id : ClassId} {record : ClassRecord} (hfits : state.FitsRecord id record) :
    state.FitsRecord id { record with isFrozen := true } :=
  hfits.of_sameTables ⟨rfl, rfl, rfl, rfl⟩ rfl

/-! ## Objects -/

namespace FitsObject

variable {id : ObjectId} {object : HeapObject}

theorem putVariable (hfits : state.FitsObject id object) {name : Symbol} {value : Value}
    (hname : state.names.Has name) (hvalue : state.Has value) :
    state.FitsObject id (object.putVariable name value) :=
  { hfits with ownVariables := hfits.ownVariables.insert hname hvalue }

theorem frozen (hfits : state.FitsObject id object) :
    state.FitsObject id { object with isFrozen := true } :=
  { hfits with }

theorem items_of_text {object : HeapObject} (htext : object.text?.isSome) : object.items? = none := by
  cases hpayload : object.payload with
  | text content => simp [HeapObject.items?, hpayload]
  | plain => simp [HeapObject.text?, hpayload] at htext
  | array items => simp [HeapObject.text?, hpayload] at htext

theorem keeps_setText {object : HeapObject} (htext : object.text?.isSome) (content : String) :
    object.Keeps { object with payload := .text content } :=
  ⟨rfl, htext.symm, (items_of_text htext).symm, id, id⟩

/-- A string stays one with another text. -/
theorem setText (hfits : state.FitsObject id object) (htext : object.text?.isSome)
    (content : String) : state.FitsObject id { object with payload := .text content } := by
  have hkeeps := keeps_setText htext content
  refine { hfits with text := ?_, array := ?_, items := ?_, singleton := ?_ }
  · rw [hkeeps.isText]
    exact hfits.text
  · rw [hkeeps.items]
    exact hfits.array
  · rw [hkeeps.items]
    exact hfits.items
  · rw [hkeeps.handle]
    exact hfits.singleton

end FitsObject

/-! ## Singleton classes of objects -/

/-- What a value that stands for an object stands for. -/
theorem object_of_has {value : Value} {id : ObjectId} (hvalue : state.Has value)
    (hid : value.objectId? = some id) :
    ∃ object, state.heap.get? id = some object ∧ value = object.handle id := by
  cases value with
  | str position =>
      obtain rfl := Option.some.inj hid
      obtain ⟨object, hobject, htext⟩ := hvalue
      exact ⟨object, hobject, by rw [HeapObject.handle, if_pos htext]⟩
  | object position =>
      obtain rfl := Option.some.inj hid
      obtain ⟨object, hobject, htext⟩ := hvalue
      exact ⟨object, hobject, by rw [HeapObject.handle, htext, if_neg (by decide)]⟩
  | _ => simp [Value.objectId?] at hid

theorem has_handle {id : ObjectId} {object : HeapObject} (hobject : state.heap.get? id = some object) :
    state.Has (object.handle id) := by
  rw [HeapObject.handle]
  split
  next htext => exact ⟨object, hobject, htext⟩
  next htext => exact ⟨object, hobject, by simpa using htext⟩

theorem ne_cls_of_objectId {value : Value} {id : ObjectId} (hid : value.objectId? = some id)
    (owner : ClassId) : value ≠ .cls owner := by
  rintro rfl
  simp [Value.objectId?] at hid

section

variable {value : Value} {id : ObjectId} {object : HeapObject}

theorem grows_newSingleton (hobject : state.heap.get? id = some object)
    (hfree : object.singleton = none) :
    state.Grows ((Change.newSingleton value id).apply state) := by
  refine ⟨(state.graph.extends_add _ _ _ _).grows, List.prefix_refl _, ?_, Nat.le_refl _⟩
  apply Heap.grows_update
  intro other hother
  obtain rfl := Option.some.inj (hobject.symm.trans hother)
  exact ⟨rfl, rfl, rfl, fun hslot => by simp [hfree] at hslot, fun hfrozen => hfrozen⟩

theorem record_newSingleton_next (value : Value) (hobject : state.heap.get? id = some object) :
    ((Change.newSingleton value id).apply state).graph.record state.graph.next =
      .fresh .singleton (some object.cls) (some value) false := by
  rw [← Heap.object_of_get hobject]
  exact Graph.record_add_next _ _

theorem get_newSingleton (value : Value) (hobject : state.heap.get? id = some object) :
    ((Change.newSingleton value id).apply state).heap.get? id =
      some { object with singleton := some state.graph.next } := by
  refine (Heap.get_update_self state.heap id _).trans ?_
  rw [hobject]
  rfl

/-- The new singleton class is attached to the object, and the object has it as its singleton class. -/
theorem Sound.newSingleton (hsound : state.Sound) (hvalue : value = object.handle id)
    (hid : value.objectId? = some id) (hobject : state.heap.get? id = some object)
    (hfree : object.singleton = none) :
    ((Change.newSingleton value id).apply state).Sound ∧
      state.Grows ((Change.newSingleton value id).apply state) := by
  have hgrows : state.Grows ((Change.newSingleton value id).apply state) :=
    grows_newSingleton hobject hfree
  have hfits := hsound.object id object hobject
  have hgraph : (state.graph.newObjectSingleton value (state.heap.object id).cls).2.Sound := by
    rw [Heap.object_of_get hobject]
    exact hsound.graph.newObjectSingleton (ne_cls_of_objectId hid) hfits.cls
  have hnew := record_newSingleton_next value hobject
  have hold : ∀ other, other ≠ state.graph.next →
      ((Change.newSingleton value id).apply state).graph.record other = state.graph.record other :=
    fun other hother => Graph.record_add_of_ne hother _
  have hget := get_newSingleton value hobject
  refine ⟨?_, hgrows⟩
  -- new are the record of the singleton class and the slot of its object
  apply hsound.of_grows hgrows hgraph
  · intro other
    by_cases heq : other = state.graph.next
    · right
      subst heq
      apply FitsRecord.of_isBlank
      · rw [hnew]
        exact ⟨_, _, _, _, none, rfl⟩
      · rw [hnew]
        intro attached hattached
        obtain rfl := Option.some.inj hattached
        exact hgrows.has (hvalue ▸ has_handle hobject)
    · exact .inl (hold other heq)
  · intro other found hfound
    rcases Heap.get_update_cases hfound with hfound | ⟨rfl, old, hgetOld, hchanged⟩
    · exact .inl hfound
    · right
      obtain rfl := Option.some.inj (hget.symm.trans hfound)
      refine { hgrows.fitsObject hsound.graph.stacked hgraph.stacked hfits with singleton := ?_ }
      intro singleton hsingleton
      obtain rfl := Option.some.inj hsingleton
      rw [hnew]
      exact ⟨congrArg some hvalue, rfl⟩
  · intro other attached hattached
    by_cases heq : other = state.graph.next
    · right
      right
      subst heq
      rw [hnew] at hattached
      obtain rfl := Option.some.inj hattached
      exact ⟨id, _, hid, hget, rfl⟩
    · exact .inl (hold other heq ▸ hattached)
  · exact fun _ hpair => .inl hpair
  · rfl

end

/-! ## New objects, names and choices -/

theorem Sound.addObject (hsound : state.Sound) {object : HeapObject}
    (hfits : state.FitsObject state.heap.next object) :
    ((Change.addObject object).apply state).Sound ∧
      state.Grows ((Change.addObject object).apply state) := by
  have hgrows : state.Grows ((Change.addObject object).apply state) :=
    ⟨.refl _, List.prefix_refl _, state.heap.grows_add object, Nat.le_refl _⟩
  refine ⟨?_, hgrows⟩
  apply hsound.of_grows hgrows hsound.graph
  · exact fun _ => .inl rfl
  · intro id found hfound
    rcases Heap.get_add_cases hfound with hold | ⟨rfl, rfl⟩
    · exact .inl hold
    · exact .inr (hgrows.fitsObject hsound.graph.stacked hsound.graph.stacked hfits)
  · exact fun _ _ hattached => .inl hattached
  · exact fun _ hpair => .inl hpair
  · rfl

/-- What has no part in the laws can change in any way. -/
theorem Sound.withRest (hsound : state.Sound) {names : Interner} (hnames : state.names.Grows names)
    {installations : Nat} (hinstallations : state.installations ≤ installations)
    {scriptVariables : Table String Value}
    (hvariables : ∀ pair ∈ scriptVariables.entries,
      pair ∈ state.scriptVariables.entries ∨ state.Has pair.2)
    (warnings : List Warning) (options : Options) (configuration : Config.Settings) :
    ({ state with
        names, installations, scriptVariables, warnings, options, configuration } : State).Sound ∧
      state.Grows
        { state with names, installations, scriptVariables, warnings, options, configuration } := by
  have hgrows : state.Grows
      { state with names, installations, scriptVariables, warnings, options, configuration } :=
    ⟨.refl _, hnames, .refl _, hinstallations⟩
  refine ⟨?_, hgrows⟩
  apply hsound.of_grows hgrows hsound.graph
  · exact fun _ => .inl rfl
  · exact fun _ _ hobject => .inl hobject
  · exact fun _ _ hattached => .inl hattached
  · exact fun pair hpair => (hvariables pair hpair).imp_right fun hvalue => hgrows.has hvalue
  · rfl

theorem Sound.intern (hsound : state.Sound) (name : String) :
    ((Change.intern name).apply state).Sound ∧ state.Grows ((Change.intern name).apply state) :=
  hsound.withRest (state.names.grows_intern name) (Nat.le_refl _) (fun _ hpair => .inl hpair) _ _ _

theorem Sound.withInstallations (hsound : state.Sound) {installations : Nat}
    (hle : state.installations ≤ installations) :
    ({ state with installations } : State).Sound ∧ state.Grows { state with installations } :=
  hsound.withRest (List.prefix_refl _) hle (fun _ hpair => .inl hpair) _ _ _

theorem Sound.assignDefaults (hsound : state.Sound) {defaults : Encoding.Defaults}
    (hfits : (Change.assignDefaults defaults).Fits state) :
    ({ state with defaults } : State).Sound ∧ state.Grows { state with defaults } := by
  have hgrows : state.Grows { state with defaults } :=
    ⟨.refl _, List.prefix_refl _, .refl _, Nat.le_refl _⟩
  refine ⟨⟨hsound.graph, ?_, ?_, hsound.singleton_of_attached, ?_, hfits.1, hfits.2⟩, hgrows⟩
  · exact fun id => hgrows.fitsRecord (hsound.record id)
  · exact fun id object hobject => hgrows.fitsObject hsound.graph.stacked hsound.graph.stacked
      (hsound.object id object hobject)
  · exact fun pair hpair => hgrows.has (hsound.scriptVariables pair hpair)

theorem Sound.putMethod (hsound : state.Sound) (id : ClassId) {name : Symbol} {body : Body}
    (visibility : Visibility) (hname : state.names.Has name) (hbody : state.FitsBody body) :
    ((Change.putMethod id name body visibility).apply state).Sound ∧
      state.Grows ((Change.putMethod id name body visibility).apply state) :=
  hsound.changeTables (fun record => record.sameFrame_with _ _ _ _ _ _)
    ((hsound.record id).putMethod visibility hname hbody)

/-! ## Builtin methods -/

/-- The class into which a builtin method is put, and the state in which that class is there. -/
def builtinOwner (state : State) (builtin : Builtin) : ClassId × State :=
  if builtin.onMetaclass then
    ((state.graph.metaclassOf builtin.owner.id).1,
      (Change.metaclassOf builtin.owner.id).apply state)
  else (builtin.owner.id, state)

/-- Putting one builtin method in consists of changes. -/
theorem installOne_eq (installation : Nat) (state : State) (registration : Registration) :
    state.installOne installation registration =
      let (owner, ready) := state.builtinOwner registration.builtin
      (Change.putMethod owner (ready.names.intern registration.name).1
        (.builtin registration.builtin installation) registration.visibility).apply
          ((Change.intern registration.name).apply ready) := by
  cases hmeta : registration.builtin.onMetaclass with
  | false =>
      simp only [installOne, builtinOwner, hmeta]
      rfl
  | true =>
      simp only [installOne, builtinOwner, hmeta]
      rfl

theorem Sound.builtinOwner (hsound : state.Sound) (builtin : Builtin) :
    (state.builtinOwner builtin).2.Sound ∧ state.Grows (state.builtinOwner builtin).2 ∧
      (state.builtinOwner builtin).2.installations = state.installations := by
  rw [State.builtinOwner]
  split
  · have hmade := hsound.metaclassOf (hsound.graph.stacked.has_core builtin.owner)
    exact ⟨hmade.1, hmade.2, rfl⟩
  · exact ⟨hsound, .refl state, rfl⟩

theorem Sound.installOne (hsound : state.Sound) {installation : Nat}
    (hlt : installation < state.installations) (registration : Registration) :
    (state.installOne installation registration).Sound ∧
      state.Grows (state.installOne installation registration) ∧
      (state.installOne installation registration).installations = state.installations := by
  -- the metaclass may have to be made first, so the rest is about the state that is ready
  obtain ⟨hready, hgrows, hsame⟩ := hsound.builtinOwner registration.builtin
  rw [installOne_eq]
  generalize state.builtinOwner registration.builtin = found at hready hgrows hsame
  obtain ⟨owner, ready⟩ := found
  have hnamed := hready.intern registration.name
  have hfits : State.FitsBody ((Change.intern registration.name).apply ready)
      (.builtin registration.builtin installation) :=
    Nat.lt_of_lt_of_eq hlt hsame.symm
  have hput := fun owner => hnamed.1.putMethod owner registration.visibility
    (ready.names.has_intern registration.name) hfits
  exact ⟨(hput owner).1, (hgrows.trans hnamed.2).trans (hput owner).2, hsame⟩

/-- The count of installations plays no part while methods are put in. -/
theorem foldl_installOne (installation installations : Nat) (registrations : List Registration)
    (state : State) :
    registrations.foldl (State.installOne installation) { state with installations } =
      { registrations.foldl (State.installOne installation) state with installations } := by
  induction registrations generalizing state with
  | nil => rfl
  | cons registration rest ih =>
      rw [List.foldl_cons, List.foldl_cons, ← ih]
      rfl

theorem Sound.foldl_installOne (hsound : state.Sound) {installation : Nat}
    (hlt : installation < state.installations) (registrations : List Registration) :
    (registrations.foldl (State.installOne installation) state).Sound ∧
      state.Grows (registrations.foldl (State.installOne installation) state) := by
  induction registrations generalizing state with
  | nil => exact ⟨hsound, .refl state⟩
  | cons registration rest ih =>
      obtain ⟨hone, hgrows, hsame⟩ := hsound.installOne hlt registration
      obtain ⟨hall, hrest⟩ := ih hone (hsame.symm ▸ hlt)
      exact ⟨hall, hgrows.trans hrest⟩

theorem Sound.installBuiltins (hsound : state.Sound) :
    state.installBuiltins.Sound ∧ state.Grows state.installBuiltins := by
  obtain ⟨hcounted, hgrows⟩ := hsound.withInstallations (Nat.le_succ state.installations)
  obtain ⟨hall, hrest⟩ := hcounted.foldl_installOne (Nat.lt_succ_self _) Builtin.registrations
  rw [State.foldl_installOne] at hall hrest
  exact ⟨hall, hgrows.trans hrest⟩

/-! ## All changes -/

theorem Sound.putVariable (hsound : state.Sound) (value : Value) {content : Value} {name : Symbol}
    (hname : state.names.Has name) (hcontent : state.Has content) :
    ((Change.putVariable value name content).apply state).Sound ∧
      state.Grows ((Change.putVariable value name content).apply state) := by
  have hobject (id : ObjectId) : (state.changeObject id (.putVariable name content)).Sound ∧
      state.Grows (state.changeObject id (.putVariable name content)) :=
    hsound.changeObject (fun object _ => ⟨rfl, rfl, rfl, fun hslot => hslot, fun hfrozen => hfrozen⟩)
      fun object hget => (hsound.object id object hget).putVariable hname hcontent
  cases value with
  | str id => exact hobject id
  | object id => exact hobject id
  | cls id =>
      exact hsound.changeTables (fun record => record.sameFrame_with _ _ _ _ _ _)
        ((hsound.record id).putVariable hname hcontent)
  | _ => exact ⟨hsound, .refl state⟩

theorem Sound.freeze (hsound : state.Sound) (value : Value) :
    ((Change.freeze value).apply state).Sound ∧ state.Grows ((Change.freeze value).apply state) := by
  have hobject (id : ObjectId) :
      (state.changeObject id fun object => { object with isFrozen := true }).Sound ∧
        state.Grows (state.changeObject id fun object => { object with isFrozen := true }) :=
    hsound.changeObject (fun object _ => ⟨rfl, rfl, rfl, fun hslot => hslot, fun _ => rfl⟩)
      fun object hget => (hsound.object id object hget).frozen
  cases value with
  | str id => exact hobject id
  | object id => exact hobject id
  | cls id =>
      exact hsound.changeTables (fun record => record.sameFrame_with _ _ _ _ _ _)
        (hsound.record id).frozen
  | _ => exact ⟨hsound, .refl state⟩

theorem Sound.setText (hsound : state.Sound) {id : ObjectId} (hid : state.Has (.str id))
    (content : String) :
    ((Change.setText id content).apply state).Sound ∧
      state.Grows ((Change.setText id content).apply state) := by
  obtain ⟨old, hold, htext⟩ := hid
  have hevery : ∀ object, state.heap.get? id = some object → object.text?.isSome := by
    intro object hobject
    rwa [Option.some.inj (hobject.symm.trans hold)]
  exact hsound.changeObject (fun object hobject => FitsObject.keeps_setText (hevery object hobject) _)
    fun object hobject => (hsound.object id object hobject).setText (hevery object hobject) content

/-- Mixing a module in, or leaving the state as it is. -/
theorem Sound.orMixed (hsound : state.Sound) {id mixin : ClassId}
    {change : ClassRecord → ClassRecord} (hchange : Graph.MixesIn mixin change)
    {result : Except Fault (Bool × Graph)}
    (hresult : ∀ added graph, result = .ok (added, graph) →
      graph = state.graph ∨ graph = state.graph.update id change ∧ state.graph.Mixable id mixin) :
    (state.orSame result).Sound ∧ state.Grows (state.orSame result) := by
  cases hcase : result with
  | error fault => exact ⟨hsound, .refl state⟩
  | ok pair =>
      obtain ⟨added, graph⟩ := pair
      rcases hresult added graph hcase with rfl | ⟨rfl, hmixable⟩
      · exact ⟨hsound, .refl state⟩
      · exact hsound.mix hmixable hchange

/-- A change of what is there keeps the laws, and the state grows by it. -/
theorem Sound.apply (hsound : state.Sound) {change : Change} (hfits : change.Fits state) :
    (change.apply state).Sound ∧ state.Grows (change.apply state) := by
  cases change with
  | intern name => exact hsound.intern name
  | newClass superclass =>
      rw [Change.apply]
      cases hresult : state.graph.newClass superclass with
      | error fault => exact ⟨hsound, .refl state⟩
      | ok pair => exact hsound.newClass hfits hresult
  | newModule => exact hsound.newModule
  | metaclassOf id => exact hsound.metaclassOf hfits
  | newSingleton value id =>
      obtain ⟨object, hobject, hvalue⟩ := object_of_has hfits.1 hfits.2.1
      have hfree := hfits.2.2
      rw [Heap.object_of_get hobject] at hfree
      exact hsound.newSingleton hvalue hfits.2.1 hobject hfree
  | includeModule id mixin =>
      exact hsound.orMixed (.inl rfl) fun _ _ hresult => Graph.includeModule_cases hresult
  | prependModule id mixin =>
      exact hsound.orMixed (.inr rfl) fun _ _ hresult => Graph.prependModule_cases hresult
  | putMethod id name body visibility => exact hsound.putMethod id visibility hfits.2.1 hfits.2.2
  | eraseMethod id name =>
      exact hsound.changeTables (fun record => record.sameFrame_with _ _ _ _ _ _)
        ((hsound.record id).eraseMethod name)
  | putConstant scope name value =>
      exact hsound.changeTables (fun record => record.sameFrame_with _ _ _ _ _ _)
        ((hsound.record scope).putConstant hfits.2.1 hfits.2.2)
  | flagConstant scope name change =>
      exact hsound.changeTables (fun record => record.sameFrame_with _ _ _ _ _ _)
        ((hsound.record scope).flagConstant name hfits.2)
  | eraseConstant scope name =>
      exact hsound.changeTables (fun record => record.sameFrame_with _ _ _ _ _ _)
        ((hsound.record scope).eraseConstant name)
  | nameClass scope id name =>
      exact hsound.changeTables (fun record => record.sameFrame_with _ _ _ _ _ _)
        ((hsound.record id).named hfits.1 name)
  | putVariable value name content => exact hsound.putVariable value hfits.2.1 hfits.2.2
  | freeze value => exact hsound.freeze value
  | addObject object => exact hsound.addObject hfits.1
  | setText id content => exact hsound.setText hfits content
  | assignDefaults defaults => exact hsound.assignDefaults hfits
  | setVariable name value =>
      apply hsound.withRest (List.prefix_refl _) (Nat.le_refl _)
      intro pair hpair
      rcases Table.mem_insert hpair with rfl | hold
      · exact .inr hfits
      · exact .inl hold
  | warn warning =>
      exact hsound.withRest (List.prefix_refl _) (Nat.le_refl _) (fun _ hpair => .inl hpair) _ _ _
  | installBuiltins => exact hsound.installBuiltins

end State

end ObjectModel
