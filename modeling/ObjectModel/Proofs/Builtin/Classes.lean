import ObjectModel.Builtin.Classes
import ObjectModel.Proofs.Builtin.Arguments

/-! # Builtin methods of classes and modules are safe

What classes and modules do, and what classes make, does nothing but allowed changes and gives values that are there.
-/

namespace ObjectModel.State

variable {state : State} {run : Runner} {receiver : Value} {arguments : List Value}

/-! ## Several values in turn -/

/-- What can be done with each of several values wherever they are there can be done with them in turn. -/
theorem leads_forM {act : Value → Action Unit}
    (hact : ∀ reached value, state.Grows reached → reached.Has value →
      reached.Leads (act value) fun _ _ => True)
    (harguments : ∀ value ∈ arguments, state.Has value) :
    state.Leads (arguments.forM act) fun _ _ => True := by
  induction arguments generalizing state with
  | nil => exact .pure trivial
  | cons first rest ih =>
      apply Leads.bind (hact state first (.refl state) (harguments first List.mem_cons_self))
      intro reached _ hgrows _
      apply ih
      · exact fun last value hlast => hact last value (hgrows.trans hlast)
      · exact hgrows.hasAll fun value hvalue => harguments value (List.mem_cons_of_mem _ hvalue)

theorem leads_eachName {act : String → Action Unit}
    (hact : ∀ reached name, state.Grows reached → reached.Leads (act name) fun _ _ => True)
    (harguments : ∀ value ∈ arguments, state.Has value) :
    state.Leads (Builtin.eachName arguments act) fun _ _ => True := by
  apply leads_forM _ harguments
  intro reached value hgrows _
  exact .name_bind fun name => hact reached name hgrows

/-- Changing a class under each of several names. -/
theorem gives_changeEach {act : ClassId → String → Action Unit} (hreceiver : state.Has receiver)
    (harguments : ∀ value ∈ arguments, state.Has value)
    (hact : ∀ {reached : State} {id : ClassId} (name : String), reached.graph.Has id →
      reached.Leads (act id name) fun _ _ => True) :
    state.Gives (do
      let id ← Builtin.expectClass receiver
      Builtin.eachName arguments (act id)
      pure receiver) := by
  apply Leads.class_bind hreceiver
  intro id hid
  apply Leads.bind (leads_eachName _ harguments)
  · exact fun _ _ hgrows _ => .pure (hgrows.has hreceiver)
  · exact fun _ name hgrows => hact name (hgrows.graph.has hid)

theorem leads_mixAll {mix : ClassId → Action Bool}
    (hmix : ∀ reached mixin, state.Grows reached → reached.graph.Has mixin →
      reached.Leads (mix mixin) fun _ _ => True)
    (harguments : ∀ value ∈ arguments, state.Has value) :
    state.Leads (Builtin.mixAll arguments mix) fun _ _ => True := by
  apply leads_forM
  · intro reached value hgrows hvalue
    apply Leads.class_bind hvalue
    intro mixin hmixin
    exact (hmix reached mixin hgrows hmixin).bind fun _ _ _ _ => .pure trivial
  · exact fun value hvalue => harguments value (List.mem_reverse.mp hvalue)

/-- Mixing several modules into a class. -/
theorem gives_mixEach {mix : ClassId → ClassId → Action Bool} (hreceiver : state.Has receiver)
    (harguments : ∀ value ∈ arguments, state.Has value)
    (hmix : ∀ {reached : State} {id mixin : ClassId}, reached.graph.Has id →
      reached.graph.Has mixin → reached.Leads (mix id mixin) fun _ _ => True) :
    state.Gives (do
      let id ← Builtin.expectClass receiver
      Builtin.mixAll arguments (mix id)
      pure receiver) := by
  apply Leads.class_bind hreceiver
  intro id hid
  apply Leads.bind (leads_mixAll _ harguments)
  · exact fun _ _ hgrows _ => .pure (hgrows.has hreceiver)
  · exact fun _ _ hgrows hmixin => hmix (hgrows.graph.has hid) hmixin

/-! ## Constants and attributes -/

theorem gives_constantAt {scope : ClassId} (path : List String) (hscope : state.graph.Has scope) :
    state.Gives (Builtin.constantAt scope path) := by
  induction path generalizing state scope with
  | nil => exact .pure trivial
  | cons name rest ih =>
      cases rest with
      | nil => exact gives_constantGet scope name
      | cons next others =>
          apply Leads.bind (gives_constantGet scope name)
          intro reached value _ hvalue
          exact .class_bind hvalue fun _ hinner => ih hinner

theorem gives_includesModule (id : ClassId) {value : Value} (hvalue : state.Has value) :
    state.Gives (Builtin.includesModule id value) := by
  apply Leads.class_bind hvalue
  intro mixin _
  apply Leads.get_bind
  exact .ite (fun _ => .refuse _) fun _ => .pure trivial

/-- Going on from the symbols of the methods that were defined so far to those of the writer. -/
theorem leads_defineWriter {id : ClassId} (writer : Bool) (name : String) {readers : List Value}
    (hid : state.graph.Has id) (hreaders : ∀ value ∈ readers, state.Has value) :
    state.Leads (do
      let writers ← if writer then
          pure [Value.symbol (← defineMethod id (name ++ "=") (.writer ("@" ++ name)))]
        else pure []
      pure (readers ++ writers)) fun reached values => ∀ value ∈ values, reached.Has value := by
  apply Leads.ite
  · intro _
    have hbody : state.FitsBody (.writer ("@" ++ name)) := trivial
    apply Leads.bind (leads_defineMethod _ hid hbody rfl)
    intro reached symbol hgrows hsymbol
    apply Leads.pure_bind
    apply Leads.pure
    intro value hvalue
    rcases List.mem_append.mp hvalue with hreader | hwriter
    · exact hgrows.has (hreaders value hreader)
    · obtain rfl := List.mem_singleton.mp hwriter
      exact hsymbol
  · intro _
    apply Leads.pure_bind
    apply Leads.pure
    rwa [List.append_nil]

/-- The symbols of the methods of an attribute. -/
theorem leads_defineAttribute {id : ClassId} (reader writer : Bool) (name : String)
    (hid : state.graph.Has id) :
    state.Leads (Builtin.defineAttribute id reader writer name) fun reached values =>
      ∀ value ∈ values, reached.Has value := by
  apply Leads.ite
  · exact fun _ => .refuse_bind _
  intro _
  apply Leads.ite
  · intro _
    have hbody : state.FitsBody (.reader ("@" ++ name)) := trivial
    apply Leads.bind (leads_defineMethod name hid hbody rfl)
    intro reached symbol hgrows hsymbol
    apply Leads.pure_bind
    apply leads_defineWriter writer name (hgrows.graph.has hid)
    intro value hvalue
    obtain rfl := List.mem_singleton.mp hvalue
    exact hsymbol
  · intro _
    apply Leads.pure_bind
    exact leads_defineWriter writer name hid (by simp)

theorem leads_defineAttributes {id : ClassId} (reader writer : Bool) (hid : state.graph.Has id) :
    state.Leads (Builtin.defineAttributes id reader writer arguments) fun reached values =>
      ∀ value ∈ values, reached.Has value := by
  induction arguments generalizing state with
  | nil => exact .pure (by simp)
  | cons first rest ih =>
      apply Leads.name_bind
      intro name
      apply Leads.bind (leads_defineAttribute reader writer name hid)
      intro reached defined hgrows hdefined
      apply Leads.bind (ih (hgrows.graph.has hid))
      intro last others hlast hothers
      apply Leads.pure
      intro value hvalue
      rcases List.mem_append.mp hvalue with hfirst | hother
      · exact hlast.has (hdefined value hfirst)
      · exact hothers value hother

theorem gives_bundle (harguments : ∀ value ∈ arguments, state.Has value) :
    state.Gives (Builtin.bundle arguments) := by
  match arguments with
  | [] => exact .pure trivial
  | [value] => exact .pure (harguments value List.mem_cons_self)
  | first :: second :: rest => exact gives_newArray harguments

/-! ## Classes and modules -/

/-- Symbols with a place in some table are there. -/
theorem Sound.has_instanceMethods (hsound : state.Sound) {id : ClassId} {inherited : Bool} :
    ∀ value ∈ (state.graph.instanceMethods id inherited).map Value.symbol, state.Has value := by
  intro value hvalue
  obtain ⟨name, hname, rfl⟩ := List.mem_map.mp hvalue
  obtain ⟨ancestor, entry, hentry⟩ := Graph.exists_of_instanceMethods hname
  exact ((hsound.record ancestor).methods _ hentry).1

theorem Sound.has_constantNames (hsound : state.Sound) {id : ClassId} {inherited : Bool} :
    ∀ value ∈ (state.graph.constantNames id inherited).map Value.symbol, state.Has value := by
  intro value hvalue
  obtain ⟨name, hname, rfl⟩ := List.mem_map.mp hvalue
  obtain ⟨scope, entry, hentry⟩ := Graph.exists_of_constantNames hname
  exact ((hsound.record scope).constants _ hentry).1

theorem Sound.has_ancestors (hsound : state.Sound) {id : ClassId} (hid : state.graph.Has id) :
    ∀ value ∈ (state.graph.ancestors id).map Value.cls, state.Has value := by
  intro value hvalue
  obtain ⟨ancestor, hancestor, rfl⟩ := List.mem_map.mp hvalue
  exact hsound.graph.stacked.has_of_mem_ancestors hid hancestor

theorem gives_runModule (routine : ModuleRoutine) (hreceiver : state.Has receiver)
    (harguments : ∀ value ∈ arguments, state.Has value) :
    state.Gives (Builtin.runModule routine receiver arguments) := by
  have hargument := has_argument harguments
  cases routine with
  | nameText =>
      apply Leads.arity_bind
      apply Leads.class_bind hreceiver
      intro id _
      apply Leads.ask_bind
      split
      · exact gives_newString _
      · exact .pure trivial
  | display =>
      exact .arity_bind (.class_bind hreceiver fun _ _ => .ask_bind (gives_newString _))
  | constants =>
      apply Leads.arity_bind
      apply Leads.class_bind hreceiver
      intro id _
      apply Leads.ofSound
      intro hsound
      exact .ask_bind (gives_newArray hsound.has_constantNames)
  | constantGet =>
      apply Leads.arity_bind
      apply Leads.class_bind hreceiver
      intro id hid
      exact .name_bind fun path => gives_constantAt (Name.segments path) hid
  | constantSet =>
      apply Leads.arity_bind
      apply Leads.class_bind hreceiver
      intro id hid
      exact .name_bind fun name => gives_constantSet name hid (hargument 1)
  | constantDefined =>
      apply Leads.arity_bind
      apply Leads.class_bind hreceiver
      intro id _
      apply Leads.name_bind
      intro name
      exact (leads_constantDefined id name _).bind fun _ _ _ _ => .pure trivial
  | ancestors =>
      apply Leads.arity_bind
      apply Leads.class_bind hreceiver
      intro id hid
      apply Leads.ofSound
      intro hsound
      exact .ask_bind (gives_newArray (hsound.has_ancestors hid))
  | includeModules => exact .arity_bind (gives_mixEach hreceiver harguments leads_includeModule)
  | includes =>
      apply Leads.arity_bind
      apply Leads.class_bind hreceiver
      exact fun id _ => gives_includesModule id (hargument 0)
  | prependModules => exact .arity_bind (gives_mixEach hreceiver harguments leads_prependModule)
  | privateConstant =>
      exact gives_changeEach hreceiver harguments (leads_setConstantPrivate true)
  | publicConstant =>
      exact gives_changeEach hreceiver harguments (leads_setConstantPrivate false)
  | deprecateConstant => exact gives_changeEach hreceiver harguments leads_deprecateConstant
  | attributes reader writer =>
      apply Leads.class_bind hreceiver
      intro id hid
      apply Leads.bind (leads_defineAttributes reader writer hid)
      exact fun _ _ _ hvalues => gives_newArray hvalues
  | instanceMethods =>
      apply Leads.arity_bind
      apply Leads.class_bind hreceiver
      intro id _
      apply Leads.ofSound
      intro hsound
      exact .ask_bind (gives_newArray hsound.has_instanceMethods)
  | methodDefined =>
      exact .arity_bind (.class_bind hreceiver fun _ _ => .name_bind fun _ => .ask trivial)
  | removeMethod => exact gives_changeEach hreceiver harguments leads_removeMethod
  | undefMethod => exact gives_changeEach hreceiver harguments leads_undefMethod
  | aliasMethod =>
      apply Leads.arity_bind
      apply Leads.class_bind hreceiver
      intro id hid
      apply Leads.name_bind
      intro name
      apply Leads.name_bind
      intro old
      exact (leads_aliasMethod name old hid).bind fun _ _ _ hsymbol => .pure hsymbol
  | setVisibility visibility =>
      apply Leads.class_bind hreceiver
      intro id hid
      apply Leads.bind (leads_eachName _ harguments)
      · exact fun _ _ hgrows _ => gives_bundle (hgrows.hasAll harguments)
      · exact fun _ name hgrows => leads_setVisibility name visibility (hgrows.graph.has hid)
  | «matches» =>
      apply Leads.arity_bind
      apply Leads.class_bind hreceiver
      intro id _
      exact (leads_isA (hargument 0) id).bind fun _ _ _ _ => .pure trivial

/-! ## What classes make -/

theorem gives_instantiate {cls : ClassId} (hrun : run.Safe) (hcls : state.graph.Has cls)
    (harguments : ∀ value ∈ arguments, state.Has value) :
    state.Gives (Builtin.instantiate run cls arguments) := by
  apply Leads.bind (leads_allocate hcls)
  intro reached value hgrows hallocated
  apply Leads.bind (gives_send "initialize" hrun hallocated.1 (hgrows.hasAll harguments))
  exact fun _ _ hlast _ => .pure (hlast.has hallocated.1)

/-- What is allocated for a class of strings is a string. -/
theorem Allocated.isText {cls : ClassId} {value : Value} {id : ObjectId} (hsound : state.Sound)
    (hallocated : state.Allocated cls value) (hid : value.objectId? = some id)
    (hstring : CoreClass.string.id ∈ state.graph.superclassChain cls) : state.Has (.str id) := by
  obtain ⟨object, hobject, _⟩ := object_of_has hallocated.1 hid
  have hcls := (hallocated.2 id hid).1
  rw [Heap.object_of_get hobject] at hcls
  exact has_str hobject ((hsound.object id object hobject).text.mpr (hcls ▸ hstring))

theorem gives_makeString {cls : ClassId} (hcls : state.graph.Has cls)
    (hstring : CoreClass.string.id ∈ state.graph.superclassChain cls) :
    state.Gives (Builtin.makeString cls arguments) := by
  apply Leads.ofSound
  intro hfirst
  apply Leads.arity_bind
  apply Leads.bind (leads_allocate hcls)
  intro reached value hgrows hallocated
  apply Leads.ofSound
  intro hsound
  -- what was allocated is an object of this class, so it has a text
  have hchain := hgrows.graph.superclassChain hfirst.graph.stacked hsound.graph.stacked hcls
  split
  next content id _ hid =>
    have htext := hallocated.isText hsound hid (hchain ▸ hstring)
    have hset : ∀ text, reached.Leads
        (ObjectModel.changeObject id fun object => { object with payload := .text text })
        fun _ _ => True :=
      fun text => .change (.setText id text) rfl (fun _ => htext) (hallocated.2 id hid).2
        fun _ _ => trivial
    apply Leads.text_bind
    intro text
    exact (hset text).bind fun _ _ hlast _ => .pure (hlast.has hallocated.1)
  · exact .pure hallocated.1

theorem gives_makeInstance {cls : ClassId} (hrun : run.Safe) (hcls : state.graph.Has cls)
    (harguments : ∀ value ∈ arguments, state.Has value) :
    state.Gives (Builtin.makeInstance run cls arguments) := by
  apply Leads.ofSound
  intro hsound
  apply Leads.get_bind
  apply Leads.ite
  · exact fun _ => (leads_allocate hcls).mono fun _ _ _ hallocated => hallocated.1
  intro _
  apply Leads.ite
  · intro _
    apply Leads.arity_bind
    -- the superclass is the one that is given, or Object
    have hmake : ∀ superclass, state.graph.Has superclass →
        state.Gives (do return .cls (← newClass superclass)) :=
      fun _ hsuper => (leads_newClass hsuper).bind fun _ _ _ hmade => .pure hmade.2
    split
    next value hvalue =>
      exact .class_bind (harguments value (List.mem_of_head? hvalue)) hmake
    · exact .pure_bind (hmake _ (hsound.graph.stacked.has_core .object))
  intro _
  apply Leads.ite
  · exact fun _ => .arity_bind (leads_newModule.bind fun _ _ _ hmade => .pure hmade.2)
  intro _
  apply Leads.ite
  · intro hstring
    rw [hsound.graph.isKindOf_core hcls rfl] at hstring
    exact gives_makeString hcls hstring
  · exact fun _ => gives_instantiate hrun hcls harguments

theorem gives_runClass (routine : ClassRoutine) (hrun : run.Safe) (hreceiver : state.Has receiver)
    (harguments : ∀ value ∈ arguments, state.Has value) :
    state.Gives (Builtin.runClass run routine receiver arguments) := by
  cases routine with
  | make => exact .class_bind hreceiver fun _ hcls => gives_makeInstance hrun hcls harguments
  | allocate =>
      apply Leads.arity_bind
      apply Leads.class_bind hreceiver
      intro cls hcls
      exact (leads_allocate hcls).mono fun _ _ _ hallocated => hallocated.1
  | superclass =>
      apply Leads.arity_bind
      apply Leads.class_bind hreceiver
      intro cls hcls
      apply Leads.ofSound
      intro hsound
      apply Leads.ask_bind
      split
      next superclass hsuper =>
        exact .pure (Nat.lt_trans (hsound.graph.stacked.superclass_lt hsuper) hcls)
      · exact .pure trivial

end ObjectModel.State
