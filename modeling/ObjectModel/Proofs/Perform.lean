import ObjectModel.Perform
import ObjectModel.Proofs.Builtin.Classes
import ObjectModel.Proofs.Builtin.Encodings
import ObjectModel.Proofs.Builtin.Objects

/-! # Operations are safe

Performing an operation on what is there does nothing but allowed changes, and the values in its answer are there.
-/

namespace ObjectModel.State

variable {state : State} {run : Runner} {receiver : Value} {arguments operands : List Value}

theorem gives_routine (routine : Routine) (hrun : run.Safe) (hreceiver : state.Has receiver)
    (harguments : ∀ value ∈ arguments, state.Has value) :
    state.Gives (routine.perform run receiver arguments) := by
  cases routine with
  | basic routine => exact gives_runBasic routine hrun hreceiver harguments
  | kernel routine => exact gives_runKernel routine hrun hreceiver harguments
  | moduleRoutine routine => exact gives_runModule routine hreceiver harguments
  | classRoutine routine => exact gives_runClass routine hrun hreceiver harguments
  | singular routine => exact gives_runSingular routine
  | string routine => exact gives_runString routine hreceiver
  | symbol routine => exact gives_runSymbol routine hreceiver
  | number routine => exact gives_runNumber routine
  | array routine => exact gives_runArray routine hrun hreceiver harguments
  | comparable routine => exact gives_runComparable routine hrun hreceiver harguments
  | encoding routine => exact gives_runEncoding routine hrun harguments

/-! ## Answers -/

/-- What a class report shows is there. -/
structure HasClassReport (state : State) (report : ClassReport) : Prop where
  id : state.graph.Has report.id
  constants : ∀ pair ∈ report.constants, state.Has pair.2.value
  ownVariables : ∀ pair ∈ report.ownVariables, state.Has pair.2
  attached : ∀ value, report.record.attached = some value → state.Has value

/-- What the report of an object shows is there. -/
structure HasObjectReport (state : State) (report : ObjectReport) : Prop where
  cls : state.graph.Has report.object.cls
  ownVariables : ∀ pair ∈ report.ownVariables, state.Has pair.2
  items : ∀ items, report.object.items? = some items → ∀ item ∈ items, state.Has item

/-- The values in an answer are there. -/
def HasAnswer (state : State) : Answer → Prop
  | .value content => state.Has content
  | .slot content => ∀ value, content = some value → state.Has value
  | .constant report => ∀ found, report = some found → state.Has found.entry.value
  | .cls report => state.HasClassReport report
  | .object report => ∀ found, report = some found → state.HasObjectReport found
  | _ => True

theorem HasAnswer.toValue {answer : Answer} (hanswer : state.HasAnswer answer) :
    state.Has answer.toValue := by
  cases answer with
  | value content => exact hanswer
  | _ => trivial

/-- The values of a table of variables are shown with the texts of their names. -/
theorem FitsVariables.has_named {table : Table Symbol Value} (htable : state.FitsVariables table) :
    ∀ pair ∈ state.namedVariables table, state.Has pair.2 := by
  intro pair hpair
  obtain ⟨shown, hshown, rfl⟩ := List.mem_map.mp hpair
  exact (htable shown hshown).2

theorem Sound.hasClassReport (hsound : state.Sound) {id : ClassId} (hid : state.graph.Has id) :
    state.HasClassReport (state.classReport id) := by
  have hrecord := hsound.record id
  refine ⟨hid, ?_, hrecord.ownVariables.has_named, hrecord.attached⟩
  intro pair hpair
  obtain ⟨shown, hshown, rfl⟩ := List.mem_map.mp hpair
  exact (hrecord.constants shown hshown).2

theorem Sound.hasObjectReport (hsound : state.Sound) {position : Nat} {report : ObjectReport}
    (hreport : state.objectReport? position = some report) : state.HasObjectReport report := by
  obtain ⟨object, hobject, rfl⟩ := Option.map_eq_some_iff.mp hreport
  have hfits := hsound.object _ object hobject
  exact ⟨hfits.cls, hfits.ownVariables.has_named, hfits.items⟩

theorem Sound.has_constantReport (hsound : state.Sound) {scope : ClassId} {name : String}
    {ownOnly : Bool} {report : ConstantReport}
    (hreport : state.constantReport? scope name ownOnly = some report) :
    state.Has report.entry.value := by
  obtain ⟨found, hfound, rfl⟩ := Option.map_eq_some_iff.mp hreport
  exact hsound.has_resolveConstant hfound

/-- An action gives an answer whose values are there. -/
abbrev Answers (state : State) (act : Action Answer) : Prop :=
  state.Leads act fun reached answer => reached.HasAnswer answer

/-- The value that an action gives is there when it is made an answer. -/
theorem Gives.answers {act : Action Value} (hgives : state.Gives act) :
    state.Answers (do return .value (← act)) :=
  hgives.bind fun _ _ _ hvalue => .pure hvalue

/-- An answer without a value. -/
theorem Leads.answers {α : Type} {act : Action α} {answer : α → Answer}
    {post : State → α → Prop} (hact : state.Leads act post)
    (hanswer : ∀ (reached : State) value, reached.HasAnswer (answer value)) :
    state.Answers (do return answer (← act)) :=
  hact.bind fun reached value _ _ => .pure (hanswer reached value)

theorem Leads.done {act : Action Unit} {post : State → Unit → Prop} (hact : state.Leads act post) :
    state.Answers (do act; return Answer.nothing) :=
  hact.bind fun _ _ _ _ => .pure trivial

theorem leads_reportMethod (name : String) (hreceiver : state.Has receiver) :
    state.Leads (reportMethod receiver name) fun _ _ => True := by
  apply Leads.bind (leads_findMethod name hreceiver)
  intro reached found _ _
  split
  · exact .pure trivial
  · exact .ask trivial

theorem looks_optionalClass {operand : Value} (hoperand : state.Has operand) :
    state.Looks (optionalClass operand) fun superclass =>
      ∀ above, superclass = some above → state.graph.Has above := by
  cases operand with
  | nil => exact .pure ⟨rfl, by simp⟩
  | _ =>
      apply Leads.class_bind hoperand
      intro id hid
      refine .pure ⟨rfl, ?_⟩
      intro above habove
      exact Option.some.inj habove ▸ hid

theorem leads_installBuiltins :
    state.Leads (modify State.installBuiltins : Action Unit) fun _ _ => True :=
  .change .installBuiltins rfl (fun _ => trivial) trivial fun _ _ => trivial

theorem answers_defineClass {scope superclass : Value} (name : String) (hscope : state.Has scope)
    (hsuper : state.Has superclass) :
    state.Answers (do
      let scope ← Builtin.expectClass scope
      let superclass ← optionalClass superclass
      return .value (.cls (← ObjectModel.defineClass scope name superclass))) := by
  apply Leads.class_bind hscope
  intro id hid
  apply (looks_optionalClass hsuper).look_bind
  intro above habove
  exact (leads_defineClass name hid habove).bind fun _ _ _ hmade => .pure hmade

/-- Whatever an operation does to operands that are there is allowed. -/
theorem answers_perform {operation : Operation Body} (hrun : run.Safe)
    (hbodies : ∀ body ∈ operation.bodies, state.FitsBody body ∧ body.isBuiltin = false)
    (hoperands : ∀ value ∈ operands, state.Has value) :
    state.Answers (operation.perform run operands) := by
  have hfirst := has_argument hoperands 0
  have hsecond := has_argument hoperands 1
  -- the receiver is the first operand, and the arguments are the others
  have hrest : ∀ value ∈ operands.drop 1, state.Has value :=
    fun value hvalue => hoperands value (List.mem_of_mem_drop hvalue)
  cases operation with
  | evaluate => exact .pure hfirst
  | defineClass name => exact answers_defineClass name hfirst hsecond
  | defineModule name =>
      apply Leads.class_bind hfirst
      intro scope hscope
      exact (leads_defineModule name hscope).bind fun _ _ _ hmade => .pure hmade
  | newClass =>
      apply Leads.class_bind hfirst
      intro superclass hsuper
      exact (leads_newClass hsuper).bind fun _ _ _ hmade => .pure hmade.2
  | newModule => exact leads_newModule.bind fun _ _ _ hmade => .pure hmade.2
  | includeModule =>
      apply Leads.class_bind hfirst
      intro id hid
      apply Leads.class_bind hsecond
      exact fun mixin hmixin => (leads_includeModule hid hmixin).answers fun _ _ => trivial
  | prependModule =>
      apply Leads.class_bind hfirst
      intro id hid
      apply Leads.class_bind hsecond
      exact fun mixin hmixin => (leads_prependModule hid hmixin).answers fun _ _ => trivial
  | ancestors => exact .class_bind hfirst fun _ _ => .ask trivial
  | superclass =>
      apply Leads.class_bind hfirst
      intro id hid
      apply Leads.ofSound
      intro hsound
      apply Leads.ask
      cases hsuper : state.graph.superclass? id with
      | none => trivial
      | some superclass => exact Nat.lt_trans (hsound.graph.stacked.superclass_lt hsuper) hid
  | classOf => exact .ofSound fun hsound => .ask (hsound.has_classOf hfirst)
  | dispatchClass => exact (leads_dispatchClass hfirst).bind fun _ _ _ hstart => .pure hstart
  | singletonClassOf =>
      exact (leads_singletonClassOf hfirst).bind fun _ _ _ hsingleton => .pure hsingleton
  | isA => exact .class_bind hsecond fun cls _ => (leads_isA hfirst cls).answers fun _ _ => trivial
  | classReport =>
      exact .class_bind hfirst fun _ hid => .ofSound fun hsound => .ask (hsound.hasClassReport hid)
  | counts => exact .ask trivial
  | allocate =>
      apply Leads.class_bind hfirst
      intro cls hcls
      exact (leads_allocate hcls).bind fun _ _ _ hallocated => .pure hallocated.1
  | instantiate =>
      exact .class_bind hfirst fun cls hcls => Gives.answers (gives_instantiate hrun hcls hrest)
  | objectReport position =>
      exact .ofSound fun hsound => .ask fun _ hreport => hsound.hasObjectReport hreport
  | defineMethod name body =>
      obtain ⟨hbody, hown⟩ := hbodies body List.mem_cons_self
      apply Leads.class_bind hfirst
      intro id hid
      exact (leads_defineMethod name hid hbody hown).bind fun _ _ _ hsymbol => .pure hsymbol
  | defineSingletonMethod name body =>
      obtain ⟨hbody, hown⟩ := hbodies body List.mem_cons_self
      exact (leads_defineSingletonMethod name hfirst hbody hown).bind fun _ _ _ hsymbol =>
        .pure hsymbol
  | removeMethod name => exact .class_bind hfirst fun _ hid => (leads_removeMethod name hid).done
  | undefMethod name => exact .class_bind hfirst fun _ hid => (leads_undefMethod name hid).done
  | aliasMethod name old =>
      apply Leads.class_bind hfirst
      intro id hid
      exact (leads_aliasMethod name old hid).bind fun _ _ _ hsymbol => .pure hsymbol
  | setVisibility name visibility =>
      exact .class_bind hfirst fun _ hid => (leads_setVisibility name visibility hid).done
  | instanceMethods inherited => exact .class_bind hfirst fun _ _ => .ask trivial
  | methodDefined name => exact .class_bind hfirst fun _ _ => .ask trivial
  | findMethod name => exact (leads_reportMethod name hfirst).answers fun _ _ => trivial
  | respondTo name includePrivate =>
      exact (leads_respondTo name includePrivate hfirst).answers fun _ _ => trivial
  | invoke name => exact Gives.answers (gives_invoke name hrun hfirst hrest)
  | send name => exact Gives.answers (gives_send name hrun hfirst hrest)
  | sendSymbol name =>
      apply Leads.bind (leads_intern name)
      rintro reached symbol hgrows ⟨_, hsymbol⟩
      exact Gives.answers (gives_dispatch false hrun (hgrows.has hfirst) hsymbol (hgrows.hasAll hrest))
  | installBuiltins => exact leads_installBuiltins.done
  | builtinNames => exact .pure trivial
  | intern name => exact (leads_intern name).answers fun _ _ => trivial
  | lookupSymbol name => exact .ask trivial
  | symbolName symbol => exact .ask trivial
  | constantSet name =>
      exact .class_bind hfirst fun _ hscope =>
        Gives.answers (gives_constantSet name hscope hsecond)
  | constantGet name =>
      exact .class_bind hfirst fun scope _ => Gives.answers (gives_constantGet scope name)
  | constantResolve name ownOnly =>
      apply Leads.class_bind hfirst
      intro scope _
      exact .ofSound fun hsound => .ask fun _ hreport => hsound.has_constantReport hreport
  | constantDefined name inherited =>
      exact .class_bind hfirst fun scope _ =>
        (leads_constantDefined scope name inherited).answers fun _ _ => trivial
  | constantRemove name =>
      apply Leads.class_bind hfirst
      intro scope hscope
      exact (leads_constantRemove name hscope).bind fun _ _ _ hremoved => .pure hremoved
  | ownConstants => exact .class_bind hfirst fun _ _ => .ask trivial
  | constants inherited => exact .class_bind hfirst fun _ _ => .ask trivial
  | privateConstant name =>
      exact .class_bind hfirst fun _ hscope => (leads_setConstantPrivate true name hscope).done
  | publicConstant name =>
      exact .class_bind hfirst fun _ hscope => (leads_setConstantPrivate false name hscope).done
  | deprecateConstant name =>
      exact .class_bind hfirst fun _ hscope => (leads_deprecateConstant name hscope).done
  | variableGet name =>
      apply Leads.bind (leads_variableGet hfirst name)
      intro reached content _ hcontent
      apply Leads.pure
      rintro value rfl
      exact hcontent
  | variableSet name => exact Gives.answers (gives_variableSet hfirst name hsecond)
  | variableNames => exact .ask trivial
  | freeze => exact (leads_freeze hfirst).bind fun _ _ hgrows _ => .pure (hgrows.has hfirst)
  | isFrozen => exact .ask trivial
  | objectId => exact .pure (has_identity _)
  | toText => exact .ask trivial
  | inspect => exact .ask trivial
  | describeReceiver => exact .ask trivial
  | defaultInternal => exact .ofSound fun hsound => .ask hsound.has_defaultInternal
  | defaultExternal => exact .ofSound fun hsound => .ask hsound.has_defaultExternal
  | setDefaultInternal => exact Gives.answers (gives_setDefaultInternal hrun hfirst)
  | setDefaultExternal => exact Gives.answers (gives_setDefaultExternal hrun hfirst)
  | configValue key => exact Gives.answers (gives_configValue key)

end ObjectModel.State
