import ObjectModel.Builtin.Numbers
import ObjectModel.Builtin.Objects
import ObjectModel.Proofs.Builtin.Arguments

/-! # Builtin methods of objects are safe

The methods of all objects, of nil and the truth values, of strings, symbols, arrays, numbers and comparable objects do
nothing but allowed changes and give values that are there.
-/

namespace ObjectModel.State

variable {state : State} {run : Runner} {receiver : Value} {arguments : List Value}

/-! ## All objects -/

/-- What identifies a value is a number. -/
theorem has_identity (value : Value) : state.Has value.identity := by
  cases value with
  | int number =>
      rw [Value.identity]
      split <;> trivial
  | bool flag => cases flag <;> trivial
  | _ => trivial

theorem gives_runBasic (routine : BasicRoutine) (hrun : run.Safe) (hreceiver : state.Has receiver)
    (harguments : ∀ value ∈ arguments, state.Has value) :
    state.Gives (Builtin.runBasic run routine receiver arguments) := by
  cases routine with
  | construct => exact .pure trivial
  | identical => exact .arity_bind (.pure trivial)
  | negate => exact .arity_bind (.pure trivial)
  | notEqual =>
      apply Leads.arity_bind
      apply Leads.bind (gives_send "==" hrun hreceiver harguments)
      exact fun _ _ _ _ => .pure trivial
  | identity =>
      exact .arity_bind (.pure (has_identity receiver))
  | send =>
      cases arguments with
      | nil => exact .refuse _
      | cons name rest =>
          apply Leads.name_bind
          intro name
          exact gives_send name hrun hreceiver fun value hvalue =>
            harguments value (List.mem_cons_of_mem _ hvalue)
  | missing =>
      cases arguments with
      | nil => exact .refuse _
      | cons name rest => exact .name_bind fun name => leads_refuseMissing name

theorem gives_runKernel (routine : KernelRoutine) (hrun : run.Safe)
    (hreceiver : state.Has receiver) (harguments : ∀ value ∈ arguments, state.Has value) :
    state.Gives (Builtin.runKernel run routine receiver arguments) := by
  have hargument := has_argument harguments
  have hrest : ∀ value ∈ arguments.drop 1, state.Has value :=
    fun value hvalue => harguments value (List.mem_of_mem_drop hvalue)
  cases routine with
  | classOf =>
      exact .arity_bind (.ofSound fun hsound => .ask (hsound.has_classOf hreceiver))
  | singletonClass =>
      apply Leads.arity_bind
      exact (leads_singletonClassOf hreceiver).bind fun _ _ _ hsingleton => .pure hsingleton
  | objectId => exact .arity_bind (.pure (has_identity receiver))
  | send => exact .arity_bind (.name_bind fun name => gives_send name hrun hreceiver hrest)
  | publicSend => exact .arity_bind (.name_bind fun name => gives_invoke name hrun hreceiver hrest)
  | respondTo =>
      apply Leads.arity_bind
      apply Leads.name_bind
      intro name
      exact (leads_respondTo name _ hreceiver).bind fun _ _ _ _ => .pure trivial
  | variableGet =>
      apply Leads.arity_bind
      apply Leads.name_bind
      intro name
      exact (leads_variableGet hreceiver name).bind fun _ _ _ hcontent => .pure hcontent
  | variableSet =>
      exact .arity_bind (.name_bind fun name => gives_variableSet hreceiver name (hargument 1))
  | variableNames =>
      apply Leads.arity_bind
      apply Leads.ofSound
      intro hsound
      apply Leads.ask_bind
      apply gives_newArray
      intro item hitem
      obtain ⟨name, hname, rfl⟩ := List.mem_map.mp hitem
      obtain ⟨pair, hpair, rfl⟩ := List.mem_map.mp hname
      exact (hsound.fitsVariables hreceiver pair hpair).1
  | isFrozen => exact .arity_bind (.ask trivial)
  | freeze =>
      apply Leads.arity_bind
      exact (leads_freeze hreceiver).bind fun _ _ hgrows _ => .pure (hgrows.has hreceiver)
  | isA =>
      apply Leads.arity_bind
      apply Leads.class_bind (hargument 0)
      intro cls _
      exact (leads_isA hreceiver cls).bind fun _ _ _ _ => .pure trivial
  | instanceOf => exact .arity_bind (.class_bind (hargument 0) fun _ _ => .ask trivial)
  | inspect => exact .arity_bind (.ask_bind (gives_newString _))
  | toText => exact .arity_bind (.ask_bind (gives_newString _))
  | isNil => exact .arity_bind (.pure trivial)

theorem gives_runSingular (routine : SingularRoutine) :
    state.Gives (Builtin.runSingular routine receiver arguments) := by
  cases routine with
  | toText => exact .arity_bind (.ask_bind (gives_newString _))
  | inspect => exact .arity_bind (.ask_bind (gives_newString _))
  | both => exact .arity_bind (.pure trivial)
  | either => exact .arity_bind (.pure trivial)
  | isNil => exact .arity_bind (.pure trivial)
  | toArray => exact .arity_bind (gives_newArray (by simp))

/-! ## Strings, symbols and arrays -/

theorem has_orderValue (order : Ordering) : state.Has (Builtin.orderValue order) := by
  cases order <;> trivial

theorem gives_runString (routine : StringRoutine) (hreceiver : state.Has receiver) :
    state.Gives (Builtin.runString routine receiver arguments) := by
  cases routine with
  | toText =>
      apply Leads.arity_bind
      apply Leads.ask_bind
      apply Leads.ite
      · exact fun _ => .pure hreceiver
      · exact fun _ => .text_bind fun content => gives_newString content
  | equal =>
      apply Leads.arity_bind
      apply Leads.ask
      split <;> trivial
  | compare =>
      apply Leads.arity_bind
      apply Leads.ask
      split
      · exact has_orderValue _
      · trivial
  | concat => exact .arity_bind (.text_bind fun _ => .text_bind fun _ => gives_newString _)
  | length => exact .arity_bind (.text_bind fun _ => .pure trivial)
  | toSymbol =>
      apply Leads.arity_bind
      apply Leads.text_bind
      intro content
      exact (leads_intern content).bind fun _ _ _ hsymbol => .pure hsymbol.2

theorem gives_runSymbol (routine : SymbolRoutine) (hreceiver : state.Has receiver) :
    state.Gives (Builtin.runSymbol routine receiver arguments) := by
  apply Leads.arity_bind
  cases routine with
  | toText => exact .ask_bind (gives_newString _)
  | itself => exact .pure hreceiver
  | length => exact .ask trivial

theorem has_itemAt {items : List Value} (hitems : ∀ item ∈ items, state.Has item)
    (position : Int) : state.Has (Builtin.itemAt items position) := by
  rw [Builtin.itemAt]
  split
  · split
    · trivial
    · exact has_argument hitems _
  · exact has_argument hitems _

theorem leads_anyEqual {other : Value} {items : List Value} (hrun : run.Safe)
    (hother : state.Has other) (hitems : ∀ item ∈ items, state.Has item) :
    state.Leads (Builtin.anyEqual run other items) fun _ _ => True := by
  induction items generalizing state with
  | nil => exact .pure trivial
  | cons item rest ih =>
      have hone : ∀ value ∈ [other], state.Has value := by simpa using hother
      apply Leads.bind (gives_send "==" hrun (hitems item List.mem_cons_self) hone)
      intro reached answer hgrows _
      apply Leads.ite
      · exact fun _ => .pure trivial
      · intro _
        apply ih (hgrows.has hother)
        exact hgrows.hasAll fun value hvalue => hitems value (List.mem_cons_of_mem _ hvalue)

theorem gives_runArray (routine : ArrayRoutine) (hrun : run.Safe) (hreceiver : state.Has receiver)
    (harguments : ∀ value ∈ arguments, state.Has value) :
    state.Gives (Builtin.runArray run routine receiver arguments) := by
  cases routine with
  | length => exact .arity_bind (.items_bind hreceiver fun _ _ => .pure trivial)
  | index =>
      apply Leads.arity_bind
      apply Leads.items_bind hreceiver
      intro items hitems
      exact .int_bind fun position => .pure (has_itemAt hitems position)
  | first =>
      exact .arity_bind (.items_bind hreceiver fun _ hitems => .pure (has_argument hitems 0))
  | includes =>
      apply Leads.arity_bind
      apply Leads.items_bind hreceiver
      intro items hitems
      apply Leads.bind (leads_anyEqual hrun (has_argument harguments 0) hitems)
      exact fun _ _ _ _ => .pure trivial
  | itself => exact .arity_bind (.pure hreceiver)

/-! ## Numbers and comparable objects -/

theorem gives_calculate (operation : Builtin.Arithmetic) (other : Value) :
    state.Gives (Builtin.calculate operation receiver other) := by
  apply Leads.int_bind
  intro own
  cases other with
  | int number => exact .ite (fun _ => .pure trivial) fun _ => .refuse _
  | float bits => exact .pure trivial
  | _ => exact .ask_bind (.refuse _)

theorem gives_runNumber (routine : NumberRoutine) :
    state.Gives (Builtin.runNumber routine receiver arguments) := by
  cases routine with
  | integerText => exact .arity_bind (.int_bind fun _ => gives_newString _)
  | floatText => exact .arity_bind (gives_newString _)
  | equal => exact .arity_bind (.pure trivial)
  | compare =>
      apply Leads.arity_bind
      apply Leads.pure
      cases Builtin.compareNumbers receiver (Builtin.argument arguments 0) with
      | none => trivial
      | some order => exact has_orderValue order
  | add => exact .arity_bind (gives_calculate _ _)
  | subtract => exact .arity_bind (gives_calculate _ _)
  | multiply => exact .arity_bind (gives_calculate _ _)

theorem leads_compareBySend {first second : Value} (hrun : run.Safe) (hfirst : state.Has first)
    (hsecond : state.Has second) :
    state.Leads (Builtin.compareBySend run first second) fun _ _ => True := by
  have hone : ∀ value ∈ [second], state.Has value := by simpa using hsecond
  apply Leads.bind (gives_send "<=>" hrun hfirst hone)
  intro reached answer _ _
  split <;> exact .pure trivial

theorem leads_ordered {first second : Value} (hrun : run.Safe) (hfirst : state.Has first)
    (hsecond : state.Has second) :
    state.Leads (Builtin.ordered run first second) fun _ _ => True := by
  apply Leads.bind (leads_compareBySend hrun hfirst hsecond)
  intro reached order _ _
  split
  · exact .pure trivial
  · exact .get_bind (.refuse _)

theorem gives_clamp {value least greatest : Value} (hrun : run.Safe) (hvalue : state.Has value)
    (hleast : state.Has least) (hgreatest : state.Has greatest) :
    state.Gives (Builtin.clamp run value least greatest) := by
  apply Leads.bind (leads_ordered hrun hleast hgreatest)
  intro first _ hfirst _
  apply Leads.ite
  · exact fun _ => .refuse_bind _
  intro _
  apply Leads.bind (leads_ordered hrun (hfirst.has hvalue) (hfirst.has hleast))
  intro second _ hsecond _
  -- each comparison calls a method, so every further one starts from a grown state
  have hgrown := hfirst.trans hsecond
  apply Leads.ite
  · exact fun _ => .pure (hgrown.has hleast)
  intro _
  apply Leads.bind (leads_ordered hrun (hgrown.has hvalue) (hgrown.has hgreatest))
  intro third _ hthird _
  apply Leads.ite
  · exact fun _ => .pure ((hgrown.trans hthird).has hgreatest)
  · exact fun _ => .pure ((hgrown.trans hthird).has hvalue)

theorem gives_runComparable (routine : ComparableRoutine) (hrun : run.Safe)
    (hreceiver : state.Has receiver) (harguments : ∀ value ∈ arguments, state.Has value) :
    state.Gives (Builtin.runComparable run routine receiver arguments) := by
  have hargument := has_argument harguments
  have hordered := leads_ordered hrun hreceiver (hargument 0)
  cases routine with
  | equal =>
      apply Leads.arity_bind
      apply Leads.ite
      · exact fun _ => .pure trivial
      · intro _
        apply Leads.bind (leads_compareBySend hrun hreceiver (hargument 0))
        exact fun _ _ _ _ => .pure trivial
  | less => exact .arity_bind (hordered.bind fun _ _ _ _ => .pure trivial)
  | lessOrEqual => exact .arity_bind (hordered.bind fun _ _ _ _ => .pure trivial)
  | greater => exact .arity_bind (hordered.bind fun _ _ _ _ => .pure trivial)
  | greaterOrEqual => exact .arity_bind (hordered.bind fun _ _ _ _ => .pure trivial)
  | between =>
      apply Leads.arity_bind
      apply Leads.bind hordered
      intro reached _ hgrows _
      apply Leads.bind (leads_ordered hrun (hgrows.has hreceiver) (hgrows.has (hargument 1)))
      exact fun _ _ _ _ => .pure trivial
  | clamp => exact .arity_bind (gives_clamp hrun hreceiver (hargument 0) (hargument 1))

end ObjectModel.State
