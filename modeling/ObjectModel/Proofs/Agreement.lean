import ObjectModel.Proofs.MissingHook
import ObjectModel.Proofs.Receivers

/-! # Ways to run bodies that agree

Two ways to run bodies agree if they do the same with every body that is at home where the search for the methods of
the receiver has begun. As long as builtin methods stand at home, calls find no other bodies; so whatever calls methods
does the same with either way, and goes through the same states.
-/

namespace ObjectModel

namespace State

variable {α β : Type} {state : State}

/-- Two actions do the same where the laws hold and builtin methods stand at home. -/
def Agrees (state : State) (act other : Action α) : Prop :=
  state.Sound → state.graph.Housed → other.run.run state = act.run.run state

namespace Agrees

variable {act other : Action α} {next last : α → Action β}

theorem refl (act : Action α) : state.Agrees act act := fun _ _ => rfl

theorem first (hact : state.Agrees act other) (next : α → Action β) :
    state.Agrees (act >>= next) (other >>= next) := by
  intro hsound hhoused
  rw [run_bind, run_bind, hact hsound hhoused]

theorem bind {middle : State → α → Prop} (hact : state.Agrees act other)
    (hleads : state.Leads act middle)
    (hnext : ∀ reached value, state.Grows reached → middle reached value →
      reached.Agrees (next value) (last value)) :
    state.Agrees (act >>= next) (other >>= last) := by
  intro hsound hhoused
  obtain ⟨hruns, hmiddle⟩ := hleads hsound
  have hreached := hsound.runs hruns
  have hstill := hsound.housed_runs hruns hhoused
  rw [run_bind, run_bind, hact hsound hhoused]
  cases hcase : act.run.run state with
  | mk outcome reached =>
      have hafter : state.after act = reached := congrArg Prod.snd hcase
      have hresult : state.result act = outcome := congrArg Prod.fst hcase
      rw [hafter] at hmiddle hreached hstill
      cases outcome with
      | error halt => rfl
      | ok value => exact hnext reached value hreached.2 (hmiddle value hresult) hreached.1 hstill

theorem rest {middle : State → α → Prop} (hleads : state.Leads act middle)
    (hnext : ∀ reached value, state.Grows reached → middle reached value →
      reached.Agrees (next value) (last value)) :
    state.Agrees (act >>= next) (act >>= last) :=
  (refl act).bind hleads hnext

theorem look {found : α → Prop} (hlooks : state.Looks act found)
    (hnext : ∀ value, found value → state.Agrees (next value) (last value)) :
    state.Agrees (act >>= next) (act >>= last) := by
  apply Agrees.rest hlooks
  rintro reached value - ⟨rfl, hfound⟩
  exact hnext value hfound

/-- The number of the arguments is checked the same way. -/
theorem arity {arity : Builtin.Arity} {arguments : List Value} {next last : Unit → Action β}
    (hnext : state.Agrees (next ()) (last ())) :
    state.Agrees (Builtin.checkArity arity arguments >>= next)
      (Builtin.checkArity arity arguments >>= last) :=
  .look (looks_checkArity arity arguments) fun _ _ => hnext

theorem get {next last : State → Action β} (hnext : state.Agrees (next state) (last state)) :
    state.Agrees (get >>= next) (get >>= last) := hnext

theorem ask {read : State → α} (hnext : state.Agrees (next (read state)) (last (read state))) :
    state.Agrees (ObjectModel.ask read >>= next) (ObjectModel.ask read >>= last) := hnext

theorem ite {condition : Prop} [Decidable condition] {yes no otherYes otherNo : Action α}
    (hyes : condition → state.Agrees yes otherYes) (hno : ¬ condition → state.Agrees no otherNo) :
    state.Agrees (if condition then yes else no) (if condition then otherYes else otherNo) := by
  by_cases hcondition : condition
  · rw [if_pos hcondition, if_pos hcondition]
    exact hyes hcondition
  · rw [if_neg hcondition, if_neg hcondition]
    exact hno hcondition

theorem refuse (fault : Fault) :
    state.Agrees (ObjectModel.refuse fault >>= next) (ObjectModel.refuse fault >>= last) :=
  fun _ _ => rfl

/-- Where the search for the methods of a value begins, it has begun. -/
theorem search {value : Value} {next last : ClassId → Action β} (hvalue : state.Has value)
    (hnext : ∀ reached start, state.Grows reached → reached.start value = (start, reached) →
      reached.Agrees (next start) (last start)) :
    state.Agrees (dispatchClass value >>= next) (dispatchClass value >>= last) := by
  intro hsound hhoused
  have hruns := hsound.runs_start hvalue
  have hreached := hsound.runs hruns
  rw [run_dispatchClass_bind, run_dispatchClass_bind]
  exact hnext _ _ hreached.2 (hsound.searchable.start_start hvalue) hreached.1
    (hsound.housed_runs hruns hhoused)

end Agrees

end State

/-- Another way to run bodies does the same as one with bodies that use what is there and are at home where
the search for the methods of the receiver has begun. -/
def Runner.AgreesWith (run other : Runner) : Prop :=
  ∀ {state : State} {start : ClassId} {body : Body} {receiver : Value} {arguments : List Value},
    state.FitsBody body → state.Has receiver → (∀ value ∈ arguments, state.Has value) →
      state.start receiver = (start, state) → state.isAtHome start receiver body →
        state.Agrees (run body receiver arguments) (other body receiver arguments)

namespace State

variable {state : State} {run other : Runner} {receiver : Value} {arguments : List Value}

section

variable (hagrees : run.AgreesWith other)

include hagrees

/-! ## Calls -/

/-- What a search finds is at home, so it is run the same way. -/
theorem agrees_found {start : ClassId} {name : Symbol} {entry : MethodEntry}
    (hreceiver : state.Has receiver) (hstart : state.start receiver = (start, state))
    (hfind : state.graph.findMethod? start name = some entry)
    (harguments : ∀ value ∈ arguments, state.Has value) :
    state.Agrees (run entry.body receiver arguments) (other entry.body receiver arguments) := by
  intro hsound hhoused
  have hhome := hsound.isAtHome_of_find hhoused hreceiver hstart hfind
  exact hagrees (hsound.fitsBody_of_find hfind) hreceiver harguments hstart hhome hsound hhoused

theorem agrees_callMissing {name : Symbol} (hreceiver : state.Has receiver)
    (hname : state.names.Has name) (harguments : ∀ value ∈ arguments, state.Has value) :
    state.Agrees (callMissing run receiver name arguments)
      (callMissing other receiver name arguments) := by
  apply Agrees.rest (leads_intern missingName)
  rintro named missing hnamed -
  apply Agrees.search (hnamed.has hreceiver)
  intro reached start hreached hstart
  have hgrown := hnamed.trans hreached
  apply Agrees.get
  cases hhook : (if name = missing then none else reached.graph.findMethod? start missing) with
  | none => exact .refl _
  | some hook =>
      have hfind : reached.graph.findMethod? start missing = some hook := by
        split at hhook
        · simp at hhook
        · exact hhook
      apply agrees_found hagrees (hgrown.has hreceiver) hstart hfind
      intro value hvalue
      rcases List.mem_cons.mp hvalue with rfl | hvalue
      · exact hgrown.names.has hname
      · exact hgrown.has (harguments value hvalue)

theorem agrees_dispatch {name : Symbol} (checked : Bool) (hreceiver : state.Has receiver)
    (hname : state.names.Has name) (harguments : ∀ value ∈ arguments, state.Has value) :
    state.Agrees (dispatch run checked receiver name arguments)
      (dispatch other checked receiver name arguments) := by
  apply Agrees.search hreceiver
  intro reached start hgrows hstart
  apply Agrees.get
  cases hfind : reached.graph.findMethod? start name with
  | none =>
      exact agrees_callMissing hagrees (hgrows.has hreceiver) (hgrows.names.has hname)
        (hgrows.hasAll harguments)
  | some entry =>
      apply Agrees.ite
      · exact fun _ => .refl _
      · exact fun _ =>
          agrees_found hagrees (hgrows.has hreceiver) hstart hfind (hgrows.hasAll harguments)

theorem agrees_dispatchName (checked : Bool) (name : String) (hreceiver : state.Has receiver)
    (harguments : ∀ value ∈ arguments, state.Has value) :
    state.Agrees (dispatchName run checked receiver name arguments)
      (dispatchName other checked receiver name arguments) := by
  apply Agrees.ask
  cases hfind : state.names.find? name with
  | some symbol =>
      exact agrees_dispatch hagrees checked hreceiver (Interner.has_of_find hfind) harguments
  | none =>
      have hcustom : state.Leads (hasCustomMissing receiver) fun _ _ => True :=
        (leads_findMethod missingName hreceiver).bind fun _ _ _ _ => .pure trivial
      apply Agrees.rest hcustom
      intro reached custom hgrows _
      apply Agrees.ite
      · intro _
        apply Agrees.rest (leads_intern name)
        rintro named symbol hnamed ⟨_, hsymbol⟩
        have hgrown := hgrows.trans hnamed
        exact agrees_callMissing hagrees (hgrown.has hreceiver) hsymbol (hgrown.hasAll harguments)
      · exact fun _ => .refl _

theorem agrees_send (name : String) (hreceiver : state.Has receiver)
    (harguments : ∀ value ∈ arguments, state.Has value) :
    state.Agrees (send run receiver name arguments) (send other receiver name arguments) :=
  agrees_dispatchName hagrees false name hreceiver harguments

/-! ## Builtin methods -/

theorem agrees_runBasic (routine : BasicRoutine) (hreceiver : state.Has receiver)
    (harguments : ∀ value ∈ arguments, state.Has value) :
    state.Agrees (Builtin.runBasic run routine receiver arguments)
      (Builtin.runBasic other routine receiver arguments) := by
  cases routine with
  | notEqual =>
      apply Agrees.arity
      exact (agrees_send hagrees "==" hreceiver harguments).first _
  | send =>
      cases arguments with
      | nil => exact .refl _
      | cons name rest =>
          apply Agrees.look (looks_expectName name)
          exact fun name _ => agrees_send hagrees name hreceiver fun value hvalue =>
            harguments value (List.mem_cons_of_mem _ hvalue)
  | missing => cases arguments <;> exact .refl _
  | _ => exact .refl _

theorem agrees_runKernel (routine : KernelRoutine) (hreceiver : state.Has receiver)
    (harguments : ∀ value ∈ arguments, state.Has value) :
    state.Agrees (Builtin.runKernel run routine receiver arguments)
      (Builtin.runKernel other routine receiver arguments) := by
  have hrest : ∀ value ∈ arguments.drop 1, state.Has value :=
    fun value hvalue => harguments value (List.mem_of_mem_drop hvalue)
  cases routine with
  | send =>
      apply Agrees.arity
      apply Agrees.look (looks_expectName _)
      exact fun name _ => agrees_send hagrees name hreceiver hrest
  | publicSend =>
      apply Agrees.arity
      apply Agrees.look (looks_expectName _)
      exact fun name _ => agrees_dispatchName hagrees true name hreceiver hrest
  | _ => exact .refl _

theorem agrees_compareBySend {first second : Value} (hfirst : state.Has first)
    (hsecond : state.Has second) :
    state.Agrees (Builtin.compareBySend run first second)
      (Builtin.compareBySend other first second) :=
  (agrees_send hagrees "<=>" hfirst (by simpa using hsecond)).first _

theorem agrees_ordered {first second : Value} (hfirst : state.Has first)
    (hsecond : state.Has second) :
    state.Agrees (Builtin.ordered run first second) (Builtin.ordered other first second) :=
  (agrees_compareBySend hagrees hfirst hsecond).first _

theorem agrees_encodingArgument {value : Value} (hvalue : state.Has value) :
    state.Agrees (encodingArgument run value) (encodingArgument other value) := by
  have hother : state.Agrees
      (do
        if ← respondTo value "to_str" true then
          let converted ← convertToText run value
          ask fun state => Encoding.Argument.convertible (state.className value) (.ok converted)
        else ask fun state => Encoding.Argument.inconvertible (state.className value))
      (do
        if ← respondTo value "to_str" true then
          let converted ← convertToText other value
          ask fun state => Encoding.Argument.convertible (state.className value) (.ok converted)
        else ask fun state => Encoding.Argument.inconvertible (state.className value)) := by
    apply Agrees.rest (leads_respondTo "to_str" true hvalue)
    intro reached responds hgrows _
    apply Agrees.ite
    · intro _
      have hsend : reached.Agrees (convertToText run value) (convertToText other value) :=
        (agrees_send hagrees "to_str" (hgrows.has hvalue) (by simp)).first _
      exact hsend.first _
    · exact fun _ => .refl _
  cases value with
  | nil => exact .refl _
  | encoding id => exact .refl _
  | str id => exact .refl _
  | _ => exact hother

theorem agrees_assignDefault {value : Value}
    (assign : Encoding.Defaults → Encoding.Argument → Except Fault Encoding.Defaults)
    (hvalue : state.Has value) :
    state.Agrees (assignDefault run value assign) (assignDefault other value assign) :=
  (agrees_encodingArgument hagrees hvalue).first _

theorem agrees_runEncoding (routine : EncodingRoutine)
    (harguments : ∀ value ∈ arguments, state.Has value) :
    state.Agrees (Builtin.runEncoding run routine receiver arguments)
      (Builtin.runEncoding other routine receiver arguments) := by
  have hargument := has_argument harguments 0
  cases routine with
  | setDefaultInternal =>
      apply Agrees.arity
      exact (agrees_assignDefault hagrees _ hargument).first _
  | setDefaultExternal =>
      apply Agrees.arity
      exact (agrees_assignDefault hagrees _ hargument).first _
  | _ => exact .refl _

theorem agrees_instantiate {cls : ClassId} (hcls : state.graph.Has cls)
    (harguments : ∀ value ∈ arguments, state.Has value) :
    state.Agrees (Builtin.instantiate run cls arguments)
      (Builtin.instantiate other cls arguments) := by
  apply Agrees.rest (leads_allocate hcls)
  intro reached value hgrows hallocated
  exact (agrees_send hagrees "initialize" hallocated.1 (hgrows.hasAll harguments)).first _

theorem agrees_makeInstance {cls : ClassId} (hcls : state.graph.Has cls)
    (harguments : ∀ value ∈ arguments, state.Has value) :
    state.Agrees (Builtin.makeInstance run cls arguments)
      (Builtin.makeInstance other cls arguments) := by
  apply Agrees.get
  -- only what is neither a class, a module nor a string is set up by a call
  apply Agrees.ite (fun _ => .refl _)
  intro _
  apply Agrees.ite (fun _ => .refl _)
  intro _
  apply Agrees.ite (fun _ => .refl _)
  intro _
  apply Agrees.ite (fun _ => .refl _)
  exact fun _ => agrees_instantiate hagrees hcls harguments

theorem agrees_runClass (routine : ClassRoutine) (hreceiver : state.Has receiver)
    (harguments : ∀ value ∈ arguments, state.Has value) :
    state.Agrees (Builtin.runClass run routine receiver arguments)
      (Builtin.runClass other routine receiver arguments) := by
  cases routine with
  | make =>
      apply Agrees.look (looks_expectClass hreceiver)
      exact fun cls hcls => agrees_makeInstance hagrees hcls harguments
  | _ => exact .refl _

variable (hrun : run.Safe)

include hrun

theorem agrees_anyEqual {value : Value} {items : List Value} (hvalue : state.Has value)
    (hitems : ∀ item ∈ items, state.Has item) :
    state.Agrees (Builtin.anyEqual run value items) (Builtin.anyEqual other value items) := by
  induction items generalizing state with
  | nil => exact .refl _
  | cons item rest ih =>
      have hone : ∀ argument ∈ [value], state.Has argument := by simpa using hvalue
      have hitem := hitems item List.mem_cons_self
      apply (agrees_send hagrees "==" hitem hone).bind (gives_send "==" hrun hitem hone)
      intro reached answer hgrows _
      apply Agrees.ite (fun _ => .refl _)
      intro _
      apply ih (hgrows.has hvalue)
      exact hgrows.hasAll fun item hitem => hitems item (List.mem_cons_of_mem _ hitem)

theorem agrees_runArray (routine : ArrayRoutine) (hreceiver : state.Has receiver)
    (harguments : ∀ value ∈ arguments, state.Has value) :
    state.Agrees (Builtin.runArray run routine receiver arguments)
      (Builtin.runArray other routine receiver arguments) := by
  cases routine with
  | includes =>
      apply Agrees.arity
      apply Agrees.look (looks_expectItems hreceiver)
      exact fun items hitems =>
        (agrees_anyEqual hagrees hrun (has_argument harguments 0) hitems).first _
  | _ => exact .refl _

theorem agrees_clamp {value least greatest : Value} (hvalue : state.Has value)
    (hleast : state.Has least) (hgreatest : state.Has greatest) :
    state.Agrees (Builtin.clamp run value least greatest)
      (Builtin.clamp other value least greatest) := by
  apply (agrees_ordered hagrees hleast hgreatest).bind (leads_ordered hrun hleast hgreatest)
  intro first _ hfirst _
  apply Agrees.ite (fun _ => .refuse _)
  intro _
  apply (agrees_ordered hagrees (hfirst.has hvalue) (hfirst.has hleast)).bind
    (leads_ordered hrun (hfirst.has hvalue) (hfirst.has hleast))
  intro second _ hsecond _
  have hgrown := hfirst.trans hsecond
  apply Agrees.ite (fun _ => .refl _)
  exact fun _ => (agrees_ordered hagrees (hgrown.has hvalue) (hgrown.has hgreatest)).first _

theorem agrees_runComparable (routine : ComparableRoutine) (hreceiver : state.Has receiver)
    (harguments : ∀ value ∈ arguments, state.Has value) :
    state.Agrees (Builtin.runComparable run routine receiver arguments)
      (Builtin.runComparable other routine receiver arguments) := by
  have hargument := has_argument harguments
  have hordered := agrees_ordered hagrees hreceiver (hargument 0)
  cases routine with
  | equal =>
      apply Agrees.arity
      apply Agrees.ite (fun _ => .refl _)
      exact fun _ => (agrees_compareBySend hagrees hreceiver (hargument 0)).first _
  | less => exact .arity (hordered.first _)
  | lessOrEqual => exact .arity (hordered.first _)
  | greater => exact .arity (hordered.first _)
  | greaterOrEqual => exact .arity (hordered.first _)
  | between =>
      apply Agrees.arity
      apply hordered.bind (leads_ordered hrun hreceiver (hargument 0))
      intro reached _ hgrows _
      exact (agrees_ordered hagrees (hgrows.has hreceiver) (hgrows.has (hargument 1))).first _
  | clamp => exact .arity (agrees_clamp hagrees hrun hreceiver (hargument 0) (hargument 1))

theorem agrees_routine (routine : Routine) (hreceiver : state.Has receiver)
    (harguments : ∀ value ∈ arguments, state.Has value) :
    state.Agrees (routine.perform run receiver arguments)
      (routine.perform other receiver arguments) := by
  cases routine with
  | basic routine => exact agrees_runBasic hagrees routine hreceiver harguments
  | kernel routine => exact agrees_runKernel hagrees routine hreceiver harguments
  | classRoutine routine => exact agrees_runClass hagrees routine hreceiver harguments
  | array routine => exact agrees_runArray hagrees hrun routine hreceiver harguments
  | comparable routine => exact agrees_runComparable hagrees hrun routine hreceiver harguments
  | encoding routine => exact agrees_runEncoding hagrees routine harguments
  | _ => exact .refl _

/-! ## Operations and expressions -/

omit hrun in
theorem agrees_perform (operation : Operation Body) {operands : List Value}
    (hoperands : ∀ value ∈ operands, state.Has value) :
    state.Agrees (operation.perform run operands) (operation.perform other operands) := by
  have hfirst := has_argument hoperands 0
  have hrest : ∀ value ∈ operands.drop 1, state.Has value :=
    fun value hvalue => hoperands value (List.mem_of_mem_drop hvalue)
  cases operation with
  | instantiate =>
      apply Agrees.look (looks_expectClass hfirst)
      exact fun cls hcls => (agrees_instantiate hagrees hcls hrest).first _
  | invoke name => exact (agrees_dispatchName hagrees true name hfirst hrest).first _
  | send name => exact (agrees_send hagrees name hfirst hrest).first _
  | sendSymbol name =>
      apply Agrees.rest (leads_intern name)
      rintro reached symbol hgrows ⟨_, hsymbol⟩
      exact (agrees_dispatch hagrees false (hgrows.has hfirst) hsymbol (hgrows.hasAll hrest)).first _
  | setDefaultInternal => exact ((agrees_assignDefault hagrees _ hfirst).first _).first _
  | setDefaultExternal => exact ((agrees_assignDefault hagrees _ hfirst).first _).first _
  | _ => exact .refl _

omit hagrees in
/-- Expressions are evaluated in turn, each in the state to which those before it led. -/
theorem agrees_evaluateAll {items : List Expr} {ok : Value → Prop}
    (huses : ∀ item ∈ items, item.Uses ok)
    (hitems : ∀ item ∈ items, ∀ {reached : State}, (∀ value, ok value → reached.Has value) →
      reached.Has receiver → (∀ value ∈ arguments, reached.Has value) →
        reached.Agrees (item.evaluate run receiver arguments)
          (item.evaluate other receiver arguments))
    (hok : ∀ value, ok value → state.Has value) (hreceiver : state.Has receiver)
    (harguments : ∀ value ∈ arguments, state.Has value) :
    state.Agrees (Expr.evaluateAll run receiver arguments items)
      (Expr.evaluateAll other receiver arguments items) := by
  induction items generalizing state with
  | nil =>
      rw [Expr.evaluateAll, Expr.evaluateAll]
      exact .refl _
  | cons item rest ih =>
      rw [Expr.evaluateAll, Expr.evaluateAll]
      apply (hitems item List.mem_cons_self hok hreceiver harguments).bind
        (gives_evaluate hrun (huses item List.mem_cons_self) hok hreceiver harguments)
      intro reached value hgrows _
      have hgrown : ∀ value, ok value → reached.Has value :=
        fun value hvalue => hgrows.has (hok value hvalue)
      have hothers := ih (fun other hother => huses other (List.mem_cons_of_mem _ hother))
        (fun other hother => hitems other (List.mem_cons_of_mem _ hother)) hgrown
        (hgrows.has hreceiver) (hgrows.hasAll harguments)
      exact hothers.first _

theorem agrees_evaluate {expression : Expr} {ok : Value → Prop} (huses : expression.Uses ok)
    (hok : ∀ value, ok value → state.Has value) (hreceiver : state.Has receiver)
    (harguments : ∀ value ∈ arguments, state.Has value) :
    state.Agrees (expression.evaluate run receiver arguments)
      (expression.evaluate other receiver arguments) := by
  induction huses generalizing state with
  | array hitems ih =>
      rw [Expr.evaluate, Expr.evaluate]
      exact (agrees_evaluateAll hrun hitems ih hok hreceiver harguments).first _
  | metaclass _ ih =>
      rw [Expr.evaluate, Expr.evaluate]
      exact (ih hok hreceiver harguments).first _
  | sequence hitems ih =>
      rw [Expr.evaluate, Expr.evaluate]
      exact (agrees_evaluateAll hrun hitems ih hok hreceiver harguments).first _
  | choose hof _ _ hcondition hyes hno =>
      rw [Expr.evaluate, Expr.evaluate]
      apply (hcondition hok hreceiver harguments).bind
        (gives_evaluate hrun hof hok hreceiver harguments)
      intro reached value hgrows _
      have hgrown : ∀ value, ok value → reached.Has value :=
        fun value hvalue => hgrows.has (hok value hvalue)
      apply Agrees.ite
      · exact fun _ => hyes hgrown (hgrows.has hreceiver) (hgrows.hasAll harguments)
      · exact fun _ => hno hgrown (hgrows.has hreceiver) (hgrows.hasAll harguments)
  | @perform operation operands target _ hoperands _ ih =>
      rw [Expr.evaluate, Expr.evaluate]
      have hall := agrees_evaluateAll hrun hoperands ih hok hreceiver harguments
      have hleads := leads_evaluateAll (fun item hitem {_} hok hreceiver harguments =>
        gives_evaluate hrun (hoperands item hitem) hok hreceiver harguments) hok hreceiver harguments
      apply hall.bind hleads
      intro reached values _ hvalues
      exact ((agrees_perform hagrees (operation.map .script) hvalues).first _).first _
  | _ =>
      rw [Expr.evaluate, Expr.evaluate]
      exact .refl _

/-! ## Bodies -/

theorem agrees_runWith {body : Body} (hbody : state.FitsBody body) (hreceiver : state.Has receiver)
    (harguments : ∀ value ∈ arguments, state.Has value) :
    state.Agrees (body.runWith run receiver arguments) (body.runWith other receiver arguments) := by
  cases body with
  | builtin method installation =>
      exact agrees_routine hagrees hrun method.routine hreceiver harguments
  | script expression =>
      exact agrees_evaluate hagrees hrun hbody (fun _ hvalue => hvalue) hreceiver harguments
  | _ => exact .refl _

end

end State

end ObjectModel
