import ObjectModel.Proofs.Renumber.Builtins

/-! # Programs and installation numbers

Performing an operation, evaluating an expression and running a body do the same with other installation numbers
in the state, unless the method of an unknown name is lacking. The entries of methods that are reported tell
their numbers.
-/

namespace ObjectModel

variable {number : Nat → Nat}

/-! ## Answers -/

/-- The report with other installation numbers. -/
def ClassReport.renumber (number : Nat → Nat) (report : ClassReport) : ClassReport :=
  { report with
    record := report.record.renumber number
    methods := report.methods.map fun method => (method.1, method.2.renumber number) }

theorem ClassReport.renumber_renumber (number later : Nat → Nat) (report : ClassReport) :
    (report.renumber number).renumber later = report.renumber (later ∘ number) := by
  simp [renumber, ClassRecord.renumber_renumber, MethodEntry.renumber_renumber]

/-- The report with another installation number. -/
def MethodReport.renumber (number : Nat → Nat) (report : MethodReport) : MethodReport :=
  { report with entry := report.entry.renumber number }

/-- The answer with other installation numbers, which only the reports of methods tell. -/
def Answer.renumber (number : Nat → Nat) : Answer → Answer
  | .cls report => .cls (report.renumber number)
  | .method report => .method (report.map (.renumber number))
  | answer => answer

theorem Answer.renumber_renumber (number later : Nat → Nat) (answer : Answer) :
    (answer.renumber number).renumber later = answer.renumber (later ∘ number) := by
  cases answer with
  | cls report => exact congrArg Answer.cls (report.renumber_renumber number later)
  | method report =>
      cases report with
      | none => rfl
      | some report =>
          exact congrArg (fun entry => Answer.method (some { report with entry }))
            (report.entry.renumber_renumber number later)
  | _ => rfl

theorem Answer.toValue_renumber (number : Nat → Nat) (answer : Answer) :
    (answer.renumber number).toValue = answer.toValue := by
  cases answer <;> rfl

theorem State.classReport_renumber (number : Nat → Nat) (state : State) (id : ClassId) :
    (state.renumber number).classReport id = (state.classReport id).renumber number := by
  simp only [classReport, ClassReport.renumber, renumber_graph, Graph.record_renumber,
    Graph.sortedMethods_renumber, Graph.displayName_renumber, symbolText_renumber, List.map_map]
  rfl

/-! ## Installing builtin methods -/

theorem State.installOne_renumber (number : Nat → Nat) (installation : Nat) (state : State)
    (registration : Registration) :
    (state.renumber number).installOne (number installation) registration =
      (state.installOne installation registration).renumber number := by
  have hput (graph : Graph) (owner : ClassId) (symbol : Symbol) :
      (graph.renumber number).update owner (.putMethod symbol
          { owner, body := .builtin registration.builtin (number installation),
            visibility := registration.visibility }) =
        (graph.update owner (.putMethod symbol
          { owner, body := .builtin registration.builtin installation,
            visibility := registration.visibility })).renumber number :=
    graph.update_renumber number owner fun record => record.putMethod_renumber number symbol
      { owner, body := .builtin registration.builtin installation, visibility := registration.visibility }
  cases hmeta : registration.builtin.onMetaclass with
  | false =>
      simp only [installOne, hmeta, renumber_graph, renumber_names]
      exact congrArg (fun graph => { state.renumber number with
        graph, names := (state.names.intern registration.name).2 }) (hput state.graph _ _)
  | true =>
      simp only [installOne, hmeta, renumber_graph, renumber_names, Graph.metaclassOf_renumber]
      exact congrArg (fun graph => { state.renumber number with
        graph, names := (state.names.intern registration.name).2 }) (hput _ _ _)

/-- Another installation has the number that comes next. -/
theorem State.installBuiltins_renumber {state : State} (hnumber : Renumbering number state.installations) :
    (state.renumber number).installBuiltins = state.installBuiltins.renumber number := by
  have hall (registrations : List Registration) (reached : State) :
      registrations.foldl (installOne (number state.installations)) (reached.renumber number) =
        (registrations.foldl (installOne state.installations) reached).renumber number := by
    induction registrations generalizing reached with
    | nil => rfl
    | cons registration rest ih =>
        rw [List.foldl_cons, List.foldl_cons, installOne_renumber, ih]
  rw [installBuiltins, renumber_installations, hall, installBuiltins]
  generalize Builtin.registrations.foldl (installOne state.installations) state = installed
  exact congrArg (fun count => { installed.renumber number with installations := count })
    (hnumber.next (Nat.le_refl _)).symm

instance steady_installBuiltins : Steady number (modify State.installBuiltins : Action Unit) where
  runs hnumber := .inl (.modify (State.installBuiltins_renumber hnumber) (Nat.le_succ _))

/-! ## Operations -/

theorem map_ask {α β : Type} (change : α → β) (read : State → α) :
    (change <$> ask read) = ask fun state => change (read state) := rfl

theorem parallel_reportMethod (receiver : Value) (name : String) :
    Parallel number (Option.map (.renumber number) <$> reportMethod receiver name)
      (reportMethod receiver name) := by
  rw [reportMethod, map_bind]
  refine (parallel_findMethod receiver name).map_bind fun found => ?_
  cases found with
  | none => exact .pure _
  | some entry => exact .ask fun _ => by simp [MethodReport.renumber]

instance steady_optionalClass (operand : Value) : Steady number (optionalClass operand) := by
  unfold optionalClass
  split <;> infer_instance

section

variable {run : Runner} [hrun : run.IsSteady number]

/-- Performing an operation that defines methods written as expressions, if it defines any. -/
theorem parallel_perform (operation : Operation Expr) (operands : List Value) :
    Parallel number (Answer.renumber number <$> (operation.map Body.script).perform run operands)
      ((operation.map Body.script).perform run operands) := by
  cases operation with
  | defineMethod name body =>
      have hdefine (id : ClassId) : Steady number (defineMethod id name (.script body)) :=
        parallel_defineMethod id name (.script body)
      rw [Operation.map, Operation.perform]
      simp only [map_bind, map_pure, Answer.renumber]
      infer_instance
  | defineSingletonMethod name body =>
      have hdefine (value : Value) : Steady number (defineSingletonMethod value name (.script body)) :=
        parallel_defineSingletonMethod value name (.script body)
      rw [Operation.map, Operation.perform]
      simp only [map_bind, map_pure, Answer.renumber]
      infer_instance
  | findMethod name =>
      rw [Operation.map, Operation.perform]
      simp only [map_bind, map_pure, Answer.renumber]
      exact (parallel_reportMethod _ name).map_bind fun report => .pure _
  | classReport =>
      rw [Operation.map, Operation.perform]
      simp only [map_bind, map_ask, Answer.renumber]
      exact .andThen fun id => .ask fun state => congrArg Answer.cls (state.classReport_renumber number id)
  | ancestors | superclass | instanceMethods | methodDefined | constantResolve | ownConstants | constants =>
      rw [Operation.map, Operation.perform]
      simp only [map_bind, map_ask, Answer.renumber]
      exact .andThen fun id => .ask fun state => by simp [State.constantReport?]
  | classOf | counts | objectReport | lookupSymbol | symbolName | variableNames | isFrozen | toText | inspect
  | describeReceiver | defaultInternal | defaultExternal =>
      rw [Operation.map, Operation.perform]
      simp only [map_ask, Answer.renumber]
      exact .ask fun state => by
        simp [State.objectReport?, State.namedVariables, State.defaultInternal, State.defaultExternal]
  | _ =>
      rw [Operation.map, Operation.perform]
      simp only [map_bind, map_pure, Answer.renumber]
      infer_instance

instance parallel_performInto (operation : Operation Expr) (operands : List Value) (target : Option String) :
    Parallel number (Answer.renumber number <$> performInto run (operation.map .script) operands target)
      (performInto run (operation.map .script) operands target) := by
  have hkeep (name : String) (value : Value) : Steady number (modify fun state : State =>
      { state with scriptVariables := state.scriptVariables.insert name value } : Action Unit) :=
    .modify (fun _ => rfl) fun _ => rfl
  rw [performInto, map_bind]
  refine (parallel_perform operation operands).map_bind fun answer => ?_
  have hdone : Parallel number (Answer.renumber number <$> (pure answer : Action Answer))
      (pure (answer.renumber number)) := by
    rw [map_pure]
    infer_instance
  cases target with
  | none => exact hdone
  | some name =>
      cases answer with
      | value content =>
          rw [map_bind]
          exact .andThen fun _ => hdone
      | _ => exact hdone

end

/-! ## Expressions -/

section

variable {run : Runner}

mutual

theorem steady_evaluate [run.IsSteady number] (receiver : Value) (arguments : List Value) :
    (expression : Expr) → Steady number (expression.evaluate run receiver arguments)
  | .array items => by
      have hitems := steady_evaluateAll receiver arguments items
      rw [Expr.evaluate]
      infer_instance
  | .sequence items => by
      have hitems := steady_evaluateAll receiver arguments items
      rw [Expr.evaluate]
      infer_instance
  | .metaclass of => by
      have hof := steady_evaluate receiver arguments of
      rw [Expr.evaluate]
      infer_instance
  | .choose condition yes no => by
      have hcondition := steady_evaluate receiver arguments condition
      have hyes := steady_evaluate receiver arguments yes
      have hno := steady_evaluate receiver arguments no
      rw [Expr.evaluate]
      infer_instance
  | .perform operation operands target => by
      have hoperands := steady_evaluateAll receiver arguments operands
      rw [Expr.evaluate]
      refine Parallel.andThen fun values => ?_
      refine (parallel_performInto operation values target).map_bind fun answer => ?_
      rw [Answer.toValue_renumber]
      infer_instance
  | .classAt path => by
      rw [Expr.evaluate]
      refine .get_same (fun _ => by simp) fun state => ?_
      split <;> infer_instance
  | .named name => .ask fun _ => rfl
  | .constant value => .pure value
  | .text content => steady_newString content
  | .literal content => steady_newLiteral content
  | .symbol name => .bind
  | .encoding name => .bind
  | .receiver => .pure receiver
  | .argument position => .pure _
  | .arguments => steady_newArray arguments
  | .raise fault => .refuse fault

theorem steady_evaluateAll [run.IsSteady number] (receiver : Value) (arguments : List Value) :
    (items : List Expr) → Steady number (Expr.evaluateAll run receiver arguments items)
  | [] => .pure []
  | item :: rest => by
      have hitem := steady_evaluate receiver arguments item
      have hrest := steady_evaluateAll receiver arguments rest
      rw [Expr.evaluateAll]
      infer_instance

end

end

/-! ## Bodies -/

instance steady_runBody (depth : Nat) : (runBody depth).IsSteady number := by
  induction depth with
  | zero => exact ⟨fun _ _ _ => .throw .exhausted⟩
  | succ depth ih =>
      constructor
      intro body receiver arguments
      rw [runBody]
      cases body with
      | script expression => exact steady_evaluate receiver arguments expression
      | _ =>
          simp only [Body.runWith, Body.renumber]
          infer_instance

end ObjectModel
