import ObjectModel.Interpreter
import ObjectModel.Proofs.Perform

/-! # Running bodies is safe

Evaluating an expression that uses only what is there does nothing but allowed changes and gives what is there. From that
it follows by induction on the bound that running bodies is safe however deeply calls are nested.
-/

namespace ObjectModel

theorem Operation.bodies_map {β γ : Type} (change : β → γ) (operation : Operation β) :
    (operation.map change).bodies = operation.bodies.map change := by
  cases operation <;> rfl

namespace State

variable {state : State} {run : Runner} {receiver : Value} {arguments : List Value}

/-! ## Expressions -/

theorem Sound.has_classAt (hsound : state.Sound) {scope id : ClassId} {path : List String}
    (hscope : state.graph.Has scope) (hclass : state.classAt? scope path = some id) :
    state.graph.Has id := by
  induction path generalizing scope with
  | nil => exact Option.some.inj hclass ▸ hscope
  | cons name rest ih =>
      rw [classAt?] at hclass
      split at hclass
      next hresolve => exact ih (hsound.has_resolveConstant hresolve) hclass
      · simp at hclass

/-- Keeping the value of an answer in a variable. -/
theorem answers_performInto {operation : Operation Body} {operands : List Value}
    (target : Option String) (hrun : run.Safe)
    (hbodies : ∀ body ∈ operation.bodies, state.FitsBody body ∧ body.isBuiltin = false)
    (hoperands : ∀ value ∈ operands, state.Has value) :
    state.Answers (performInto run operation operands target) := by
  apply Leads.bind (answers_perform hrun hbodies hoperands)
  intro reached answer _ hanswer
  split
  next name value =>
    have hset : reached.Leads (modify fun state =>
        { state with scriptVariables := state.scriptVariables.insert name value } : Action Unit)
        fun _ _ => True :=
      .change (.setVariable name value) rfl (fun _ => hanswer) trivial fun _ _ => trivial
    exact hset.bind fun _ _ hgrows _ => .pure (hgrows.has hanswer)
  · exact .pure hanswer

/-- Expressions are evaluated in turn, each in the state to which those before it led. -/
theorem leads_evaluateAll {items : List Expr} {ok : Value → Prop}
    (hitems : ∀ item ∈ items, ∀ {reached : State}, (∀ value, ok value → reached.Has value) →
      reached.Has receiver → (∀ value ∈ arguments, reached.Has value) →
        reached.Gives (item.evaluate run receiver arguments))
    (hok : ∀ value, ok value → state.Has value) (hreceiver : state.Has receiver)
    (harguments : ∀ value ∈ arguments, state.Has value) :
    state.Leads (Expr.evaluateAll run receiver arguments items) fun reached values =>
      ∀ value ∈ values, reached.Has value := by
  induction items generalizing state with
  | nil =>
      rw [Expr.evaluateAll]
      exact .pure (by simp)
  | cons item rest ih =>
      rw [Expr.evaluateAll]
      apply Leads.bind (hitems item List.mem_cons_self hok hreceiver harguments)
      intro reached value hgrows hvalue
      have hgrown : ∀ value, ok value → reached.Has value :=
        fun value hvalue => hgrows.has (hok value hvalue)
      apply Leads.bind (ih (fun other hother => hitems other (List.mem_cons_of_mem _ hother)) hgrown
        (hgrows.has hreceiver) (hgrows.hasAll harguments))
      intro last values hlast hvalues
      apply Leads.pure
      intro other hother
      rcases List.mem_cons.mp hother with rfl | hother
      · exact hlast.has hvalue
      · exact hvalues other hother

theorem has_getLast {values : List Value} (hvalues : ∀ value ∈ values, state.Has value) :
    state.Has (values.getLast?.getD .nil) := by
  cases hlast : values.getLast? with
  | none => trivial
  | some value => exact hvalues value (List.mem_of_getLast? hlast)

/-- What an expression that uses only what is there evaluates to is there. -/
theorem gives_evaluate {expression : Expr} {ok : Value → Prop} (hrun : run.Safe)
    (huses : expression.Uses ok) (hok : ∀ value, ok value → state.Has value)
    (hreceiver : state.Has receiver) (harguments : ∀ value ∈ arguments, state.Has value) :
    state.Gives (expression.evaluate run receiver arguments) := by
  -- on how the expression uses what is there, which stays there while the state grows
  induction huses generalizing state with
  | constant hvalue =>
      rw [Expr.evaluate]
      exact .pure (hok _ hvalue)
  | named name =>
      rw [Expr.evaluate]
      apply Leads.ofSound
      intro hsound
      apply Leads.ask
      cases hfind : state.scriptVariables.find? name with
      | none => trivial
      | some value => exact hsound.scriptVariables _ (Table.mem_of_find hfind)
  | text content =>
      rw [Expr.evaluate]
      exact gives_newString content
  | literal content =>
      rw [Expr.evaluate]
      exact gives_newLiteral content
  | symbol name =>
      rw [Expr.evaluate]
      exact (leads_intern name).bind fun _ _ _ hsymbol => .pure hsymbol.2
  | array _ ih =>
      rw [Expr.evaluate]
      have hitems := leads_evaluateAll ih hok hreceiver harguments
      exact hitems.bind fun _ _ _ hvalues => gives_newArray hvalues
  | classAt path =>
      rw [Expr.evaluate]
      apply Leads.ofSound
      intro hsound
      apply Leads.get_bind
      split
      next hclass => exact .pure (hsound.has_classAt (hsound.graph.stacked.has_core .object) hclass)
      · exact .refuse _
  | metaclass _ ih =>
      rw [Expr.evaluate]
      apply Leads.bind (ih hok hreceiver harguments)
      intro reached value _ hvalue
      exact (leads_singletonClassOf hvalue).bind fun _ _ _ hsingleton => .pure hsingleton
  | encoding name =>
      rw [Expr.evaluate]
      exact .settle_bind fun _ hid => .pure (lt_of_named hid)
  | receiver =>
      rw [Expr.evaluate]
      exact .pure hreceiver
  | argument position =>
      rw [Expr.evaluate]
      exact .pure (has_argument harguments position)
  | arguments =>
      rw [Expr.evaluate]
      exact gives_newArray harguments
  | sequence _ ih =>
      rw [Expr.evaluate]
      have hitems := leads_evaluateAll ih hok hreceiver harguments
      exact hitems.bind fun _ _ _ hvalues => .pure (has_getLast hvalues)
  | choose _ _ _ hcondition hyes hno =>
      rw [Expr.evaluate]
      apply Leads.bind (hcondition hok hreceiver harguments)
      intro reached value hgrows _
      have hgrown : ∀ value, ok value → reached.Has value :=
        fun value hvalue => hgrows.has (hok value hvalue)
      apply Leads.ite
      · exact fun _ => hyes hgrown (hgrows.has hreceiver) (hgrows.hasAll harguments)
      · exact fun _ => hno hgrown (hgrows.has hreceiver) (hgrows.hasAll harguments)
  | raise fault =>
      rw [Expr.evaluate]
      exact .refuse fault
  | @perform operation operands target hbodies _ _ ih =>
      rw [Expr.evaluate]
      have hitems := leads_evaluateAll ih hok hreceiver harguments
      apply Leads.bind hitems
      intro reached values hgrows hvalues
      have hfits : ∀ body ∈ (operation.map Body.script).bodies,
          reached.FitsBody body ∧ body.isBuiltin = false := by
        intro body hbody
        rw [Operation.bodies_map] at hbody
        obtain ⟨expression, hexpression, rfl⟩ := List.mem_map.mp hbody
        have huses := (hbodies expression hexpression).mono fun value hvalue =>
          hgrows.has (hok value hvalue)
        exact ⟨huses, rfl⟩
      exact (answers_performInto target hrun hfits hvalues).bind fun _ _ _ hanswer =>
        .pure hanswer.toValue

/-! ## Bodies -/

theorem gives_runWith {body : Body} (hrun : run.Safe) (hbody : state.FitsBody body)
    (hreceiver : state.Has receiver) (harguments : ∀ value ∈ arguments, state.Has value) :
    state.Gives (body.runWith run receiver arguments) := by
  cases body with
  | builtin method installation => exact gives_routine method.routine hrun hreceiver harguments
  | reader name =>
      apply Leads.arity_bind
      exact (leads_variableGet hreceiver name).bind fun _ _ _ hcontent => .pure hcontent
  | writer name =>
      exact .arity_bind (gives_variableSet hreceiver name (has_argument harguments 0))
  | script expression =>
      exact gives_evaluate hrun hbody (fun _ hvalue => hvalue) hreceiver harguments
  | tombstone => exact leads_refuseMissing ""

end State

/-- Running bodies is safe however deeply calls are nested. -/
theorem safe_runBody (depth : Nat) : (runBody depth).Safe := by
  induction depth with
  | zero => exact fun _ _ _ => .throw .exhausted
  | succ depth ih => exact fun hbody hreceiver harguments =>
      State.gives_runWith ih hbody hreceiver harguments

end ObjectModel
