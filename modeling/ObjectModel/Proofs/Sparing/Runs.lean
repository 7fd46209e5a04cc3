import ObjectModel.Proofs.Interpreter
import ObjectModel.Proofs.Sparing.Builtins
import ObjectModel.Proofs.State.Initial

/-! # Programs that remove no constants

Evaluating an expression spares the constants of frozen classes, if no part of it and no body in a method table
removes a constant. The one operation that is not sparing is the one that is left out.
-/

namespace ObjectModel

open Relation

variable {run : Runner} [hrun : run.IsSparing]

/-! ## Operations -/

instance sparing_reportMethod (receiver : Value) (name : String) :
    Sparing (reportMethod receiver name) := by
  rw [reportMethod]
  refine Sparing.andThen fun entry => ?_
  cases entry <;> infer_instance

instance sparing_optionalClass (operand : Value) : Sparing (optionalClass operand) := by
  unfold optionalClass
  split <;> infer_instance

/-- Putting in one builtin method, whose body removes no constant. -/
theorem State.steps_installOne (state : State) (installation : Nat) (registration : Registration) :
    ReflTransGen SparingStep state (state.installOne installation registration) := by
  have hready : state.SameContent (state.builtinOwner registration.builtin).2 := by
    rw [builtinOwner]
    split
    · exact ⟨state.graph.sameContent_metaclassOf _, List.prefix_rfl, rfl⟩
    · exact ⟨.refl _, List.prefix_rfl, rfl⟩
  rw [installOne_eq]
  generalize state.builtinOwner registration.builtin = prepared at hready ⊢
  obtain ⟨owner, ready⟩ := prepared
  have hnamed : ready.SameContent (Change.apply ready (.intern registration.name)) :=
    ⟨.refl _, ready.names.grows_intern _, rfl⟩
  refine .tail (.tail (.single (.rest hready)) (.rest hnamed)) (.methods (fun _ => ⟨rfl, rfl, rfl⟩) ?_)
  intro id pair hpair
  rcases Graph.mem_putMethod hpair with ⟨_, rfl⟩ | hold
  · exact .inl trivial
  · exact .inr hold

theorem State.steps_installBuiltins (state : State) :
    ReflTransGen SparingStep state state.installBuiltins := by
  suffices hall : ∀ (registrations : List Registration) {reached : State},
      ReflTransGen SparingStep state reached → ReflTransGen SparingStep state
        (registrations.foldl (State.installOne state.installations) reached) by
    have hinstalled := hall Builtin.registrations .refl
    rw [installBuiltins]
    generalize Builtin.registrations.foldl (State.installOne state.installations) state = installed
      at hinstalled ⊢
    exact hinstalled.tail (.rest ⟨.refl _, List.prefix_rfl, rfl⟩)
  intro registrations
  induction registrations with
  | nil => exact fun hreached => hreached
  | cons registration rest ih =>
      exact fun hreached => ih (hreached.trans (steps_installOne _ _ registration))

instance sparing_installBuiltins : Sparing (modify State.installBuiltins : Action Unit) :=
  ⟨fun _ => State.steps_installBuiltins _⟩

/-- Performing any operation but the one that removes a constant is sparing. -/
theorem sparing_perform {operation : Operation Body} (hkept : operation.removesConstant = false)
    (hbodies : ∀ body ∈ operation.bodies, body.Spares) (operands : List Value) :
    Sparing (operation.perform run operands) := by
  cases operation with
  | defineMethod name body =>
      have hdefine := fun id => sparing_defineMethod id name (hbodies body List.mem_cons_self)
      rw [Operation.perform]
      infer_instance
  | defineSingletonMethod name body =>
      have hdefine := fun value =>
        sparing_defineSingletonMethod value name (hbodies body List.mem_cons_self)
      rw [Operation.perform]
      infer_instance
  | constantRemove name => cases hkept
  | _ =>
      rw [Operation.perform]
      infer_instance

theorem removesConstant_map {β γ : Type} (change : β → γ) (operation : Operation β) :
    (operation.map change).removesConstant = operation.removesConstant := by
  cases operation <;> rfl

omit hrun in
theorem sparing_performInto {operation : Operation Body} {operands : List Value}
    (target : Option String) (hperform : Sparing (operation.perform run operands)) :
    Sparing (performInto run operation operands target) := by
  have hkeep (name : String) (value : Value) : Sparing (modify fun state : State =>
      { state with scriptVariables := state.scriptVariables.insert name value } : Action Unit) :=
    .of_graph fun _ => ⟨rfl, rfl, rfl⟩
  rw [performInto]
  refine Sparing.andThen fun answer => ?_
  dsimp only
  split <;> infer_instance

/-! ## Expressions -/

omit hrun in
theorem sparing_evaluateAll {receiver : Value} {arguments : List Value} {items : List Expr}
    (hitems : ∀ item ∈ items, Sparing (item.evaluate run receiver arguments)) :
    Sparing (Expr.evaluateAll run receiver arguments items) := by
  induction items with
  | nil =>
      rw [Expr.evaluateAll]
      infer_instance
  | cons item rest ih =>
      have hitem := hitems item List.mem_cons_self
      have hrest := ih fun other hother => hitems other (List.mem_cons_of_mem _ hother)
      rw [Expr.evaluateAll]
      infer_instance

/-- Evaluating an expression no part of which removes a constant is sparing. -/
theorem sparing_evaluate {expression : Expr} (hspares : expression.Spares) (receiver : Value)
    (arguments : List Value) : Sparing (expression.evaluate run receiver arguments) := by
  -- on the parts of the expression, which are evaluated in one of a few ways
  induction hspares with
  | @intro expression hown hspares hparts =>
      cases expression with
      | array items =>
          have hitems : Sparing (Expr.evaluateAll run receiver arguments items) :=
            sparing_evaluateAll hparts
          rw [Expr.evaluate]
          infer_instance
      | sequence items =>
          have hitems : Sparing (Expr.evaluateAll run receiver arguments items) :=
            sparing_evaluateAll hparts
          rw [Expr.evaluate]
          infer_instance
      | metaclass of =>
          have hof := hparts of List.mem_cons_self
          rw [Expr.evaluate]
          infer_instance
      | choose condition yes no =>
          have hcondition := hparts condition (by simp [Expr.parts])
          have hyes := hparts yes (by simp [Expr.parts])
          have hno := hparts no (by simp [Expr.parts])
          rw [Expr.evaluate]
          infer_instance
      | perform operation operands target =>
          have hvalues := sparing_evaluateAll fun part hpart =>
            hparts part (List.mem_append_right operation.bodies hpart)
          have hbodies : ∀ body ∈ (operation.map Body.script).bodies, body.Spares := by
            intro body hbody
            rw [Operation.bodies_map] at hbody
            obtain ⟨part, hpart, rfl⟩ := List.mem_map.mp hbody
            exact hspares part (List.mem_append_left operands hpart)
          have hkept : (operation.map Body.script).removesConstant = false :=
            (removesConstant_map _ _).trans (hown operation rfl)
          have hperform (values : List Value) :
              Sparing (performInto run (operation.map .script) values target) :=
            sparing_performInto target (sparing_perform hkept hbodies values)
          rw [Expr.evaluate]
          infer_instance
      | classAt path =>
          rw [Expr.evaluate]
          refine Sparing.andThen fun state => ?_
          split <;> infer_instance
      | _ =>
          rw [Expr.evaluate]
          infer_instance

/-! ## Bodies -/

instance sparing_runBody (depth : Nat) : (runBody depth).IsSparing := by
  induction depth with
  | zero => exact ⟨fun _ _ _ => .throw .exhausted⟩
  | succ depth ih =>
      constructor
      intro body hbody receiver arguments
      rw [runBody]
      cases body with
      | script expression => exact sparing_evaluate hbody receiver arguments
      | _ =>
          rw [Body.runWith]
          infer_instance

namespace State

/-- A program no part of which removes a constant, in an object model without a body that does. -/
theorem sparedIn_evaluate {state : State} (hsparing : state.HasSparing) (depth : Nat)
    {expression : Expr} (hspares : expression.Spares) :
    state.SparedIn (state.after (expression.evaluate (runBody depth) .nil [])) :=
  (sparing_evaluate hspares .nil []).sparedIn hsparing

/-! ## The start -/

theorem hasSparing_bare : bare.HasSparing := by
  intro id pair hpair
  rw [empty_methods_bare] at hpair
  exact absurd hpair List.not_mem_nil

theorem HasSparing.nameEncoding {state : State} (hsparing : state.HasSparing)
    (pair : EncodingId × String) : (state.nameEncoding pair).HasSparing := by
  rcases state.nameEncoding_eq pair with heq | heq
  · rw [heq]
    exact hsparing
  · rw [heq]
    have hsame := @Graph.forall_record_update (fun before after => after.methods = before.methods)
      state.graph CoreClass.encoding.id
      (.putConstant (state.names.intern pair.2).1 (.encoding pair.1)) (fun _ => rfl) fun _ => rfl
    exact fun id method hmethod => hsparing id method (hsame id ▸ hmethod)

theorem HasSparing.foldl_nameEncoding {state : State} (hsparing : state.HasSparing)
    (pairs : List (EncodingId × String)) : (pairs.foldl State.nameEncoding state).HasSparing := by
  induction pairs generalizing state with
  | nil => exact hsparing
  | cons pair rest ih => exact ih (hsparing.nameEncoding pair)

/-- The bodies of a new object model are those of builtin methods. -/
theorem hasSparing_initial (options : Options) (defaults : Encoding.Defaults)
    (configuration : Config.Settings) : (initial options defaults configuration).HasSparing := by
  have hinstalled := (sparing_installBuiltins.sparedIn hasSparing_bare).hasSparing
  have hstandard : standard.HasSparing := hinstalled.foldl_nameEncoding encodingConstants
  intro id pair hpair
  rw [graph_initial] at hpair
  exact hstandard id pair hpair

end State

end ObjectModel
