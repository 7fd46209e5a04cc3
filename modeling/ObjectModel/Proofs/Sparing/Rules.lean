import ObjectModel.Interpreter
import ObjectModel.Proofs.Graph.Lookup
import ObjectModel.Proofs.State.Constants
import ObjectModel.Proofs.State.MethodTables

/-! # Actions that remove no constants

Only one operation takes a constant out of a table, and it asks for no permission. Everything else is sparing, as long
as the bodies that it runs are: it goes on in steps of a few kinds, none of which changes a constant of a frozen class.
What is put together of sparing actions is sparing; that is found by looking for instances.
-/

namespace ObjectModel

open Relation

/-! ## Programs -/

/-- The operation takes a constant out of a table. -/
def Operation.removesConstant {β : Type} : Operation β → Bool
  | .constantRemove _ => true
  | _ => false

/-- The operation that an expression performs itself. -/
def Expr.operation? : Expr → Option (Operation Expr)
  | .perform operation _ _ => some operation
  | _ => none

/-- The expressions of which an expression is made, the bodies that it defines among them. -/
def Expr.parts : Expr → List Expr
  | .array items | .sequence items => items
  | .metaclass of => [of]
  | .choose condition yes no => [condition, yes, no]
  | .perform operation operands _ => operation.bodies ++ operands
  | _ => []

/-- No part of an expression removes a constant. -/
inductive Expr.Spares : Expr → Prop
  | intro {expression : Expr}
      (hown : ∀ operation, expression.operation? = some operation → operation.removesConstant = false)
      (hparts : ∀ part ∈ expression.parts, Spares part) : Spares expression

namespace Expr.Spares

/-- An expression that performs no operation itself. -/
theorem of_parts {expression : Expr} (hnone : expression.operation? = none)
    (hparts : ∀ part ∈ expression.parts, part.Spares) : expression.Spares :=
  .intro (by simp [hnone]) hparts

theorem perform {operation : Operation Expr} {operands : List Expr} (target : Option String)
    (hkept : operation.removesConstant = false) (hbodies : ∀ body ∈ operation.bodies, body.Spares)
    (hoperands : ∀ operand ∈ operands, operand.Spares) :
    (Expr.perform operation operands target).Spares := by
  constructor
  · intro other hother
    obtain rfl := Option.some.inj hother
    exact hkept
  · exact fun part hpart => (List.mem_append.mp hpart).elim (hbodies part) (hoperands part)

/-- An operation that defines nothing, on operands that do nothing themselves. -/
theorem perform_plain {operation : Operation Expr} {operands : List Expr} (target : Option String)
    (hkept : operation.removesConstant = false) (hbodies : operation.bodies = [])
    (hoperands : ∀ operand ∈ operands, operand.operation? = none ∧ operand.parts = []) :
    (Expr.perform operation operands target).Spares := by
  apply perform target hkept
  · rw [hbodies]
    exact nofun
  · intro operand hoperand
    obtain ⟨hnone, hparts⟩ := hoperands operand hoperand
    apply of_parts hnone
    rw [hparts]
    exact nofun

end Expr.Spares

/-- A body does not remove a constant itself. -/
def Body.Spares : Body → Prop
  | .script expression => expression.Spares
  | _ => True

/-! ## States -/

/-- Two records that differ at most in their places, their metaclasses, their variables and the modules mixed in. -/
structure ClassRecord.SameContent (first second : ClassRecord) : Prop where
  methods : second.methods = first.methods
  constants : second.constants = first.constants
  name : second.name = first.name
  isFrozen : second.isFrozen = first.isFrozen

namespace ClassRecord.SameContent

theorem refl (record : ClassRecord) : record.SameContent record := ⟨rfl, rfl, rfl, rfl⟩

theorem trans {first second third : ClassRecord} (hfirst : first.SameContent second)
    (hsecond : second.SameContent third) : first.SameContent third where
  methods := hsecond.methods.trans hfirst.methods
  constants := hsecond.constants.trans hfirst.constants
  name := hsecond.name.trans hfirst.name
  isFrozen := hsecond.isFrozen.trans hfirst.isFrozen

end ClassRecord.SameContent

namespace Graph

/-- The records of two graphs have the same content, where a record that is not there has none. -/
def SameContent (first second : Graph) : Prop :=
  ∀ id, (first.record id).SameContent (second.record id)

variable {graph first second third : Graph}

theorem SameContent.refl (graph : Graph) : graph.SameContent graph := fun _ => .refl _

theorem SameContent.trans (hfirst : first.SameContent second) (hsecond : second.SameContent third) :
    first.SameContent third :=
  fun id => (hfirst id).trans (hsecond id)

theorem sameContent_update (graph : Graph) (id : ClassId) {change : ClassRecord → ClassRecord}
    (hchange : ∀ record : ClassRecord, record.SameContent (change record)) :
    graph.SameContent (graph.update id change) :=
  graph.forall_record_update id .refl hchange

theorem sameContent_add (graph : Graph) (kind : ClassKind) (superclass : Option ClassId)
    (attached : Option Value) (isCore : Bool) :
    graph.SameContent (graph.add (.fresh kind superclass attached isCore)).2 := by
  intro id
  by_cases heq : id = graph.next
  · subst heq
    rw [record_add_next, record_of_not_has (not_has_next graph)]
    exact ⟨rfl, rfl, rfl, rfl⟩
  · rw [record_add_of_ne heq]
    exact .refl _

theorem sameContent_metaclassWithin (bound : Nat) (id : ClassId) (graph : Graph) :
    graph.SameContent (metaclassWithin bound id graph).2 := by
  induction bound generalizing id graph with
  | zero => exact .refl graph
  | succ bound ih =>
      rw [metaclassWithin_eq_match]
      split
      · exact .refl graph
      · have hparent : graph.SameContent (graph.parentWithin bound id).2 := by
          rw [parentWithin]
          split
          · exact .refl graph
          · exact ih _ graph
          · exact .refl graph
        apply hparent.trans
        apply (sameContent_add _ _ _ _ _).trans
        exact sameContent_update _ _ fun _ => ⟨rfl, rfl, rfl, rfl⟩

theorem sameContent_metaclassOf (graph : Graph) (id : ClassId) :
    graph.SameContent (graph.metaclassOf id).2 :=
  sameContent_metaclassWithin _ id graph

theorem sameContent_newClass {superclass id : ClassId} {next : Graph}
    (hresult : graph.newClass superclass = .ok (id, next)) : graph.SameContent next := by
  obtain ⟨_, rfl, rfl⟩ := newClass_cases hresult
  exact (graph.sameContent_add _ _ _ _).trans (sameContent_metaclassOf _ _)

theorem sameContent_newModule (graph : Graph) : graph.SameContent graph.newModule.2 :=
  (graph.sameContent_add _ _ _ _).trans (sameContent_metaclassOf _ _)

/-- Mixing in by one of the two operations of the graph. -/
theorem sameContent_mix {id mixin : ClassId} {next : Graph}
    {change : ClassRecord → ClassRecord} (hchange : MixesIn mixin change)
    (hresult : next = graph ∨ next = graph.update id change ∧ graph.Mixable id mixin) :
    graph.SameContent next := by
  rcases hresult with rfl | ⟨rfl, _⟩
  · exact .refl _
  · apply graph.sameContent_update
    rcases hchange with rfl | rfl <;> exact fun _ => ⟨rfl, rfl, rfl, rfl⟩

end Graph

namespace State

/-- No body in a method table removes a constant itself. -/
def HasSparing (state : State) : Prop :=
  ∀ id, ∀ pair ∈ (state.graph.record id).methods.entries, pair.2.body.Spares

/-- The class records have the same content, and no constant was assigned again. -/
structure SameContent (first second : State) : Prop where
  graph : first.graph.SameContent second.graph
  names : first.names.Grows second.names
  reassignments : second.reassignments = first.reassignments

/-- One step of what is done to a state without removing constants. No body that removes constants comes into a method
table, and the tables of constants are changed where the class is not frozen: constants are assigned, and their flags
set. -/
inductive SparingStep (first : State) : State → Prop
  | rest {second : State} (hsame : first.SameContent second) : SparingStep first second
  | methods {changed : ClassId} {change : ClassRecord → ClassRecord}
      (hchange : ∀ record : ClassRecord, (change record).constants = record.constants ∧
        (change record).name = record.name ∧ (change record).isFrozen = record.isFrozen)
      (hmethods : ∀ id, ∀ pair ∈ ((first.graph.update changed change).record id).methods.entries,
        pair.2.body.Spares ∨ pair ∈ (first.graph.record id).methods.entries) :
      SparingStep first (first.changeClass changed change)
  | flags {scope : ClassId} (symbol : Symbol) {change : ConstantEntry → ConstantEntry}
      (hopen : (first.graph.record scope).isFrozen = false)
      (hvalue : ∀ entry : ConstantEntry, (change entry).value = entry.value) :
      SparingStep first (first.changeClass scope (.flagConstant symbol change))
  | freeze (id : ClassId) :
      SparingStep first (first.changeClass id fun record => { record with isFrozen := true })
  | assign {scope : ClassId} (name : String) (value : Value)
      (hopen : (first.graph.record scope).isFrozen = false) :
      SparingStep first (first.after (assignConstant scope name value))

/-- The constants of frozen classes are as they were, these classes are frozen still, and no body that removes a
constant came into a method table. -/
structure SparedIn (first second : State) : Prop where
  isFrozen : ∀ {id}, (first.graph.record id).isFrozen → (second.graph.record id).isFrozen
  constants : ∀ {id}, (first.graph.record id).isFrozen →
    (second.graph.record id).constants = (first.graph.record id).constants
  hasSparing : second.HasSparing

variable {first second third : State}

theorem SparedIn.refl (hsparing : first.HasSparing) : first.SparedIn first :=
  ⟨id, fun _ => rfl, hsparing⟩

theorem SparedIn.trans (hfirst : first.SparedIn second) (hsecond : second.SparedIn third) :
    first.SparedIn third where
  isFrozen hfrozen := hsecond.isFrozen (hfirst.isFrozen hfrozen)
  constants hfrozen := (hsecond.constants (hfirst.isFrozen hfrozen)).trans (hfirst.constants hfrozen)
  hasSparing := hsecond.hasSparing

theorem sparedIn_of_sameContent (hsparing : first.HasSparing)
    (hsame : first.graph.SameContent second.graph) : first.SparedIn second where
  isFrozen hfrozen := by rwa [(hsame _).isFrozen]
  constants _ := (hsame _).constants
  hasSparing id pair hpair := hsparing id pair ((hsame id).methods ▸ hpair)

/-- Changing the constants of a class that is not frozen. -/
theorem sparedIn_changeConstants (hsparing : first.HasSparing) {scope : ClassId}
    {change : ClassRecord → ClassRecord} (hopen : (first.graph.record scope).isFrozen = false)
    (hgraph : second.graph = first.graph.update scope change)
    (hchange : ∀ record : ClassRecord,
      (change record).methods = record.methods ∧ (change record).isFrozen = record.isFrozen) :
    first.SparedIn second := by
  have hboth := @Graph.forall_record_update (fun before after =>
    after.methods = before.methods ∧ after.isFrozen = before.isFrozen) first.graph scope change
    (fun _ => ⟨rfl, rfl⟩) hchange
  rw [← hgraph] at hboth
  refine ⟨fun {id} hfrozen => (hboth id).2.trans hfrozen, fun {id} hfrozen => ?_,
    fun id pair hpair => hsparing id pair ((hboth id).1 ▸ hpair)⟩
  have hother : id ≠ scope := by
    rintro rfl
    exact absurd hfrozen (by simp [hopen])
  rw [hgraph, Graph.record_update_of_ne hother change]

/-- Changing the methods of a class so that no body that removes a constant is new. -/
theorem sparedIn_changeMethods (hsparing : first.HasSparing) {changed : ClassId}
    {change : ClassRecord → ClassRecord}
    (hchange : ∀ record : ClassRecord,
      (change record).constants = record.constants ∧ (change record).isFrozen = record.isFrozen)
    (hmethods : ∀ id, ∀ pair ∈ ((first.graph.update changed change).record id).methods.entries,
      pair.2.body.Spares ∨ pair ∈ (first.graph.record id).methods.entries) :
    first.SparedIn (first.changeClass changed change) := by
  have hboth := @Graph.forall_record_update (fun before after =>
    after.constants = before.constants ∧ after.isFrozen = before.isFrozen) first.graph changed change
    (fun _ => ⟨rfl, rfl⟩) hchange
  exact ⟨fun hfrozen => (hboth _).2.trans hfrozen, fun _ => (hboth _).1,
    fun id pair hpair => (hmethods id pair hpair).elim (fun hnew => hnew) (hsparing id pair)⟩

theorem sparedIn_freeze (hsparing : first.HasSparing) (id : ClassId) :
    first.SparedIn (first.changeClass id fun record => { record with isFrozen := true }) := by
  have hboth := @Graph.forall_record_update (fun before after =>
    after.methods = before.methods ∧ after.constants = before.constants ∧
      (before.isFrozen → after.isFrozen)) first.graph id (fun record => { record with isFrozen := true })
    (fun _ => ⟨rfl, rfl, fun hfrozen => hfrozen⟩) fun _ => ⟨rfl, rfl, fun _ => rfl⟩
  exact ⟨fun hfrozen => (hboth _).2.2 hfrozen, fun _ => (hboth _).2.1,
    fun id pair hpair => hsparing id pair ((hboth id).1 ▸ hpair)⟩

theorem sparedIn_nameClass (hsparing : first.HasSparing) (scope id : ClassId) (name : String) :
    first.SparedIn ((Change.nameClass scope id name).apply first) := by
  have hboth := @Graph.forall_record_update (fun before after =>
    after.methods = before.methods ∧ after.constants = before.constants ∧
      after.isFrozen = before.isFrozen) first.graph id
    (fun record => { record with owner := some scope, name := some name })
    (fun _ => ⟨rfl, rfl, rfl⟩) fun _ => ⟨rfl, rfl, rfl⟩
  exact ⟨fun hfrozen => (hboth _).2.2.trans hfrozen, fun _ => (hboth _).2.1,
    fun id pair hpair => hsparing id pair ((hboth id).1 ▸ hpair)⟩

theorem sparedIn_assignConstant (hsparing : first.HasSparing) {scope : ClassId} (name : String)
    (value : Value) (hopen : (first.graph.record scope).isFrozen = false) :
    first.SparedIn (first.after (assignConstant scope name value)) := by
  by_cases hname : Name.isConstant name
  · have hput : first.SparedIn (first.withConstant scope name value) :=
      sparedIn_changeConstants hsparing hopen (graph_withConstant ..) fun _ => ⟨rfl, rfl⟩
    rw [after_assignConstant _ _ _ hname]
    rcases after_nameClass (first.withConstant scope name value) scope name value with
      hsame | ⟨id, -, -, hnamed⟩
    · rwa [hsame]
    · rw [hnamed]
      exact hput.trans (sparedIn_nameClass hput.hasSparing scope id _)
  · rw [after_assignConstant_of_not _ _ _ hname]
    exact .refl hsparing

theorem sparedIn_step (hsparing : first.HasSparing) (hstep : first.SparingStep second) :
    first.SparedIn second := by
  cases hstep with
  | rest hsame => exact sparedIn_of_sameContent hsparing hsame.graph
  | methods hchange hmethods =>
      exact sparedIn_changeMethods hsparing (fun record => ⟨(hchange record).1, (hchange record).2.2⟩)
        hmethods
  | flags symbol hopen =>
      exact sparedIn_changeConstants hsparing hopen rfl fun _ => ⟨rfl, rfl⟩
  | freeze id => exact sparedIn_freeze hsparing id
  | assign name value hopen => exact sparedIn_assignConstant hsparing name value hopen

theorem sparedIn_of_steps (hsparing : first.HasSparing) (hsteps : ReflTransGen SparingStep first second) :
    first.SparedIn second := by
  induction hsteps with
  | refl => exact .refl hsparing
  | tail _ hstep ih => exact ih.trans (sparedIn_step ih.hasSparing hstep)

/-- An action that is followed by another one if it ends, each of which goes on in sparing steps. -/
theorem steps_bind {α β : Type} {act : Action α} {next : α → Action β}
    (hact : ReflTransGen SparingStep first (first.after act))
    (hnext : ∀ value, first.result act = .ok value →
      ReflTransGen SparingStep (first.after act) ((first.after act).after (next value))) :
    ReflTransGen SparingStep first (first.after (act >>= next)) := by
  rw [after_bind]
  cases hresult : first.result act with
  | error halt => exact hact
  | ok value => exact hact.trans (hnext value hresult)

/-- A method that is found stands in some table. -/
theorem HasSparing.of_find (hsparing : first.HasSparing) {id : ClassId} {name : Symbol}
    {entry : MethodEntry} (hfind : first.graph.findMethod? id name = some entry) :
    entry.body.Spares := by
  obtain ⟨hfirst, _⟩ := Graph.findMethod_eq_some.mp hfind
  obtain ⟨ancestor, _, hentry⟩ := Graph.exists_of_firstEntry hfirst
  exact hsparing ancestor _ hentry

theorem HasSparing.of_named (hsparing : first.HasSparing) {id : ClassId} {name : String}
    {symbol : Symbol} {entry : MethodEntry}
    (hnamed : first.methodNamed? id name = some (symbol, entry)) : entry.body.Spares := by
  obtain ⟨found, _, hrest⟩ := Option.bind_eq_some_iff.mp hnamed
  obtain ⟨method, hmethod, hpair⟩ := Option.bind_eq_some_iff.mp hrest
  obtain ⟨rfl, rfl⟩ := Prod.mk.inj (Option.some.inj hpair)
  exact hsparing.of_find hmethod

end State

/-! ## Actions -/

/-- Wherever no body in a method table removes a constant itself, the action goes on in sparing steps. -/
class Sparing {α : Type} (act : Action α) : Prop where
  steps : ∀ {state : State}, state.HasSparing → ReflTransGen State.SparingStep state (state.after act)

/-- Running a body that does not remove a constant itself spares constants. -/
class Runner.IsSparing (run : Runner) : Prop where
  sparing : ∀ {body : Body}, body.Spares → ∀ receiver arguments, Sparing (run body receiver arguments)

namespace Sparing

variable {α β : Type} {act : Action α} {next : α → Action β}

theorem sparedIn (hact : Sparing act) {state : State} (hsparing : state.HasSparing) :
    state.SparedIn (state.after act) :=
  State.sparedIn_of_steps hsparing (hact.steps hsparing)

instance pure (value : α) : Sparing (Pure.pure value : Action α) := ⟨fun _ => .refl⟩

instance throw (halt : Halt) : Sparing (throw halt : Action α) := ⟨fun _ => .refl⟩

instance refuse (fault : Fault) : Sparing (ObjectModel.refuse fault : Action α) := ⟨fun _ => .refl⟩

instance ask (read : State → α) : Sparing (ObjectModel.ask read) := ⟨fun _ => .refl⟩

instance get : Sparing (MonadState.get : Action State) := ⟨fun _ => .refl⟩

instance settle (outcome : Except Fault α) : Sparing (ObjectModel.settle outcome) := by
  cases outcome with
  | error fault => exact .refuse fault
  | ok value => exact .pure value

instance bind [hact : Sparing act] [hnext : ∀ value, Sparing (next value)] :
    Sparing (act >>= next) where
  steps hsparing :=
    State.steps_bind (hact.steps hsparing) fun value _ =>
      (hnext value).steps (hact.sparedIn hsparing).hasSparing

/-- What is sparing whatever value it is given may come after a sparing action. -/
theorem andThen [Sparing act] (hnext : ∀ value, Sparing (next value)) : Sparing (act >>= next) :=
  bind

instance ite {condition : Prop} [Decidable condition] {yes no : Action α} [hyes : Sparing yes]
    [hno : Sparing no] : Sparing (if condition then yes else no) := by
  split
  · exact hyes
  · exact hno

/-- An action after which the records have the same content. -/
theorem of_sameContent (hsame : ∀ state : State, state.SameContent (state.after act)) : Sparing act :=
  ⟨fun _ => .single (.rest (hsame _))⟩

/-- An action that leaves the class graph, the names and the warnings as they are. -/
theorem of_graph (hsame : ∀ state : State, (state.after act).graph = state.graph ∧
    (state.after act).names = state.names ∧ (state.after act).warnings = state.warnings) :
    Sparing act := by
  apply of_sameContent
  intro state
  obtain ⟨hgraph, hnames, hwarnings⟩ := hsame state
  refine ⟨?_, ?_, ?_⟩
  · rw [hgraph]
    exact .refl _
  · rw [hnames]
    exact List.prefix_rfl
  · rw [State.reassignments, hwarnings]
    rfl

end Sparing

end ObjectModel
