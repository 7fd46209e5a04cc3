import ObjectModel.Interpreter
import ObjectModel.Proofs.Renumber.Graph

/-! # States with other installation numbers

What is read from a state does not depend on the numbers of installations, unless it is the entry of a method.
-/

namespace ObjectModel.State

/-- The state with other installation numbers in the method tables and in its count. -/
@[simps] def renumber (number : Nat → Nat) (state : State) : State :=
  { state with graph := state.graph.renumber number, installations := number state.installations }

variable (number : Nat → Nat) (state : State)

theorem renumber_renumber (later : Nat → Nat) :
    (state.renumber number).renumber later = state.renumber (later ∘ number) :=
  congrArg (fun graph => { state.renumber (later ∘ number) with graph })
    (state.graph.renumber_renumber number later)

/-! ## Values -/

@[simp] theorem classOf_renumber (value : Value) :
    (state.renumber number).classOf value = state.classOf value := by
  cases value with
  | bool flag => cases flag <;> rfl
  | cls id => exact state.graph.classOfClass_renumber number id
  | _ => rfl

@[simp] theorem className_renumber (value : Value) :
    (state.renumber number).className value = state.className value := by
  simp [className]

@[simp] theorem symbolText_renumber :
    (state.renumber number).symbolText = state.symbolText := rfl

@[simp] theorem text_renumber (value : Value) : (state.renumber number).text? value = state.text? value := by
  cases value <;> rfl

@[simp] theorem items_renumber (value : Value) :
    (state.renumber number).items? value = state.items? value := by
  cases value <;> rfl

@[simp] theorem handle_renumber (cls : ClassId) (id : ObjectId) :
    (state.renumber number).handle cls id = state.handle cls id := by
  simp [handle]

@[simp] theorem inspect_renumber (value : Value) :
    (state.renumber number).inspect value = state.inspect value := by
  have hwithin : ∀ bound, (state.renumber number).inspectWithin bound = state.inspectWithin bound := by
    intro bound
    induction bound with
    | zero => rfl
    | succ bound ih =>
        funext value
        cases value <;> simp [inspectWithin, ih, symbolText_renumber]
  rw [inspect, hwithin]
  rfl

@[simp] theorem toText_renumber (value : Value) :
    (state.renumber number).toText value = state.toText value := by
  cases value <;> simp [toText]

@[simp] theorem describeReceiver_renumber (value : Value) :
    (state.renumber number).describeReceiver value = state.describeReceiver value := by
  cases value <;> simp [describeReceiver]

@[simp] theorem isFrozen_renumber (value : Value) :
    (state.renumber number).isFrozen value = state.isFrozen value := by
  cases value <;> simp [isFrozen]

@[simp] theorem variablesOf_renumber (value : Value) :
    (state.renumber number).variablesOf value = state.variablesOf value := by
  cases value <;> simp [variablesOf]

/-! ## Constants and classes -/

@[simp] theorem ownConstant_renumber (scope : ClassId) (name : String) :
    (state.renumber number).ownConstant? scope name = state.ownConstant? scope name := by
  simp [ownConstant?]

@[simp] theorem resolveConstant_renumber (scope : ClassId) (name : String) (ownOnly : Bool) :
    (state.renumber number).resolveConstant? scope name ownOnly =
      state.resolveConstant? scope name ownOnly := by
  simp [resolveConstant?]

@[simp] theorem qualifier_renumber (scope : ClassId) :
    (state.renumber number).qualifier scope = state.qualifier scope := by
  simp [qualifier]

@[simp] theorem qualifiedName_renumber (scope : ClassId) (name : String) :
    (state.renumber number).qualifiedName scope name = state.qualifiedName scope name := by
  simp [qualifiedName]

@[simp] theorem ownConstants_renumber (scope : ClassId) :
    (state.renumber number).ownConstants scope = state.ownConstants scope := by
  simp [ownConstants]

@[simp] theorem constants_renumber (scope : ClassId) (inherited : Bool) :
    (state.renumber number).constants scope inherited = state.constants scope inherited := by
  simp [constants]

@[simp] theorem properClass_renumber (value : Value) :
    (state.renumber number).properClass? value = state.properClass? value := by
  cases value <;> simp [properClass?]

@[simp] theorem module_renumber (value : Value) :
    (state.renumber number).module? value = state.module? value := by
  cases value <;> simp [module?]

@[simp] theorem classAt_renumber (scope : ClassId) (path : List String) :
    (state.renumber number).classAt? scope path = state.classAt? scope path := by
  induction path generalizing scope with
  | nil => rfl
  | cons name rest ih => simp [classAt?, ih]

/-! ## Methods -/

@[simp] theorem methodNamed_renumber (id : ClassId) (name : String) :
    (state.renumber number).methodNamed? id name =
      (state.methodNamed? id name).map fun found => (found.1, found.2.renumber number) := by
  rw [methodNamed?, methodNamed?, renumber_names]
  cases state.names.find? name with
  | none => rfl
  | some symbol =>
      dsimp only [Option.bind_eq_bind, Option.bind_some]
      rw [renumber_graph, Graph.findMethod_renumber]
      cases state.graph.findMethod? id symbol <;> rfl

@[simp] theorem ownsMethod_renumber (id : ClassId) (name : Symbol) :
    (state.renumber number).ownsMethod id name = state.ownsMethod id name := by
  rw [ownsMethod, renumber_graph, Graph.record_renumber, ClassRecord.renumber_methods, Table.find_map,
    Option.any_map, ownsMethod]
  congr 1
  funext entry
  exact entry.isDefined_renumber number

@[simp] theorem methodDefined_renumber (id : ClassId) (name : String) :
    (state.renumber number).methodDefined id name = state.methodDefined id name := by
  rw [methodDefined, methodNamed_renumber, Option.any_map, methodDefined]
  rfl

end ObjectModel.State
