import Mathlib.Tactic.Simps.Basic
import ObjectModel.Graph.Mixin
import ObjectModel.Proofs.Graph.Search

/-! # Class graphs with other installation numbers

The body of a builtin method keeps the number of the installation that put it into a table. Nothing that is done
to a class graph depends on these numbers: whatever is read from it is the same with other numbers, and whatever
is made of it is the same but for the numbers.
-/

namespace ObjectModel

/-! ## Tables with other entries -/

namespace Table

variable {κ α β : Type} [DecidableEq κ] (change : α → β)

/-- The table with every entry changed. -/
def map {κ : Type} (table : Table κ α) : Table κ β :=
  ⟨table.entries.map fun pair => (pair.1, change pair.2)⟩

theorem find_map (table : Table κ α) (key : κ) :
    (table.map change).find? key = (table.find? key).map change := by
  obtain ⟨pairs⟩ := table
  change look key (pairs.map fun pair => (pair.1, change pair.2)) = (look key pairs).map change
  induction pairs with
  | nil => rfl
  | cons pair rest ih =>
      by_cases hkey : pair.1 = key <;> simp [look, hkey, ih]

theorem insert_map (table : Table κ α) (key : κ) (entry : α) :
    (table.map change).insert key (change entry) = (table.insert key entry).map change := by
  obtain ⟨pairs⟩ := table
  apply congrArg Table.mk
  change put key (change entry) (pairs.map fun pair => (pair.1, change pair.2)) =
    (put key entry pairs).map fun pair => (pair.1, change pair.2)
  induction pairs with
  | nil => rfl
  | cons pair rest ih =>
      by_cases hkey : pair.1 = key <;> simp [put, hkey, ih]

theorem erase_map (table : Table κ α) (key : κ) :
    (table.map change).erase key = (table.erase key).map change := by
  simp [erase, map, List.filter_map, Function.comp_def]

omit [DecidableEq κ] in
theorem map_map {γ : Type} (table : Table κ α) (later : β → γ) :
    (table.map change).map later = table.map (later ∘ change) := by
  simp [map, Function.comp_def]

end Table

/-! ## Methods -/

/-- The body with another installation number, if it has one. -/
def Body.renumber (number : Nat → Nat) : Body → Body
  | .builtin method installation => .builtin method (number installation)
  | body => body

theorem Body.renumber_renumber (number later : Nat → Nat) (body : Body) :
    (body.renumber number).renumber later = body.renumber (later ∘ number) := by
  cases body <;> rfl

namespace MethodEntry

/-- The entry with another installation number. -/
@[simps] def renumber (number : Nat → Nat) (entry : MethodEntry) : MethodEntry :=
  { entry with body := entry.body.renumber number }

variable (number : Nat → Nat) (entry : MethodEntry)

@[simp] theorem isDefined_renumber : (entry.renumber number).isDefined = entry.isDefined := by
  rw [isDefined, isDefined, renumber]
  cases entry.body <;> rfl

@[simp] theorem isPrivate_renumber : (entry.renumber number).isPrivate = entry.isPrivate := rfl

theorem renumber_renumber (later : Nat → Nat) :
    (entry.renumber number).renumber later = entry.renumber (later ∘ number) :=
  congrArg (fun body => { entry with body }) (entry.body.renumber_renumber number later)

end MethodEntry

/-- The record with other installation numbers in its methods. -/
@[simps] def ClassRecord.renumber (number : Nat → Nat) (record : ClassRecord) : ClassRecord :=
  { record with methods := record.methods.map (.renumber number) }

namespace ClassRecord

variable (number : Nat → Nat) (record : ClassRecord)

theorem putMethod_renumber (name : Symbol) (entry : MethodEntry) :
    (record.renumber number).putMethod name (entry.renumber number) =
      (record.putMethod name entry).renumber number := by
  rw [putMethod, renumber_methods, Table.insert_map]
  rfl

theorem eraseMethod_renumber (name : Symbol) :
    (record.renumber number).eraseMethod name = (record.eraseMethod name).renumber number := by
  rw [eraseMethod, renumber_methods, Table.erase_map]
  rfl

theorem renumber_renumber (later : Nat → Nat) :
    (record.renumber number).renumber later = record.renumber (later ∘ number) := by
  have hentries : MethodEntry.renumber later ∘ MethodEntry.renumber number = .renumber (later ∘ number) :=
    funext fun entry => entry.renumber_renumber number later
  rw [renumber, renumber_methods, Table.map_map, hentries]
  rfl

end ClassRecord

namespace Graph

/-- The class graph with other installation numbers. -/
def renumber (number : Nat → Nat) (graph : Graph) : Graph :=
  ⟨graph.classes.map (.renumber number)⟩

variable (number : Nat → Nat) (graph : Graph)

theorem renumber_renumber (later : Nat → Nat) :
    (graph.renumber number).renumber later = graph.renumber (later ∘ number) := by
  have hrecords : ClassRecord.renumber later ∘ ClassRecord.renumber number = .renumber (later ∘ number) :=
    funext fun record => record.renumber_renumber number later
  rw [renumber, renumber, List.map_map, hrecords]
  rfl

/-! ## Records -/

@[simp] theorem size_renumber : (graph.renumber number).size = graph.size :=
  List.length_map _

@[simp] theorem record_renumber (id : ClassId) :
    (graph.renumber number).record id = (graph.record id).renumber number := by
  rw [record, record, renumber, List.getElem?_map]
  cases graph.classes[id.index]? <;> rfl

theorem sameFrame_renumber : graph.SameFrame (graph.renumber number) := by
  refine ⟨graph.size_renumber number, fun id => ?_⟩
  rw [record_renumber]
  exact (graph.record id).sameFrame_with _ _ _ _ _ _

@[simp] theorem superclass_renumber (id : ClassId) :
    (graph.renumber number).superclass? id = graph.superclass? id := by
  rw [superclass?, record_renumber]
  rfl

@[simp] theorem isModule_renumber (id : ClassId) :
    (graph.renumber number).isModule id = graph.isModule id := by
  rw [isModule, record_renumber]
  rfl

@[simp] theorem classOfClass_renumber (id : ClassId) :
    (graph.renumber number).classOfClass id = graph.classOfClass id := by
  rw [classOfClass, isModule_renumber]
  rfl

@[simp] theorem displayName_renumber : (graph.renumber number).displayName = graph.displayName := by
  have hwithin : ∀ bound, (graph.renumber number).displayWithin bound = graph.displayWithin bound := by
    intro bound
    induction bound with
    | zero => rfl
    | succ bound ih =>
        funext id
        rw [displayWithin, displayWithin, record_renumber, ih]
        rfl
  funext id
  rw [displayName, hwithin]
  rfl

@[simp] theorem ancestors_renumber (id : ClassId) :
    (graph.renumber number).ancestors id = graph.ancestors id :=
  (graph.sameFrame_renumber number).ancestors id

@[simp] theorem isKindOf_renumber (id ancestor : ClassId) :
    (graph.renumber number).isKindOf id ancestor = graph.isKindOf id ancestor := by
  rw [isKindOf, ancestors_renumber]
  rfl

/-! ## Lookup -/

@[simp] theorem findMethod_renumber (id : ClassId) (name : Symbol) :
    (graph.renumber number).findMethod? id name =
      (graph.findMethod? id name).map (.renumber number) := by
  have hfirst : Graph.firstEntry? (graph.renumber number) id name =
      (Graph.firstEntry? graph id name).map (.renumber number) := by
    rw [ firstEntry?, firstEntry?, ancestors_renumber]
    induction graph.ancestors id with
    | nil => rfl
    | cons ancestor rest ih =>
        rw [List.findSome?_cons, List.findSome?_cons, ih, record_renumber,
          ClassRecord.renumber_methods, Table.find_map]
        cases (graph.record ancestor).methods.find? name <;> rfl
  rw [findMethod?, findMethod?, hfirst]
  cases Graph.firstEntry? graph id name with
  | none => rfl
  | some entry =>
      rw [Option.map_some, Option.filter_some, Option.filter_some, MethodEntry.isDefined_renumber]
      split <;> rfl

theorem sortedMethods_renumber (id : ClassId) : (graph.renumber number).sortedMethods id =
    (graph.sortedMethods id).map fun pair => (pair.1, pair.2.renumber number) := by
  have hinsert (pair : Symbol × MethodEntry) (pairs : List (Symbol × MethodEntry)) :
      insertByName (pair.1, pair.2.renumber number)
          (pairs.map fun pair => (pair.1, pair.2.renumber number)) =
        (insertByName pair pairs).map fun pair => (pair.1, pair.2.renumber number) := by
    induction pairs with
    | nil => rfl
    | cons other rest ih =>
        by_cases hbefore : pair.1.index ≤ other.1.index <;> simp [insertByName, hbefore, ih]
  rw [sortedMethods, record_renumber, sortedMethods]
  change List.foldr _ _ ((graph.record id).methods.entries.map _) = _
  induction (graph.record id).methods.entries with
  | nil => rfl
  | cons pair rest ih => rw [List.map_cons, List.foldr_cons, List.foldr_cons, ih, hinsert]

@[simp] theorem instanceMethods_renumber (id : ClassId) (inherited : Bool) :
    (graph.renumber number).instanceMethods id inherited = graph.instanceMethods id inherited := by
  have hvisible (seen : List Symbol) (pairs : List (Symbol × MethodEntry)) :
      visibleNames seen (pairs.map fun pair => (pair.1, pair.2.renumber number)) =
        visibleNames seen pairs := by
    induction pairs generalizing seen with
    | nil => rfl
    | cons pair rest ih => simp [visibleNames, ih]
  have hsorted : (graph.renumber number).sortedMethods =
      fun id => (graph.sortedMethods id).map fun pair => (pair.1, pair.2.renumber number) :=
    funext (graph.sortedMethods_renumber number)
  rw [instanceMethods, instanceMethods, ancestors_renumber, hsorted, ← List.map_flatMap, hvisible]

@[simp] theorem ownConstant_renumber (id : ClassId) (name : Symbol) :
    (graph.renumber number).ownConstant? id name = graph.ownConstant? id name := by
  rw [ownConstant?, record_renumber]
  rfl

@[simp] theorem resolveConstant_renumber (id : ClassId) (name : Symbol) :
    (graph.renumber number).resolveConstant? id name = graph.resolveConstant? id name := by
  simp [resolveConstant?]

@[simp] theorem constantNames_renumber (id : ClassId) (inherited : Bool) :
    (graph.renumber number).constantNames id inherited = graph.constantNames id inherited := by
  simp [constantNames, constantScopes, ClassRecord.publicConstants]

/-! ## Changes -/

/-- Changing a record, where the change does not depend on the numbers. -/
theorem update_renumber (id : ClassId) {change other : ClassRecord → ClassRecord}
    (hchange : ∀ record : ClassRecord, other (record.renumber number) = (change record).renumber number) :
    (graph.renumber number).update id other = (graph.update id change).renumber number := by
  apply congrArg Graph.mk
  rw [renumber]
  dsimp only [update]
  apply List.ext_getElem?
  intro position
  rw [List.getElem?_modify, List.getElem?_map, List.getElem?_map, List.getElem?_modify]
  cases graph.classes[position]? with
  | none => split <;> rfl
  | some record =>
      split
      · exact congrArg some (hchange record)
      · rfl

theorem add_renumber (record : ClassRecord) :
    (graph.renumber number).add (record.renumber number) =
      ((graph.add record).1, (graph.add record).2.renumber number) := by
  simp [add, renumber, size]

/-- A new record has no methods, so no numbers. -/
theorem addFresh_renumber (kind : ClassKind) (superclass : Option ClassId) (attached : Option Value)
    (isCore : Bool) : (graph.renumber number).add (.fresh kind superclass attached isCore) =
      ((graph.add (.fresh kind superclass attached isCore)).1,
        (graph.add (.fresh kind superclass attached isCore)).2.renumber number) :=
  graph.add_renumber number (.fresh kind superclass attached isCore)

theorem metaclassWithin_renumber (bound : Nat) (id : ClassId) :
    metaclassWithin bound id (graph.renumber number) =
      ((metaclassWithin bound id graph).1, (metaclassWithin bound id graph).2.renumber number) := by
  induction bound generalizing id graph with
  | zero => rfl
  | succ bound ih =>
      have hparent : (graph.renumber number).parentWithin bound id =
          ((graph.parentWithin bound id).1, (graph.parentWithin bound id).2.renumber number) := by
        rw [parentWithin, parentWithin, record_renumber, ClassRecord.renumber_kind,
          ClassRecord.renumber_superclass]
        split
        · rfl
        · exact ih graph _
        · rfl
      rw [metaclassWithin_eq_match, metaclassWithin_eq_match, record_renumber,
        ClassRecord.renumber_metaclass, hparent]
      cases (graph.record id).metaclass with
      | some metaclass => rfl
      | none =>
          dsimp only
          rw [addFresh_renumber, ClassRecord.renumber_isCore]
          exact Prod.ext (congrArg ClassId.mk (size_renumber _ _))
            (update_renumber _ _ _ fun record => by rw [next, next, size_renumber]; rfl)

theorem metaclassOf_renumber (id : ClassId) : (graph.renumber number).metaclassOf id =
    ((graph.metaclassOf id).1, (graph.metaclassOf id).2.renumber number) :=
  graph.metaclassWithin_renumber number _ id

theorem newClass_renumber (superclass : ClassId) : (graph.renumber number).newClass superclass =
    (graph.newClass superclass).map fun made => (made.1, made.2.renumber number) := by
  rw [newClass, newClass, record_renumber, ClassRecord.renumber_kind]
  cases (graph.record superclass).kind with
  | cls =>
      dsimp only
      rw [addFresh_renumber, metaclassOf_renumber]
      rfl
  | _ => rfl

theorem newModule_renumber : (graph.renumber number).newModule =
    (graph.newModule.1, graph.newModule.2.renumber number) := by
  rw [newModule, newModule, addFresh_renumber]
  dsimp only
  rw [metaclassOf_renumber]

/-- Mixing in by one of the two operations of the graph. -/
theorem mix_renumber {id mixin : ClassId} {cyclic : String} {change : ClassRecord → ClassRecord}
    (hchange : ∀ record : ClassRecord, change (record.renumber number) = (change record).renumber number) :
    (do
      if ← (graph.renumber number).checkMixin id mixin cyclic then
        pure (true, (graph.renumber number).update id change)
      else pure (false, graph.renumber number) : Except Fault (Bool × Graph)) =
    (do
      if ← graph.checkMixin id mixin cyclic then pure (true, graph.update id change)
      else pure (false, graph) : Except Fault (Bool × Graph)).map
        fun mixed => (mixed.1, mixed.2.renumber number) := by
  have hcheck : (graph.renumber number).checkMixin id mixin cyclic = graph.checkMixin id mixin cyclic := by
    rw [checkMixin, checkMixin, isModule_renumber, ancestors_renumber, ancestors_renumber]
  rw [hcheck, graph.update_renumber number id hchange]
  cases graph.checkMixin id mixin cyclic with
  | error fault => rfl
  | ok wanted => cases wanted <;> rfl

theorem includeModule_renumber (id mixin : ClassId) : (graph.renumber number).includeModule id mixin =
    (graph.includeModule id mixin).map fun mixed => (mixed.1, mixed.2.renumber number) :=
  graph.mix_renumber number fun _ => rfl

theorem prependModule_renumber (id mixin : ClassId) : (graph.renumber number).prependModule id mixin =
    (graph.prependModule id mixin).map fun mixed => (mixed.1, mixed.2.renumber number) :=
  graph.mix_renumber number fun _ => rfl

end Graph

end ObjectModel
