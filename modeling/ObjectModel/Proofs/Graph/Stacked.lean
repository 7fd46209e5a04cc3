import Mathlib.Data.Set.Card
import Mathlib.Logic.Relation
import ObjectModel.Graph.Ancestry
import ObjectModel.Proofs.Graph.Record

/-! # Stacked graphs

In a stacked graph every class stands on older superclasses, only modules are mixed in, and no module brings
itself. Then the bounds on the walks through the graph are never reached: the superclass chain and the local part
of a class satisfy the equations by which they would be defined without a bound.
-/

namespace ObjectModel.Graph

open Relation

/-- A module was mixed directly into a class, in front of it or after it. -/
def Mixes (graph : Graph) (outer inner : ClassId) : Prop :=
  inner ∈ (graph.record outer).prepends ∨ inner ∈ (graph.record outer).includes

/-- What a graph has to keep for the search through it to end. -/
structure Stacked (graph : Graph) : Prop where
  superclass_lt : ∀ {id superclass}, graph.superclass? id = some superclass →
    superclass.index < id.index
  superclass_module : ∀ {id}, graph.isModule id → graph.superclass? id = none
  isModule_of_mixes : ∀ {outer inner}, graph.Mixes outer inner → graph.isModule inner
  acyclic : ∀ id, ¬ TransGen graph.Mixes id id
  has_metaclass : ∀ {id metaclass}, (graph.record id).metaclass = some metaclass →
    graph.Has metaclass
  has_core : ∀ core : CoreClass, graph.Has core.id

/-! ## What stands in the graph -/

theorem has_of_isModule {graph : Graph} {id : ClassId} (hmodule : graph.isModule id) :
    graph.Has id := by
  by_contra hid
  simp [isModule, record_of_not_has hid, missing, ClassRecord.isModule, ClassRecord.fresh] at hmodule

theorem has_of_superclass {graph : Graph} {id superclass : ClassId}
    (hsuper : graph.superclass? id = some superclass) : graph.Has id := by
  by_contra hid
  simp [superclass?, record_of_not_has hid, missing, ClassRecord.fresh] at hsuper

/-! ## The superclass chain -/

/-- A bounded walk that no longer changes with its bound has come to its end. -/
theorem eq_of_stable {α : Type} (walk : Nat → α) {least bound : Nat}
    (hstable : ∀ bound, least ≤ bound → walk (bound + 1) = walk bound) (hbound : least ≤ bound) :
    walk bound = walk least := by
  induction bound, hbound using Nat.le_induction with
  | base => rfl
  | succ bound hbound ih => rw [hstable bound hbound, ih]

namespace Stacked

variable {graph : Graph}

theorem chainWithin_succ (hstacked : graph.Stacked) {bound : Nat} {id : ClassId}
    (hbound : id.index < bound) :
    graph.chainWithin (bound + 1) id = graph.chainWithin bound id := by
  induction bound generalizing id with
  | zero => omega
  | succ bound ih =>
      rw [chainWithin, chainWithin]
      cases hsuper : graph.superclass? id with
      | none => rfl
      | some superclass =>
          have hlt := hstacked.superclass_lt hsuper
          simp only
          rw [ih (by omega)]

/-- Any bound beyond the position of a class gives its chain. -/
theorem chainWithin_eq (hstacked : graph.Stacked) {bound : Nat} {id : ClassId}
    (hbound : id.index < bound) : graph.chainWithin bound id = graph.superclassChain id :=
  eq_of_stable (fun bound => graph.chainWithin bound id)
    (fun _ hlt => hstacked.chainWithin_succ hlt) hbound

theorem superclassChain_eq (hstacked : graph.Stacked) (id : ClassId) :
    graph.superclassChain id =
      id :: ((graph.superclass? id).map graph.superclassChain).getD [] := by
  rw [superclassChain, chainWithin]
  cases hsuper : graph.superclass? id with
  | none => rfl
  | some superclass =>
      have hlt := hstacked.superclass_lt hsuper
      simp only [Option.map_some, Option.getD_some]
      rw [hstacked.chainWithin_eq hlt]

theorem superclassChain_of_some (hstacked : graph.Stacked) {id superclass : ClassId}
    (hsuper : graph.superclass? id = some superclass) :
    graph.superclassChain id = id :: graph.superclassChain superclass := by
  rw [hstacked.superclassChain_eq, hsuper]
  rfl

theorem superclassChain_of_none (hstacked : graph.Stacked) {id : ClassId}
    (hsuper : graph.superclass? id = none) : graph.superclassChain id = [id] := by
  rw [hstacked.superclassChain_eq, hsuper]
  rfl

theorem self_mem_superclassChain (hstacked : graph.Stacked) (id : ClassId) :
    id ∈ graph.superclassChain id := by
  rw [hstacked.superclassChain_eq]
  exact List.mem_cons_self

/-- Going up the superclasses: a property that passes from a superclass to the class holds of all
classes, when it holds of those without a superclass. -/
theorem superclassInduction (hstacked : graph.Stacked) {motive : ClassId → Prop}
    (hroot : ∀ id, graph.superclass? id = none → motive id)
    (hstep : ∀ id superclass, graph.superclass? id = some superclass → motive superclass → motive id)
    (id : ClassId) : motive id := by
  induction hindex : id.index using Nat.strongRecOn generalizing id with
  | ind index ih =>
      cases hsuper : graph.superclass? id with
      | none => exact hroot id hsuper
      | some superclass =>
          have hlt := hstacked.superclass_lt hsuper
          exact hstep id superclass hsuper (ih _ (hindex ▸ hlt) superclass rfl)

theorem index_le_of_mem_chain (hstacked : graph.Stacked) {id other : ClassId}
    (hother : other ∈ graph.superclassChain id) : other.index ≤ id.index := by
  induction id using hstacked.superclassInduction with
  | hroot id hsuper =>
      rw [hstacked.superclassChain_of_none hsuper, List.mem_singleton] at hother
      rw [hother]
  | hstep id superclass hsuper ih =>
      rw [hstacked.superclassChain_of_some hsuper] at hother
      have hlt := hstacked.superclass_lt hsuper
      rcases List.mem_cons.mp hother with rfl | hother
      · exact Nat.le_refl _
      · exact Nat.le_trans (ih hother) (Nat.le_of_lt hlt)

theorem superclassChain_nodup (hstacked : graph.Stacked) (id : ClassId) :
    (graph.superclassChain id).Nodup := by
  induction id using hstacked.superclassInduction with
  | hroot id hsuper =>
      rw [hstacked.superclassChain_of_none hsuper]
      exact List.nodup_singleton id
  | hstep id superclass hsuper ih =>
      rw [hstacked.superclassChain_of_some hsuper, List.nodup_cons]
      refine ⟨?_, ih⟩
      intro hmem
      have hle := hstacked.index_le_of_mem_chain hmem
      have hlt := hstacked.superclass_lt hsuper
      omega

theorem superclass_mem_chain (hstacked : graph.Stacked) {id other superclass : ClassId}
    (hother : other ∈ graph.superclassChain id)
    (hsuper : graph.superclass? other = some superclass) :
    superclass ∈ graph.superclassChain id := by
  induction id using hstacked.superclassInduction with
  | hroot id hnone =>
      rw [hstacked.superclassChain_of_none hnone, List.mem_singleton] at hother
      rw [hother, hnone] at hsuper
      simp at hsuper
  | hstep id above habove ih =>
      rw [hstacked.superclassChain_of_some habove] at hother ⊢
      rcases List.mem_cons.mp hother with rfl | hother
      · rw [habove, Option.some.injEq] at hsuper
        rw [← hsuper]
        exact List.mem_cons_of_mem _ (hstacked.self_mem_superclassChain above)
      · exact List.mem_cons_of_mem _ (ih hother)

/-- Of two classes on one chain, one is on the chain of the other. -/
theorem superclassChain_total (hstacked : graph.Stacked) {id first second : ClassId}
    (hfirst : first ∈ graph.superclassChain id) (hsecond : second ∈ graph.superclassChain id) :
    first ∈ graph.superclassChain second ∨ second ∈ graph.superclassChain first := by
  induction id using hstacked.superclassInduction with
  | hroot id hnone =>
      rw [hstacked.superclassChain_of_none hnone, List.mem_singleton] at hfirst hsecond
      rw [hfirst, hsecond]
      exact .inl (hstacked.self_mem_superclassChain id)
  | hstep id above habove ih =>
      rw [hstacked.superclassChain_of_some habove] at hfirst hsecond
      -- either one of the two is the class itself, or both stand further up
      rcases List.mem_cons.mp hfirst with rfl | hupper
      · right
        rwa [hstacked.superclassChain_of_some habove]
      rcases List.mem_cons.mp hsecond with rfl | hother
      · left
        rw [hstacked.superclassChain_of_some habove]
        exact List.mem_cons_of_mem _ hupper
      · exact ih hupper hother

/-- A class has on its chain just those that can be reached by going from class to superclass. -/
theorem mem_superclassChain (hstacked : graph.Stacked) {id other : ClassId} :
    other ∈ graph.superclassChain id ↔
      ReflTransGen (fun below above => graph.superclass? below = some above) id other := by
  constructor
  · intro hother
    induction id using hstacked.superclassInduction with
    | hroot id hsuper =>
        rw [hstacked.superclassChain_of_none hsuper, List.mem_singleton] at hother
        rw [hother]
    | hstep id superclass hsuper ih =>
        rw [hstacked.superclassChain_of_some hsuper] at hother
        rcases List.mem_cons.mp hother with rfl | hother
        · exact .refl
        · exact .head hsuper (ih hother)
  · intro hreach
    induction hreach with
    | refl => exact hstacked.self_mem_superclassChain id
    | tail _ hsuper ih => exact hstacked.superclass_mem_chain ih hsuper

/-! ## The local part -/

end Stacked

/-- The modules that a class brings, over any number of steps. -/
def brought (graph : Graph) (id : ClassId) : Set ClassId := {module | TransGen graph.Mixes id module}

/-- The positions of a graph as a set. -/
def positions (graph : Graph) : Set ClassId := {id | graph.Has id}

theorem positions_eq (graph : Graph) :
    graph.positions = ClassId.mk '' (Finset.range graph.size : Set Nat) := by
  ext id
  cases id
  simp [positions, Has]

theorem finite_positions (graph : Graph) : graph.positions.Finite := by
  rw [positions_eq]
  exact (Finset.range graph.size).finite_toSet.image _

theorem ncard_positions_le (graph : Graph) : graph.positions.ncard ≤ graph.size := by
  rw [positions_eq]
  calc (ClassId.mk '' (Finset.range graph.size : Set Nat)).ncard
      ≤ (Finset.range graph.size : Set Nat).ncard :=
        Set.ncard_image_le (Finset.range graph.size).finite_toSet
    _ = graph.size := by rw [Set.ncard_coe_finset, Finset.card_range]

namespace Stacked

variable {graph : Graph}

theorem brought_subset (hstacked : graph.Stacked) (id : ClassId) :
    graph.brought id ⊆ graph.positions := by
  intro module hbrought
  cases hbrought with
  | single hmixes => exact has_of_isModule (hstacked.isModule_of_mixes hmixes)
  | tail _ hmixes => exact has_of_isModule (hstacked.isModule_of_mixes hmixes)

/-- A module brings fewer modules than what it was mixed into: it does not bring itself. -/
theorem ncard_brought_lt (hstacked : graph.Stacked) {outer inner : ClassId}
    (hmixes : graph.Mixes outer inner) :
    (graph.brought inner).ncard < (graph.brought outer).ncard := by
  -- strictly fewer, since what was mixed in belongs only to the outer set
  have hfinite := graph.finite_positions.subset (hstacked.brought_subset outer)
  apply Set.ncard_lt_ncard _ hfinite
  refine ⟨fun module hmodule => TransGen.head hmixes hmodule, ?_⟩
  intro hsubset
  exact hstacked.acyclic inner (hsubset (TransGen.single hmixes))

theorem ncard_brought_lt_size (hstacked : graph.Stacked) {id : ClassId} (hid : graph.Has id) :
    (graph.brought id).ncard < graph.size := by
  have hproper : graph.brought id ⊂ graph.positions :=
    ⟨hstacked.brought_subset id, fun hsubset => hstacked.acyclic id (hsubset hid)⟩
  exact Nat.lt_of_lt_of_le (Set.ncard_lt_ncard hproper graph.finite_positions)
    graph.ncard_positions_le

/-- Going from a class to the modules that were mixed into it ends. -/
theorem wellFounded_mixes (hstacked : graph.Stacked) :
    WellFounded fun inner outer => graph.Mixes outer inner :=
  Subrelation.wf hstacked.ncard_brought_lt
    (InvImage.wf (fun id => (graph.brought id).ncard) Nat.lt_wfRel.wf)

theorem localWithin_succ (hstacked : graph.Stacked) {depth : Nat} {id : ClassId}
    (hdepth : (graph.brought id).ncard < depth) :
    graph.localWithin (depth + 1) id = graph.localWithin depth id := by
  induction depth generalizing id with
  | zero => omega
  | succ depth ih =>
      have hinner : ∀ inner, graph.Mixes id inner →
          graph.localWithin (depth + 1) inner = graph.localWithin depth inner := by
        intro inner hmixes
        have hlt := hstacked.ncard_brought_lt hmixes
        exact ih (by omega)
      rw [localWithin, localWithin]
      congr 1
      · exact List.flatMap_congr fun inner hmem => hinner inner (.inl hmem)
      · congr 1
        exact List.flatMap_congr fun inner hmem => hinner inner (.inr hmem)

/-- Any depth from the number of classes on gives the local part. -/
theorem localWithin_eq (hstacked : graph.Stacked) {depth : Nat} {id : ClassId}
    (hid : graph.Has id) (hdepth : graph.size ≤ depth) :
    graph.localWithin depth id = graph.localPart id := by
  have hlt := hstacked.ncard_brought_lt_size hid
  apply eq_of_stable (fun depth => graph.localWithin depth id) _ hdepth
  exact fun _ hle => hstacked.localWithin_succ (Nat.lt_of_lt_of_le hlt hle)

/-- The local part of a class consists of those of its prepended modules, the class itself and those
of its included modules. -/
theorem localPart_eq (hstacked : graph.Stacked) {id : ClassId} (hid : graph.Has id) :
    graph.localPart id = (graph.record id).prepends.flatMap graph.localPart ++
      id :: (graph.record id).includes.flatMap graph.localPart := by
  rw [← hstacked.localWithin_eq hid (Nat.le_succ _), localWithin]
  rfl

end Stacked

end ObjectModel.Graph
