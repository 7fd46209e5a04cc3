import ObjectModel.Proofs.Graph.Core

/-! # Building graphs

The operations by which a class graph is built, and what holds of every graph that can be built by them from the core
graph. A building step that is refused leaves the graph as it was.
-/

namespace ObjectModel.Graph

open Relation

/-- An operation that builds on a class graph. -/
inductive Building
  | newClass (superclass : ClassId)
  | newModule
  | metaclassOf (id : ClassId)
  | newObjectSingleton (object : Value) (cls : ClassId)
  | includeModule (id mixin : ClassId)
  | prependModule (id mixin : ClassId)

namespace Building

/-- What an operation makes of a graph, if it is not refused. -/
def perform (graph : Graph) : Building → Except Fault Graph
  | newClass superclass => (graph.newClass superclass).map Prod.snd
  | newModule => .ok graph.newModule.2
  | metaclassOf id => .ok (graph.metaclassOf id).2
  | newObjectSingleton object cls => .ok (graph.newObjectSingleton object cls).2
  | includeModule id mixin => (graph.includeModule id mixin).map Prod.snd
  | prependModule id mixin => (graph.prependModule id mixin).map Prod.snd

/-- The graph after an operation, whether it was refused or not. -/
def after (graph : Graph) (operation : Building) : Graph :=
  match operation.perform graph with
  | .ok next => next
  | .error _ => graph

/-- The positions that an operation names were handed out, and singleton classes are made for heap
objects. -/
def Fits (graph : Graph) : Building → Prop
  | newClass superclass => graph.Has superclass
  | newModule => True
  | metaclassOf id => graph.Has id
  | newObjectSingleton object cls => object.objectId?.isSome ∧ graph.Has cls
  | includeModule id mixin | prependModule id mixin => graph.Has id ∧ graph.Has mixin

end Building

/-- The graphs that can be built from the core graph; in between, names, tables and the flags for freezing
may change in any way. -/
inductive Built : Graph → Prop
  | core : Built Graph.core
  | relabel {graph next : Graph} (hbuilt : Built graph) (hsame : graph.SameFrame next) : Built next
  | step {graph : Graph} {operation : Building} (hbuilt : Built graph)
      (hfits : operation.Fits graph) : Built (operation.after graph)

theorem map_snd_ok {α : Type} {result : Except Fault (α × Graph)} {next : Graph}
    (hresult : result.map Prod.snd = .ok next) : ∃ value, result = .ok (value, next) := by
  cases result with
  | error fault => simp [Except.map] at hresult
  | ok pair => exact ⟨pair.1, by rw [← Except.ok.inj hresult]⟩

/-- Every operation keeps the laws. -/
theorem Sound.after {graph : Graph} (hsound : graph.Sound) {operation : Building}
    (hfits : operation.Fits graph) : (operation.after graph).Sound := by
  rw [Building.after]
  split
  next next hnext =>
    cases operation with
    | newClass superclass =>
        obtain ⟨_, hresult⟩ := map_snd_ok hnext
        exact hsound.newClass hfits hresult
    | newModule =>
        rw [← Except.ok.inj hnext]
        exact hsound.newModule
    | metaclassOf id =>
        rw [← Except.ok.inj hnext]
        exact hsound.metaclassOf hfits
    | newObjectSingleton object cls =>
        rw [← Except.ok.inj hnext]
        -- only heap objects get singleton classes in this way, so the owner is no class
        apply hsound.newObjectSingleton _ hfits.2
        rintro owner rfl
        simp [Building.Fits, Value.objectId?] at hfits
    | includeModule id mixin =>
        obtain ⟨_, hresult⟩ := map_snd_ok hnext
        exact hsound.includeModule hresult
    | prependModule id mixin =>
        obtain ⟨_, hresult⟩ := map_snd_ok hnext
        exact hsound.prependModule hresult
  · exact hsound

theorem Built.sound {graph : Graph} (hbuilt : graph.Built) : graph.Sound := by
  induction hbuilt with
  | core => exact sound_core
  | relabel _ hsame ih => exact ih.of_sameFrame hsame
  | step _ hfits ih => exact ih.after hfits

/-- In every graph that can be built no module brings itself and every search ends; the ancestors of a
class are what can be reached from it, each once, and those that take precedence come first. -/
theorem built_ancestors {graph : Graph} (hbuilt : graph.Built) :
    (∀ id, ¬ TransGen graph.Mixes id id) ∧
      (WellFounded fun next id => graph.Links id next) ∧
      ∀ id, graph.Has id →
        graph.superclassChain id =
          id :: ((graph.superclass? id).map graph.superclassChain).getD [] ∧
        graph.localPart id = (graph.record id).prepends.flatMap graph.localPart ++
          id :: (graph.record id).includes.flatMap graph.localPart ∧
        (∀ other, other ∈ graph.ancestors id ↔ ReflTransGen graph.Links id other) ∧
        (graph.ancestors id).Nodup ∧
        graph.ancestors id = (graph.localPart id).eraseDups ++
          (((graph.superclass? id).map graph.ancestors).getD []).filter
            (fun other => other ∉ graph.localPart id) ∧
        graph.PrependsFirst (graph.ancestors id) := by
  have hstacked := hbuilt.sound.stacked
  refine ⟨hstacked.acyclic, hstacked.wellFounded_links, ?_⟩
  intro id hid
  exact ⟨hstacked.superclassChain_eq id, hstacked.localPart_eq hid,
    fun _ => hstacked.mem_ancestors hid, nodup_ancestors graph id,
    hstacked.ancestors_eq id, hstacked.prependsFirst_ancestors hid⟩

/-- With `Comparable` prepended to `Array`, it is an ancestor that stands before `Array`. -/
theorem ancestors_prepended :
    let graph :=
      (Building.prependModule CoreClass.array.id CoreClass.comparable.id).after Graph.core
    graph.ancestors CoreClass.array.id =
        [CoreClass.comparable, .array, .object, .kernel, .basicObject].map CoreClass.id ∧
      graph.PrependsFirst (graph.ancestors CoreClass.array.id) := by
  intro graph
  refine ⟨by decide +kernel, ?_⟩
  have hcore := sound_core.stacked.has_core
  have hbuilt : graph.Built := .step .core ⟨hcore .array, hcore .comparable⟩
  exact ((built_ancestors hbuilt).2.2 _ (by decide +kernel)).2.2.2.2.2

end ObjectModel.Graph
