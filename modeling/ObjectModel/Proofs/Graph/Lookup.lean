import ObjectModel.Graph.Lookup
import ObjectModel.Proofs.Graph.Ancestry
import ObjectModel.Proofs.Table

/-! # Where lookups find what they find

An entry that was found stands in the table of the class with which it was found.
-/

namespace ObjectModel.Graph

variable {graph : Graph} {id : ClassId} {name : Symbol}

theorem exists_of_firstEntry {entry : MethodEntry} (hfirst : graph.firstEntry? id name = some entry) :
    ∃ ancestor ∈ graph.ancestors id, (name, entry) ∈ (graph.record ancestor).methods.entries := by
  obtain ⟨ancestor, hmem, hfind⟩ := List.exists_of_findSome?_eq_some hfirst
  exact ⟨ancestor, hmem, Table.mem_of_find hfind⟩

theorem findMethod_eq_some {entry : MethodEntry} :
    graph.findMethod? id name = some entry ↔
      graph.firstEntry? id name = some entry ∧ entry.isDefined := by
  rw [findMethod?, Option.filter_eq_some_iff]

theorem mem_insertByName {pair other : Symbol × MethodEntry} {pairs : List (Symbol × MethodEntry)}
    (hpair : pair ∈ insertByName other pairs) : pair = other ∨ pair ∈ pairs := by
  induction pairs with
  | nil => exact .inl (List.mem_singleton.mp hpair)
  | cons first rest ih =>
      rw [insertByName] at hpair
      split at hpair
      · exact List.mem_cons.mp hpair
      · rcases List.mem_cons.mp hpair with rfl | hrest
        · exact .inr List.mem_cons_self
        · exact (ih hrest).imp_right (List.mem_cons_of_mem _)

theorem mem_of_sortedMethods {pair : Symbol × MethodEntry} (hpair : pair ∈ graph.sortedMethods id) :
    pair ∈ (graph.record id).methods.entries := by
  rw [sortedMethods] at hpair
  generalize (graph.record id).methods.entries = entries at hpair ⊢
  induction entries with
  | nil => exact hpair
  | cons first rest ih =>
      rcases mem_insertByName hpair with rfl | hrest
      · exact List.mem_cons_self
      · exact List.mem_cons_of_mem _ (ih hrest)

theorem exists_of_visibleNames {seen : List Symbol} {pairs : List (Symbol × MethodEntry)}
    (hname : name ∈ visibleNames seen pairs) : ∃ entry, (name, entry) ∈ pairs := by
  induction pairs generalizing seen with
  | nil => simp [visibleNames] at hname
  | cons first rest ih =>
      have hlater : ∀ {others}, name ∈ visibleNames others rest →
          ∃ entry, (name, entry) ∈ first :: rest := by
        intro others hrest
        obtain ⟨entry, hentry⟩ := ih hrest
        exact ⟨entry, List.mem_cons_of_mem _ hentry⟩
      rw [visibleNames] at hname
      split at hname
      · exact hlater hname
      · split at hname
        · rcases List.mem_cons.mp hname with rfl | hrest
          · exact ⟨first.2, List.mem_cons_self⟩
          · exact hlater hrest
        · exact hlater hname

/-- A listed method stands in some table. -/
theorem exists_of_instanceMethods {inherited : Bool}
    (hname : name ∈ graph.instanceMethods id inherited) :
    ∃ ancestor entry, (name, entry) ∈ (graph.record ancestor).methods.entries := by
  obtain ⟨entry, hentry⟩ := exists_of_visibleNames hname
  obtain ⟨ancestor, _, hmem⟩ := List.mem_flatMap.mp hentry
  exact ⟨ancestor, entry, mem_of_sortedMethods hmem⟩

/-- A listed constant stands in some table. -/
theorem exists_of_constantNames {inherited : Bool}
    (hname : name ∈ graph.constantNames id inherited) :
    ∃ scope entry, (name, entry) ∈ (graph.record scope).constants.entries := by
  rw [constantNames, List.mem_eraseDups] at hname
  obtain ⟨scope, _, hpublic⟩ := List.mem_flatMap.mp hname
  obtain ⟨pair, hpair, rfl⟩ := List.mem_map.mp hpublic
  exact ⟨scope, pair.2, (List.mem_filter.mp hpair).1⟩

theorem mem_of_ownConstant {scope owner : ClassId} {entry : ConstantEntry}
    (hown : graph.ownConstant? scope name = some (owner, entry)) :
    owner = scope ∧ (name, entry) ∈ (graph.record owner).constants.entries := by
  obtain ⟨found, hfind, hpair⟩ := Option.map_eq_some_iff.mp hown
  obtain ⟨rfl, rfl⟩ := Prod.mk.inj hpair
  exact ⟨rfl, Table.mem_of_find hfind⟩

theorem mem_of_resolveConstant {owner : ClassId} {entry : ConstantEntry}
    (hresolve : graph.resolveConstant? id name = some (owner, entry)) :
    (name, entry) ∈ (graph.record owner).constants.entries := by
  rw [resolveConstant?] at hresolve
  cases hfirst : (graph.ancestors id).findSome? fun ancestor => graph.ownConstant? ancestor name with
  | some pair =>
      rw [hfirst] at hresolve
      obtain rfl := Option.some.inj hresolve
      obtain ⟨ancestor, _, hown⟩ := List.exists_of_findSome?_eq_some hfirst
      exact (mem_of_ownConstant hown).2
  | none =>
      rw [hfirst] at hresolve
      change (if graph.isModule id then graph.ownConstant? CoreClass.object.id name else none) =
        some (owner, entry) at hresolve
      split at hresolve
      · exact (mem_of_ownConstant hresolve).2
      · simp at hresolve

end ObjectModel.Graph
