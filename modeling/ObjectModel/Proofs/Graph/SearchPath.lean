import ObjectModel.Proofs.Graph.Search

/-! # Search paths

The way of a search before repetitions are left out: the local parts of the classes of the superclass chain, one
after the other. Where a class is among those that are searched, the search comes to it at first as a part of the
whole path of that class. So whatever that class finds for itself is found next, unless something was found before
the path begins.
-/

namespace ObjectModel

/-- Where an item is in a list, it comes first in a block that the list has as a whole. -/
def OpensBlock {α : Type} (item : α) (block items : List α) : Prop :=
  item ∈ items → ∃ before after, items = before ++ (block ++ after) ∧ item ∉ before

namespace OpensBlock

variable {α : Type} {item : α} {block first second : List α}

theorem of_not_mem (hitem : item ∉ first) : OpensBlock item block first :=
  fun hmem => absurd hmem hitem

theorem self (item : α) (block : List α) : OpensBlock item block block :=
  fun _ => ⟨[], [], by simp, by simp⟩

theorem append (hfirst : OpensBlock item block first) (hsecond : OpensBlock item block second) :
    OpensBlock item block (first ++ second) := by
  intro hmem
  by_cases hitem : item ∈ first
  · obtain ⟨before, after, rfl, hbefore⟩ := hfirst hitem
    exact ⟨before, after ++ second, by simp, hbefore⟩
  · have hrest := (List.mem_append.mp hmem).resolve_left hitem
    obtain ⟨before, after, rfl, hbefore⟩ := hsecond hrest
    exact ⟨first ++ before, after, by simp, by simp [hitem, hbefore]⟩

theorem cons {head : α} (hne : item ≠ head) (hrest : OpensBlock item block second) :
    OpensBlock item block (head :: second) :=
  have hhead : item ∉ [head] := by simpa using hne
  append (of_not_mem hhead) hrest

theorem flatMap {β : Type} {expand : β → List α} {outers : List β}
    (hexpand : ∀ outer ∈ outers, OpensBlock item block (expand outer)) :
    OpensBlock item block (outers.flatMap expand) := by
  induction outers with
  | nil => exact of_not_mem (by simp)
  | cons outer rest ih =>
      rw [List.flatMap_cons]
      exact (hexpand outer List.mem_cons_self).append
        (ih fun other hother => hexpand other (List.mem_cons_of_mem _ hother))

end OpensBlock

namespace Graph

/-- The classes and modules along which a class is searched, with repetitions. -/
def searchPath (graph : Graph) (id : ClassId) : List ClassId :=
  (graph.superclassChain id).flatMap graph.localPart

/-- The first entry of a name in the tables of several classes and modules. -/
def entryIn? (graph : Graph) (items : List ClassId) (name : Symbol) : Option MethodEntry :=
  items.findSome? fun item => (graph.record item).methods.find? name

variable {graph : Graph} {id cls other : ClassId}

theorem ancestors_eq_eraseDups (graph : Graph) (id : ClassId) :
    graph.ancestors id = (graph.searchPath id).eraseDups := rfl

theorem mem_searchPath : other ∈ graph.searchPath id ↔ other ∈ graph.ancestors id := by
  rw [ancestors_eq_eraseDups, List.mem_eraseDups]

theorem firstEntry_eq_entryIn (graph : Graph) (id : ClassId) (name : Symbol) :
    graph.firstEntry? id name = graph.entryIn? (graph.searchPath id) name :=
  findSome?_eraseDups _ _

theorem entryIn_append (graph : Graph) (first second : List ClassId) (name : Symbol) :
    graph.entryIn? (first ++ second) name = (graph.entryIn? first name).or (graph.entryIn? second name) :=
  List.findSome?_append

theorem SameFrame.searchPath {first second : Graph} (hsame : first.SameFrame second) (id : ClassId) :
    second.searchPath id = first.searchPath id := by
  rw [Graph.searchPath, hsame.superclassChain, funext hsame.localPart, Graph.searchPath]

/-- A change of the record of a class is not seen in other tables. -/
theorem entryIn_update {items : List ClassId} (hid : id ∉ items) (change : ClassRecord → ClassRecord)
    (name : Symbol) : (graph.update id change).entryIn? items name = graph.entryIn? items name := by
  apply findSome?_congr
  intro item hitem
  rw [record_update_of_ne (ne_of_mem_of_not_mem hitem hid)]

namespace Stacked

/-- No module brings what it is mixed into. -/
theorem not_mem_localPart (hstacked : graph.Stacked) {inner : ClassId} (hmixes : graph.Mixes id inner) :
    id ∉ graph.localPart inner := by
  intro hmem
  have hback := (hstacked.mem_localPart (hstacked.has_of_mixes_right hmixes)).mp hmem
  have hcycle : Relation.TransGen (fun inner outer => graph.Mixes outer inner) id id :=
    (Relation.TransGen.head' hmixes hback).swap
  exact hstacked.wellFounded_mixes.transGen.irrefl.irrefl id hcycle

theorem not_mem_prepends (hstacked : graph.Stacked) (id : ClassId) :
    id ∉ (graph.record id).prepends.flatMap graph.localPart := by
  intro hmem
  obtain ⟨inner, hinner, hmem⟩ := List.mem_flatMap.mp hmem
  exact hstacked.not_mem_localPart (.inl hinner) hmem

theorem searchPath_eq (hstacked : graph.Stacked) (id : ClassId) :
    graph.searchPath id =
      graph.localPart id ++ ((graph.superclass? id).map graph.searchPath).getD [] := by
  rw [searchPath, hstacked.superclassChain_eq, List.flatMap_cons]
  cases graph.superclass? id with
  | none => rfl
  | some superclass => rfl

theorem searchPath_of_isModule (hstacked : graph.Stacked) (hmodule : graph.isModule id) :
    graph.searchPath id = graph.localPart id := by
  rw [hstacked.searchPath_eq, hstacked.superclass_module hmodule]
  simp

/-- A class comes before its superclass and everything that is searched from there. -/
theorem not_mem_searchPath_superclass (hstacked : graph.Stacked) {superclass : ClassId}
    (hsuper : graph.superclass? id = some superclass) : id ∉ graph.searchPath superclass := by
  intro hmem
  have hlt := hstacked.superclass_lt hsuper
  have hkind : ¬ graph.isModule id := by
    intro hmodule
    rw [hstacked.superclass_module hmodule] at hsuper
    cases hsuper
  obtain ⟨above, habove, hlocal⟩ := List.mem_flatMap.mp hmem
  have hhas := hstacked.has_of_mem_chain (Nat.lt_trans hlt (has_of_superclass hsuper)) habove
  obtain rfl := hstacked.eq_of_mem_localPart hhas hlocal hkind
  have hle := hstacked.index_le_of_mem_chain habove
  omega

/-- A local part in which a module is brings it with the whole local part of the module. -/
theorem opens_localPart (hstacked : graph.Stacked) (hcls : graph.Has cls) :
    OpensBlock id (graph.localPart id) (graph.localPart cls) := by
  induction cls using hstacked.wellFounded_mixes.induction with
  | _ cls ih =>
      by_cases heq : id = cls
      · exact heq ▸ .self id _
      have hinner : ∀ inner, graph.Mixes cls inner →
          OpensBlock id (graph.localPart id) (graph.localPart inner) :=
        fun inner hmixes => ih inner hmixes (hstacked.has_of_mixes_right hmixes)
      rw [hstacked.localPart_eq hcls]
      exact (OpensBlock.flatMap fun inner hmem => hinner inner (.inl hmem)).append
        (.cons heq (.flatMap fun inner hmem => hinner inner (.inr hmem)))

/-- The path of a class on which another one is goes on from there like the path of that one: a module brings its local
part, and from any other class on the superclass chains are the same. -/
theorem opens_searchPath (hstacked : graph.Stacked) (hcls : graph.Has cls) :
    OpensBlock id (graph.searchPath id) (graph.searchPath cls) := by
  by_cases hmodule : graph.isModule id
  · rw [hstacked.searchPath_of_isModule hmodule]
    exact .flatMap fun other hother => hstacked.opens_localPart (hstacked.has_of_mem_chain hcls hother)
  have hlocal {other : ClassId} (hother : graph.Has other) (hne : id ≠ other) :
      id ∉ graph.localPart other :=
    fun hmem => hne (hstacked.eq_of_mem_localPart hother hmem hmodule)
  induction cls using hstacked.superclassInduction with
  | hroot cls hnone =>
      by_cases heq : id = cls
      · exact heq ▸ .self id _
      · rw [hstacked.searchPath_eq cls, hnone]
        exact .of_not_mem (by simpa using hlocal hcls heq)
  | hstep cls superclass hsuper ih =>
      by_cases heq : id = cls
      · exact heq ▸ .self id _
      · rw [hstacked.searchPath_eq cls, hsuper]
        exact (OpensBlock.of_not_mem (hlocal hcls heq)).append
          (ih (Nat.lt_trans (hstacked.superclass_lt hsuper) hcls))

/-- What a class finds under a name is found for every class among whose ancestors it is, unless an entry comes before
the class is searched. -/
theorem exists_before (hstacked : graph.Stacked) (hcls : graph.Has cls)
    (hid : id ∈ graph.ancestors cls) :
    ∃ before after, id ∉ before ∧ graph.searchPath cls = before ++ (graph.searchPath id ++ after) := by
  obtain ⟨before, after, hpath, hbefore⟩ := hstacked.opens_searchPath hcls (mem_searchPath.mpr hid)
  exact ⟨before, after, hbefore, hpath⟩

end Stacked

end Graph

end ObjectModel
