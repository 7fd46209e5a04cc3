import ObjectModel.Proofs.Graph.SearchPath
import ObjectModel.Proofs.SingletonMethods

/-! # What mixing in a module does to the ancestors

A module is mixed into a class on one of two sides, in front of the class or behind it. On its side its local
part is put into that of the class as a whole; then what repeats is left out of every list of ancestors as before.
No other local part changes that does not have the class in it. Seen as a set, the ancestors of a class gain those
of the module, if the class that was changed is among them, and nothing is ever lost.
-/

namespace ObjectModel

open Relation

/-- The side of a class on which a module is mixed in. -/
inductive Side
  | front
  | behind
  deriving DecidableEq, Repr

namespace Side

/-- The change of a record that mixes a module in. -/
def change : Side → ClassId → ClassRecord → ClassRecord
  | front => .addPrepend
  | behind => .addInclude

/-- The text of the fault if the class is among the ancestors of the module. -/
def cyclic : Side → String
  | front => "cyclic prepend detected"
  | behind => "cyclic include detected"

/-- The operation on the class graph. -/
def mix : Side → Graph → ClassId → ClassId → Except Fault (Bool × Graph)
  | front => Graph.prependModule
  | behind => Graph.includeModule

/-- The operation on the state. -/
def operation : Side → ClassId → ClassId → Action Bool
  | front => prependModule
  | behind => includeModule

/-- How a list is put into another one beside an item: in front of everything, or right behind the item. -/
def place {α : Type} (side : Side) (before : List α) (item : α) (after added : List α) : List α :=
  match side with
  | front => added ++ (before ++ item :: after)
  | behind => before ++ item :: (added ++ after)

/-- How the ancestors of a class come out when those of a module are added: first those of the module and then the
others, or first the old ones as far as the class, then those of the module, and then the rest. What stood in
an earlier part is left out of the later ones. -/
def Joins (side : Side) (id : ClassId) (old added new : List ClassId) : Prop :=
  match side with
  | front => new = added ++ old.filter (· ∉ added)
  | behind => ∃ before after, old = before ++ id :: after ∧
      new = before ++ [id] ++ added.filter (· ∉ before ++ [id]) ++ after.filter (· ∉ added)

theorem place_append {α : Type} (side : Side) (before : List α) (item : α) (after added rest : List α) :
    side.place before item after added ++ rest = side.place before item (after ++ rest) added := by
  cases side <;> simp [place]

theorem mixesIn (side : Side) (mixin : ClassId) : Graph.MixesIn mixin (side.change mixin) := by
  cases side with
  | front => exact .inr rfl
  | behind => exact .inl rfl

/-- Leaving out repetitions after a list was put beside an item. -/
theorem joins_eraseDups (side : Side) {id : ClassId} {before : List ClassId} (hbefore : id ∉ before)
    (after added : List ClassId) :
    side.Joins id (before ++ id :: after).eraseDups added.eraseDups
      (side.place before id after added).eraseDups := by
  cases side with
  | front =>
      rw [Joins, place, eraseDups_append_filter]
      simp only [List.mem_eraseDups]
  | behind =>
      -- the part as far as the item is the same before and after
      have hsplit (rest : List ClassId) : (before ++ id :: rest).eraseDups =
          before.eraseDups ++ [id] ++ rest.eraseDups.filter (· ∉ before ++ [id]) := by
        rw [List.append_cons, eraseDups_append_filter, eraseDups_append_filter, List.eraseDups_cons]
        simp [hbefore]
      refine ⟨before.eraseDups, after.eraseDups.filter (· ∉ before ++ [id]), ?_, ?_⟩
      · rw [hsplit, List.append_assoc, List.singleton_append]
      · rw [place, hsplit, eraseDups_append_filter, List.filter_append, List.filter_filter,
          List.filter_filter]
        simp only [List.mem_append, List.mem_eraseDups, Bool.and_comm, List.append_assoc]

end Side

namespace Graph

variable {graph : Graph} {id mixin cls other : ClassId} {side : Side}

/-- A module that is mixed in is one more for the class, and nothing else. -/
theorem mixes_mix (hid : graph.Has id) {next : ClassId} :
    (graph.update id (side.change mixin)).Mixes cls next ↔
      graph.Mixes cls next ∨ cls = id ∧ next = mixin := by
  refine ⟨mixes_update (side.mixesIn mixin), ?_⟩
  by_cases hcls : cls = id
  · subst hcls
    rw [Mixes, Mixes, record_update_self hid]
    cases side with
    | front =>
        simp only [Side.change, ClassRecord.addPrepend, List.mem_cons]
        tauto
    | behind =>
        simp only [Side.change, ClassRecord.addInclude, List.mem_cons]
        tauto
  · rw [Mixes, Mixes, record_update_of_ne hcls]
    exact fun hold => hold.resolve_right fun hnew => hcls hnew.1

theorem links_mix (hid : graph.Has id) {next : ClassId} :
    (graph.update id (side.change mixin)).Links cls next ↔
      graph.Links cls next ∨ cls = id ∧ next = mixin := by
  have hsame := (graph.sameSlots_update id (side.mixesIn mixin).sameSlot).record cls
  rw [Links, superclass?, hsame.superclass, Links, superclass?, or_assoc, mixes_mix hid]

/-! ## Local parts and search paths -/

namespace Stacked

variable (hstacked : graph.Stacked) (hmixable : graph.Mixable id mixin)

include hstacked hmixable

/-- A local part in which the class is not stays as it was. -/
theorem localPart_mix (side : Side) (hcls : graph.Has cls) (hunseen : id ∉ graph.localPart cls) :
    (graph.update id (side.change mixin)).localPart cls = graph.localPart cls := by
  have hmixed := hstacked.mix hmixable (side.mixesIn mixin)
  induction cls using hstacked.wellFounded_mixes.induction with
  | _ cls ih =>
      have hne : cls ≠ id := fun heq => hunseen (heq ▸ hstacked.self_mem_localPart hcls)
      have hinner : ∀ inner, graph.Mixes cls inner →
          (graph.update id (side.change mixin)).localPart inner = graph.localPart inner :=
        fun inner hmixes => ih inner hmixes (hstacked.has_of_mixes_right hmixes) fun hmem =>
          hunseen ((hstacked.mem_localPart_iff hcls).mpr (.inr ⟨inner, hmixes, hmem⟩))
      rw [hmixed.localPart_eq (has_update.mpr hcls), hstacked.localPart_eq hcls,
        record_update_of_ne hne]
      congr 1
      · exact List.flatMap_congr fun inner hmem => hinner inner (.inl hmem)
      · exact congrArg _ (List.flatMap_congr fun inner hmem => hinner inner (.inr hmem))

/-- The local part of the module is put into that of the class. -/
theorem exists_localPart_mix (side : Side) (hid : graph.Has id) :
    ∃ before after, id ∉ before ∧ graph.localPart id = before ++ id :: after ∧
      (graph.update id (side.change mixin)).localPart id =
        side.place before id after (graph.localPart mixin) := by
  have hmixed := hstacked.mix hmixable (side.mixesIn mixin)
  have hadded : (graph.update id (side.change mixin)).localPart mixin = graph.localPart mixin := by
    apply hstacked.localPart_mix hmixable side (has_of_isModule hmixable.isModule)
    intro hmem
    exact hmixable.acyclic
      (mem_ancestors_iff.mpr ⟨mixin, hstacked.self_mem_superclassChain mixin, hmem⟩)
  have hinner : ∀ modules : List ClassId, (∀ inner ∈ modules, graph.Mixes id inner) →
      modules.flatMap (graph.update id (side.change mixin)).localPart =
        modules.flatMap graph.localPart := by
    intro modules hmodules
    apply List.flatMap_congr
    intro inner hmem
    have hmixes := hmodules inner hmem
    exact hstacked.localPart_mix hmixable side (hstacked.has_of_mixes_right hmixes)
      (hstacked.not_mem_localPart hmixes)
  have hprepends := hinner (graph.record id).prepends fun _ => .inl
  have hincludes := hinner (graph.record id).includes fun _ => .inr
  refine ⟨_, _, hstacked.not_mem_prepends id, hstacked.localPart_eq hid, ?_⟩
  rw [hmixed.localPart_eq (has_update.mpr hid), record_update_self hid]
  cases side with
  | front =>
      simp only [Side.change, ClassRecord.addPrepend, Side.place] at hadded hprepends hincludes ⊢
      rw [List.flatMap_cons]
      rw [hadded, hprepends, hincludes, List.append_assoc]
  | behind =>
      simp only [Side.change, ClassRecord.addInclude, Side.place] at hadded hprepends hincludes ⊢
      rw [List.flatMap_cons]
      rw [hadded, hprepends, hincludes]

/-- The superclass chains stay, so a search that does not come to the class goes the way it went before. -/
theorem searchPath_mix (side : Side) (hcls : graph.Has cls) (hunseen : id ∉ graph.searchPath cls) :
    (graph.update id (side.change mixin)).searchPath cls = graph.searchPath cls := by
  have hmixed := hstacked.mix hmixable (side.mixesIn mixin)
  have hgrows := (graph.sameSlots_update id (side.mixesIn mixin).sameSlot).grows
  rw [searchPath, hgrows.superclassChain hstacked hmixed hcls, searchPath]
  apply List.flatMap_congr
  intro above habove
  apply hstacked.localPart_mix hmixable side (hstacked.has_of_mem_chain hcls habove)
  exact fun hmem => hunseen (List.mem_flatMap.mpr ⟨above, habove, hmem⟩)

/-- A search for the class itself finds the local part of the module on its way. -/
theorem exists_searchPath_mix (side : Side) (hid : graph.Has id) :
    ∃ before after, id ∉ before ∧ graph.searchPath id = before ++ id :: after ∧
      (graph.update id (side.change mixin)).searchPath id =
        side.place before id after (graph.localPart mixin) := by
  have hmixed := hstacked.mix hmixable (side.mixesIn mixin)
  have hsame := (graph.sameSlots_update id (side.mixesIn mixin).sameSlot).record id
  have hsuper : (graph.update id (side.change mixin)).superclass? id = graph.superclass? id :=
    hsame.superclass
  have hrest : ((graph.superclass? id).map (graph.update id (side.change mixin)).searchPath).getD [] =
      ((graph.superclass? id).map graph.searchPath).getD [] := by
    cases habove : graph.superclass? id with
    | none => rfl
    | some superclass =>
        have hhas := Nat.lt_trans (hstacked.superclass_lt habove) hid
        exact hstacked.searchPath_mix hmixable side hhas
          (hstacked.not_mem_searchPath_superclass habove)
  obtain ⟨before, after, hbefore, hold, hnew⟩ := hstacked.exists_localPart_mix hmixable side hid
  refine ⟨before, after ++ ((graph.superclass? id).map graph.searchPath).getD [], hbefore, ?_, ?_⟩
  · rw [hstacked.searchPath_eq, hold, List.append_assoc, List.cons_append]
  · rw [hmixed.searchPath_eq, hnew, hsuper, hrest, side.place_append]

/-! ## Ancestors -/

/-- The ancestors of the module are put among those of the class. -/
theorem joins_ancestors (side : Side) (hid : graph.Has id) :
    side.Joins id (graph.ancestors id) (graph.ancestors mixin)
      ((graph.update id (side.change mixin)).ancestors id) := by
  obtain ⟨before, after, hbefore, hold, hnew⟩ := hstacked.exists_searchPath_mix hmixable side hid
  rw [ancestors_eq_eraseDups, ancestors_eq_eraseDups, ancestors_eq_eraseDups, hold, hnew,
    hstacked.searchPath_of_isModule hmixable.isModule]
  exact side.joins_eraseDups hbefore after _

theorem ancestors_mix_of_not_mem (side : Side) (hcls : graph.Has cls)
    (hunseen : id ∉ graph.ancestors cls) :
    (graph.update id (side.change mixin)).ancestors cls = graph.ancestors cls := by
  rw [ancestors_eq_eraseDups, ancestors_eq_eraseDups,
    hstacked.searchPath_mix hmixable side hcls (mt mem_searchPath.mp hunseen)]

/-- Every class that has the class among its ancestors gains those of the module. -/
theorem mem_ancestors_mix (side : Side) (hid : graph.Has id) (hcls : graph.Has cls) :
    other ∈ (graph.update id (side.change mixin)).ancestors cls ↔
      other ∈ graph.ancestors cls ∨ id ∈ graph.ancestors cls ∧ other ∈ graph.ancestors mixin := by
  have hmixed := hstacked.mix hmixable (side.mixesIn mixin)
  have hlinks : (graph.update id (side.change mixin)).Links =
      fun first second => graph.Links first second ∨ first = id ∧ second = mixin :=
    funext₂ fun _ _ => propext (links_mix hid)
  rw [hmixed.mem_ancestors (has_update.mpr hcls), hlinks, reflTransGen_with_edge,
    hstacked.mem_ancestors hcls, hstacked.mem_ancestors hcls,
    hstacked.mem_ancestors (has_of_isModule hmixable.isModule)]

end Stacked

/-- What mixing in a module does to the ancestors of all classes. -/
structure Merges (side : Side) (first second : Graph) (id mixin : ClassId) : Prop where
  joins : side.Joins id (first.ancestors id) (first.ancestors mixin) (second.ancestors id)
  kept : ∀ {cls}, first.Has cls → id ∉ first.ancestors cls → second.ancestors cls = first.ancestors cls
  mem : ∀ {cls other}, first.Has cls → (other ∈ second.ancestors cls ↔
    other ∈ first.ancestors cls ∨ id ∈ first.ancestors cls ∧ other ∈ first.ancestors mixin)

theorem Stacked.merges (hstacked : graph.Stacked) (hmixable : graph.Mixable id mixin) (side : Side)
    (hid : graph.Has id) : Merges side graph (graph.update id (side.change mixin)) id mixin :=
  ⟨hstacked.joins_ancestors hmixable side hid, hstacked.ancestors_mix_of_not_mem hmixable side,
    hstacked.mem_ancestors_mix hmixable side hid⟩

/-- Mixing in is refused, does nothing, or changes the record of the class, by the first check that decides. -/
theorem mix_eq (side : Side) (graph : Graph) (id mixin : ClassId) :
    side.mix graph id mixin =
      if ¬ graph.isModule mixin then .error (.typeMismatch "wrong argument type (expected Module)")
      else if mixin ∈ graph.ancestors id then .ok (false, graph)
      else if id ∈ graph.ancestors mixin then .error (.argument side.cyclic)
      else .ok (true, graph.update id (side.change mixin)) := by
  cases side with
  | front => exact graph.mix_of_check id mixin _ _
  | behind => exact graph.mix_of_check id mixin _ _

end Graph

namespace State

variable {state : State} {id : ClassId}

/-- What becomes of mixing in: it is refused if the table of the class may not be changed, and else done to the graph. -/
theorem run_mixIn (state : State) (id : ClassId) (mix : Graph → Except Fault (Bool × Graph)) :
    (mixIn id mix).run.run state =
      match state.result (checkMutable id), mix state.graph with
      | .error halt, _ => (.error halt, state)
      | .ok _, .error fault => (.error (.fault fault), state)
      | .ok _, .ok (added, graph) => (.ok added, state.withGraph graph) := by
  have hsame := state.after_checkMutable id
  rw [after] at hsame
  rw [mixIn, run_bind, result]
  cases hcase : (checkMutable id).run.run state with
  | mk outcome reached =>
      rw [hcase] at hsame
      obtain rfl : reached = state := hsame
      cases outcome with
      | error halt => rfl
      | ok checked =>
          dsimp only
          rw [run_get_bind]
          cases mix reached.graph <;> rfl

theorem operation_eq (side : Side) (id mixin : ClassId) :
    side.operation id mixin = mixIn id fun graph => side.mix graph id mixin := by
  cases side <;> rfl

/-- In every state that can be reached, a module is mixed into a class with one of four outcomes. It is refused if it is
no module; nothing is done if it is among the ancestors of the class already; it is refused if the class is among its own
ancestors; and else its ancestors are put among those of the class on the side that was chosen. Then the ancestors of
a class that does not have the changed one among them stay as they were in their order, and those of any other class
gain just the ancestors of the module. On a state this is done if the table of the class may be changed, and a refusal
leaves the state as it is. -/
theorem mixing_outcomes (hreachable : state.Reachable) (hid : state.graph.Has id) (side : Side)
    (mixin : ClassId) :
    let graph := state.graph
    let outcome := side.mix graph id mixin
    (¬ graph.isModule mixin →
      outcome = .error (.typeMismatch "wrong argument type (expected Module)")) ∧
    (graph.isModule mixin → mixin ∈ graph.ancestors id → outcome = .ok (false, graph)) ∧
    (graph.isModule mixin → mixin ∉ graph.ancestors id → id ∈ graph.ancestors mixin →
      outcome = .error (.argument side.cyclic)) ∧
    (graph.isModule mixin → mixin ∉ graph.ancestors id → id ∉ graph.ancestors mixin →
      ∃ mixed, outcome = .ok (true, mixed) ∧ Graph.Merges side graph mixed id mixin) ∧
    (side.operation id mixin).run.run state =
      match state.result (checkMutable id), outcome with
      | .error halt, _ => (.error halt, state)
      | .ok _, .error fault => (.error (.fault fault), state)
      | .ok _, .ok (added, mixed) => (.ok added, state.withGraph mixed) := by
  intro graph outcome
  have houtcome : outcome = _ := Graph.mix_eq side graph id mixin
  refine ⟨?_, ?_, ?_, ?_, ?_⟩
  · intro hmodule
    rw [houtcome, if_pos hmodule]
  · intro hmodule hmem
    rw [houtcome, if_neg (not_not.mpr hmodule), if_pos hmem]
  · intro hmodule hnew hcyclic
    rw [houtcome, if_neg (not_not.mpr hmodule), if_neg hnew, if_pos hcyclic]
  · intro hmodule hnew hacyclic
    rw [houtcome, if_neg (not_not.mpr hmodule), if_neg hnew, if_neg hacyclic]
    exact ⟨_, rfl, hreachable.sound.graph.stacked.merges ⟨hmodule, hnew, hacyclic⟩ side hid⟩
  · rw [operation_eq]
    exact run_mixIn state id _

/-- `Comparable` comes first among the ancestors of arrays once it is prepended to them. Once it is included in them
they have it besides what they had, and strings, which are no arrays, have it where they had it. -/
theorem mixing_comparable_into_array :
    let array := CoreClass.array.id
    let comparable := CoreClass.comparable.id
    ∃ prepended included, Side.front.mix plain.graph array comparable = .ok (true, prepended) ∧
      Side.behind.mix plain.graph array comparable = .ok (true, included) ∧
      prepended.ancestors array = comparable :: plain.graph.ancestors array ∧
      (∀ other, other ∈ included.ancestors array ↔
        other ∈ plain.graph.ancestors array ∨ other = comparable) ∧
      included.ancestors CoreClass.string.id = plain.graph.ancestors CoreClass.string.id := by
  intro array comparable
  have hcore := reachable_plain.sound.graph.stacked.has_core
  obtain ⟨hmodule, halone, hnew, hstring⟩ : plain.graph.isModule comparable ∧
      plain.graph.ancestors comparable = [comparable] ∧ comparable ∉ plain.graph.ancestors array ∧
      array ∉ plain.graph.ancestors CoreClass.string.id := by decide +kernel
  have hacyclic : array ∉ plain.graph.ancestors comparable := by
    rw [halone]
    decide
  obtain ⟨-, -, -, hfront, -⟩ := mixing_outcomes reachable_plain (hcore .array) .front comparable
  obtain ⟨-, -, -, hbehind, -⟩ := mixing_outcomes reachable_plain (hcore .array) .behind comparable
  obtain ⟨prepended, hprepended, hbefore⟩ := hfront hmodule hnew hacyclic
  obtain ⟨included, hincluded, hafter⟩ := hbehind hmodule hnew hacyclic
  refine ⟨prepended, included, hprepended, hincluded, ?_, ?_, hafter.kept (hcore .string) hstring⟩
  · have hjoins : prepended.ancestors array = plain.graph.ancestors comparable ++
        (plain.graph.ancestors array).filter (· ∉ plain.graph.ancestors comparable) := hbefore.joins
    rw [hjoins, halone, List.singleton_append, List.filter_eq_self.mpr]
    intro other hother
    have hne : other ≠ comparable := fun heq => hnew (heq ▸ hother)
    simpa using hne
  · intro other
    have hself := reachable_plain.sound.graph.stacked.self_mem_ancestors (hcore .array)
    rw [hafter.mem (hcore .array), halone, List.mem_singleton, and_iff_right hself]

end State

end ObjectModel
