import Mathlib.Data.List.TakeWhile
import ObjectModel.Proofs.Graph.SearchPath
import ObjectModel.Proofs.MethodViews

/-! # What undefining a method hides

Undefining a method puts a tombstone into the table of the class itself. The search for a method comes to that table only
behind the modules that were prepended to the class. So the tombstone hides whatever stands in the class or further up, and
a method that a prepended module brings is found as it was found before.
-/

namespace ObjectModel

namespace Graph

/-- The ancestors of a class that are searched before the class itself. -/
def inFront (graph : Graph) (id : ClassId) : List ClassId :=
  (graph.ancestors id).takeWhile (· ≠ id)

/-- The first entry of a name that is found before a class itself is searched, tombstones included. -/
def frontEntry? (graph : Graph) (id : ClassId) (name : Symbol) : Option MethodEntry :=
  (graph.inFront id).findSome? fun ancestor => (graph.record ancestor).methods.find? name

theorem ne_of_mem_inFront {graph : Graph} {id other : ClassId} (hother : other ∈ graph.inFront id) :
    other ≠ id := by
  simpa using List.mem_takeWhile_imp hother

namespace Stacked

variable {graph : Graph} {id : ClassId}

/-- What is searched before a class is what its prepended modules bring, each once. -/
theorem inFront_eq (hstacked : graph.Stacked) (hid : graph.Has id) :
    graph.inFront id = ((graph.record id).prepends.flatMap graph.localPart).eraseDups := by
  have hnot := hstacked.not_mem_prepends id
  rw [inFront, hstacked.ancestors_eq, hstacked.localPart_eq hid, eraseDups_append_filter,
    List.eraseDups_cons, List.filter_cons_of_pos (by simpa using hnot), List.append_assoc,
    List.takeWhile_append_of_pos]
  · simp
  · intro other hother
    rw [List.mem_eraseDups] at hother
    exact decide_eq_true fun heq => hnot (heq ▸ hother)

theorem inFront_eq_nil (hstacked : graph.Stacked) (hid : graph.Has id)
    (hnone : (graph.record id).prepends = []) : graph.inFront id = [] := by
  rw [hstacked.inFront_eq hid, hnone]
  rfl

/-- The class comes right behind what is searched before it. -/
theorem exists_behind (hstacked : graph.Stacked) (hid : graph.Has id) :
    ∃ behind, graph.ancestors id = graph.inFront id ++ id :: behind := by
  obtain ⟨front, behind, hsplit⟩ := List.append_of_mem (hstacked.self_mem_ancestors hid)
  have hfront : ∀ other ∈ front, other ≠ id := by
    have hnodup := graph.nodup_ancestors id
    rw [hsplit, List.nodup_append] at hnodup
    exact fun other hother => hnodup.2.2 other hother id List.mem_cons_self
  refine ⟨behind, ?_⟩
  rw [inFront, hsplit, List.takeWhile_append_of_pos (by simpa using hfront)]
  simp

/-- An entry that is put into the table of a class is found if there is none in front of the class. -/
theorem firstEntry_putMethod (hstacked : graph.Stacked) (hid : graph.Has id) (name : Symbol)
    (entry : MethodEntry) :
    Graph.firstEntry? (graph.update id (.putMethod name entry)) id name =
      (graph.frontEntry? id name).or (some entry) := by
  obtain ⟨behind, hancestors⟩ := hstacked.exists_behind hid
  have hown : ((graph.update id (.putMethod name entry)).record id).methods.find? name = some entry := by
    rw [record_update_self hid]
    exact Table.find?_insert_self _ name entry
  rw [ firstEntry?, (graph.sameFrame_putMethod id name entry).ancestors, hancestors,
    List.findSome?_append, List.findSome?_cons, hown, frontEntry?]
  congr 1
  exact entryIn_update (fun hmem => ne_of_mem_inFront hmem rfl) _ name

end Stacked

end Graph

namespace State

variable {state : State} {id : ClassId} {name : String} {symbol : Symbol}

/-- The entry by which a class hides a method. -/
def tombstone (id : ClassId) : MethodEntry := { owner := id, body := .tombstone, visibility := .pub }

/-- What undefining a method does where it is allowed: a tombstone is put into the table of the class. -/
theorem after_undefMethod_of_ok (hresult : state.result (undefMethod id name) = .ok ()) :
    ∃ symbol, state.names.find? name = some symbol ∧ state.after (undefMethod id name) =
      state.withGraph (state.graph.update id (.putMethod symbol (tombstone id))) := by
  obtain ⟨_, _, hrest, hafter⟩ := result_bind hresult
  rw [after_checkMutable] at hrest hafter
  change state.after (undefMethod id name) = _ at hafter
  rw [hafter]
  rw [result, run_ask_bind] at hrest
  rw [after, run_ask_bind]
  cases hnamed : state.methodNamed? id name with
  | none =>
      rw [hnamed] at hrest
      cases hrest
  | some pair =>
      obtain ⟨symbol, entry⟩ := pair
      exact ⟨symbol, (methodNamed_eq_some.mp hnamed).1, rfl⟩

/-- A method that is found along the ancestors of a class is found for each value whose search begins there. -/
theorem Sound.findMethod_start_of_result (hsound : state.Sound) {value : Value}
    (hvalue : state.Has value) (hid : state.graph.Has id)
    (hstart : state.result (dispatchClass value) = .ok id) :
    (state.start value).2.graph.findMethod? id symbol = state.graph.findMethod? id symbol := by
  cases value with
  | cls cls =>
      have hmade := hsound.graph.stacked.synthesizes hvalue
      have hextends := hmade.path.extends_graph
      have hstacked := (hsound.graph.synthesis hmade.path).stacked
      rw [Graph.findMethod?, Graph.findMethod?]
      exact congrArg _ (hextends.firstEntry hsound.graph.stacked hstacked hid symbol)
  | _ => rfl

/-- A value whose search begins at a class at which nothing is found under a name does not respond to it, and calls
of it fall back to the hook for missing methods. -/
theorem Sound.hidden_from_value (hsound : state.Sound) {value : Value} (hvalue : state.Has value)
    (hid : state.graph.Has id) (hname : state.names.find? name = some symbol)
    (hstart : state.result (dispatchClass value) = .ok id)
    (hhidden : state.graph.findMethod? id symbol = none) :
    (∀ includePrivate, state.result (respondTo value name includePrivate) = .ok false) ∧
      state.FallsBack invoke value name symbol ∧ state.FallsBack send value name symbol := by
  have hfind := (hsound.findMethod_start_of_result hvalue hid hstart).trans hhidden
  have hcls := start_of_result hstart
  refine ⟨?_, fallsBack_of_none hname rfl hcls hfind true, fallsBack_of_none hname rfl hcls hfind false⟩
  intro includePrivate
  rw [result_respondTo_of_find hname rfl hcls includePrivate, hfind]
  rfl

/-- In every state that can be reached, undefining a method hides what stands in the class and behind it. The
ancestors stay as they are. What is still found for the class under the name is just a method that is found in
front of the class, in the modules prepended to it; where nothing is prepended, nothing is found. If nothing is
found, the values whose search begins at the class do not respond to the name, and calls of it fall back to the hook
for missing methods. -/
theorem undefMethod_hides (hreachable : state.Reachable) (hid : state.graph.Has id)
    (hresult : state.result (undefMethod id name) = .ok ()) :
    let reached := state.after (undefMethod id name)
    ∃ symbol, reached.names.find? name = some symbol ∧
      reached.graph.ancestors id = state.graph.ancestors id ∧
      (∀ entry, reached.graph.findMethod? id symbol = some entry ↔
        state.graph.frontEntry? id symbol = some entry ∧ entry.isDefined) ∧
      ((state.graph.record id).prepends = [] → reached.graph.findMethod? id symbol = none) ∧
      (reached.graph.findMethod? id symbol = none → ∀ value, reached.Has value →
        reached.result (dispatchClass value) = .ok id →
          (∀ includePrivate, reached.result (respondTo value name includePrivate) = .ok false) ∧
          reached.FallsBack invoke value name symbol ∧ reached.FallsBack send value name symbol) := by
  intro reached
  have hsound := hreachable.sound
  have hstacked := hsound.graph.stacked
  obtain ⟨hruns, _⟩ := leads_undefMethod name hid hsound
  obtain ⟨hreached, hgrows⟩ := hsound.runs hruns
  obtain ⟨symbol, hname, hafter⟩ := after_undefMethod_of_ok hresult
  have hnames : reached.names.find? name = some symbol := by
    rw [show reached = _ from hafter]
    exact hname
  have hgraph : reached.graph = state.graph.update id (.putMethod symbol (tombstone id)) :=
    congrArg State.graph hafter
  -- the tombstone itself is no method, so what is found is found in front of it
  have hfind : reached.graph.findMethod? id symbol =
      (state.graph.frontEntry? id symbol).filter MethodEntry.isDefined := by
    rw [Graph.findMethod?, hgraph, hstacked.firstEntry_putMethod hid]
    cases state.graph.frontEntry? id symbol <;> rfl
  refine ⟨symbol, hnames, ?_, ?_, ?_, ?_⟩
  · rw [hgraph]
    exact (state.graph.sameFrame_putMethod id symbol (tombstone id)).ancestors id
  · intro entry
    rw [hfind, Option.filter_eq_some_iff]
  · intro hnone
    rw [hfind, Graph.frontEntry?, hstacked.inFront_eq_nil hid hnone]
    rfl
  · intro hhidden value hvalue hstart
    exact hreached.hidden_from_value hvalue (hgrows.graph.has hid) hnames hstart hhidden

/-! ## What stays found -/

/-- Prepends a module that has a method to a new class, and makes an instance of that class. -/
def prependSpeaking : Expr :=
  .sequence [.perform (.defineModule "Loud") [.classAt []] none,
    .perform (.defineMethod "speak" (.text "hey")) [.classAt ["Loud"]] none,
    .perform (.defineClass "Dog") [.classAt [], .constant .nil] none,
    .perform .prependModule [.classAt ["Dog"], .classAt ["Loud"]] none,
    .perform .instantiate [.classAt ["Dog"]] none]

theorem uses_prependSpeaking : prependSpeaking.Uses plain.Has := by
  refine .sequence (List.forall_mem_cons.mpr ⟨?_, List.forall_mem_cons.mpr ⟨?_, List.forall_mem_cons.mpr
    ⟨?_, List.forall_mem_cons.mpr ⟨?_, List.forall_mem_singleton.mpr ?_⟩⟩⟩⟩)
  · exact .perform _ nofun (List.forall_mem_singleton.mpr (.classAt _))
  · exact .perform _ (List.forall_mem_singleton.mpr (.text _)) (List.forall_mem_singleton.mpr (.classAt _))
  · exact .perform _ nofun (List.forall_mem_cons.mpr
      ⟨.classAt _, List.forall_mem_singleton.mpr (.constant trivial)⟩)
  · exact .perform _ nofun (List.forall_mem_cons.mpr
      ⟨.classAt _, List.forall_mem_singleton.mpr (.classAt _)⟩)
  · exact .perform _ nofun (List.forall_mem_singleton.mpr (.classAt _))

/-- The class to which the module was prepended. -/
def speakingClass : ClassId := ⟨32⟩

/-- The state in which the method stands in front of the class. -/
def speaking : State := plain.after (prependSpeaking.evaluate (runBody 1) .nil [])

theorem reachable_speaking : speaking.Reachable :=
  reachable_plain.reaches (.single (.evaluate 1 uses_prependSpeaking))

/-- Undefining a method of a prepended module is done without a fault, and the instances of the class go on
responding to it. -/
theorem undefMethod_leaves_prepended :
    let reached := speaking.after (undefMethod speakingClass "speak")
    speaking.Reachable ∧ speaking.graph.Has speakingClass ∧
      speaking.result (undefMethod speakingClass "speak") = .ok () ∧
      (reached.methodNamed? speakingClass "speak").isSome ∧
      reached.result (dispatchClass (.object ⟨0⟩)) = .ok speakingClass ∧
      reached.result (respondTo (.object ⟨0⟩) "speak" false) = .ok true := by
  refine ⟨reachable_speaking, ?_⟩
  decide +kernel

/-- For integers `nil?` is found further up, and nothing is prepended, so it is hidden from the value 7; the method of
a prepended module is not hidden, since it is found in front of the class. -/
theorem undefMethod_hides_inherited :
    let hidden := plain.after (undefMethod CoreClass.integer.id "nil?")
    let shown := speaking.after (undefMethod speakingClass "speak")
    (∃ symbol, hidden.names.find? "nil?" = some symbol ∧
      (∀ includePrivate, hidden.result (respondTo (.int 7) "nil?" includePrivate) = .ok false) ∧
      hidden.FallsBack send (.int 7) "nil?" symbol) ∧
    ∃ symbol entry, speaking.graph.frontEntry? speakingClass symbol = some entry ∧
      shown.graph.findMethod? speakingClass symbol = some entry := by
  intro hidden shown
  obtain ⟨hhas, hdone, hprepends⟩ : plain.graph.Has CoreClass.integer.id ∧
      plain.result (undefMethod CoreClass.integer.id "nil?") = .ok () ∧
      (plain.graph.record CoreClass.integer.id).prepends = [] := by decide +kernel
  obtain ⟨hclass, hundef, hfound⟩ : speaking.graph.Has speakingClass ∧
      speaking.result (undefMethod speakingClass "speak") = .ok () ∧
      (shown.methodNamed? speakingClass "speak").isSome := by decide +kernel
  constructor
  · obtain ⟨symbol, hname, -, -, hnothing, hvalues⟩ := undefMethod_hides reachable_plain hhas hdone
    obtain ⟨hresponds, -, hsend⟩ := hvalues (hnothing hprepends) (.int 7) trivial rfl
    exact ⟨symbol, hname, hresponds, hsend⟩
  · obtain ⟨symbol, hname, -, hfront, -⟩ := undefMethod_hides reachable_speaking hclass hundef
    obtain ⟨pair, hpair⟩ := Option.isSome_iff_exists.mp hfound
    rw [methodNamed?, hname, Option.bind_eq_bind, Option.bind_some] at hpair
    obtain ⟨entry, hentry, -⟩ := Option.bind_eq_some_iff.mp hpair
    exact ⟨symbol, entry, ((hfront entry).mp hentry).1, hentry⟩

end State

end ObjectModel
