import ObjectModel.Proofs.HiddenMethods
import ObjectModel.Proofs.SingletonMethods

/-! # Changing the visibility of a method

A method that gets another visibility is copied for that into the table of the class itself. So the copy takes the
place of what the class finds, unless that stands in front of the class, in a module that was prepended to it. Seen
from any other class only the entry that the class itself finds can be replaced, and only by its copy; whatever was
found before is found with the same body.
-/

namespace ObjectModel

namespace Graph

variable {graph : Graph} {id cls : ClassId} {name other : Symbol} {entry copy : MethodEntry}

theorem SameFrame.refl (graph : Graph) : graph.SameFrame graph := ⟨rfl, fun id => .refl (graph.record id)⟩

/-- Entries of other names are found as before. -/
theorem firstEntry_putMethod_of_ne (hother : other ≠ name) (cls : ClassId) :
    Graph.firstEntry? (graph.update id (.putMethod name copy)) cls other =
      graph.firstEntry? cls other := by
  rw [ firstEntry?, (graph.sameFrame_putMethod id name copy).ancestors, firstEntry?]
  apply findSome?_congr
  intro ancestor _
  rcases graph.record_update id ancestor (.putMethod name copy) with heq | ⟨rfl, _, heq⟩
  · rw [heq]
  · rw [heq]
    exact Table.find?_insert_of_ne hother _ _

namespace Stacked

theorem firstEntry_of_front (hstacked : graph.Stacked) (hid : graph.Has id)
    (hfront : graph.frontEntry? id name = some entry) : graph.firstEntry? id name = some entry := by
  obtain ⟨behind, hancestors⟩ := hstacked.exists_behind hid
  rw [ frontEntry?] at hfront
  rw [ firstEntry?, hancestors, List.findSome?_append, hfront, Option.some_or]

/-- A copy of the entry that a class finds, put into the table of the class, takes the place of that entry, or nothing
changes: wherever the class is searched, the search comes to what the class finds as a whole. -/
theorem firstEntry_copy (hstacked : graph.Stacked) (hid : graph.Has id) (hcls : graph.Has cls)
    (hentry : graph.firstEntry? id name = some entry) :
    Graph.firstEntry? (graph.update id (.putMethod name copy)) cls name = graph.firstEntry? cls name ∨
      id ∈ graph.ancestors cls ∧ graph.firstEntry? cls name = some entry ∧
        Graph.firstEntry? (graph.update id (.putMethod name copy)) cls name = some copy := by
  have hsame := graph.sameFrame_putMethod id name copy
  have hunseen {items : List ClassId} (hitems : id ∉ items) :
      entryIn? (graph.update id (.putMethod name copy)) items name = graph.entryIn? items name :=
    entryIn_update hitems _ name
  by_cases hmem : id ∈ graph.ancestors cls
  · obtain ⟨before, after, hbefore, hpath⟩ := hstacked.exists_before hcls hmem
    have hold : graph.firstEntry? cls name =
        (graph.entryIn? before name).or ((graph.firstEntry? id name).or (graph.entryIn? after name)) := by
      rw [firstEntry_eq_entryIn, hpath, entryIn_append, entryIn_append, firstEntry_eq_entryIn]
    have hnew : Graph.firstEntry? (graph.update id (.putMethod name copy)) cls name =
        (graph.entryIn? before name).or (((graph.frontEntry? id name).or (some copy)).or
          (entryIn? (graph.update id (.putMethod name copy)) after name)) := by
      rw [firstEntry_eq_entryIn, hsame.searchPath, hpath, entryIn_append, entryIn_append,
        hunseen hbefore, ← hsame.searchPath, ← firstEntry_eq_entryIn, hstacked.firstEntry_putMethod hid]
    rw [hold, hnew, hentry]
    cases graph.entryIn? before name with
    | some found => exact .inl rfl
    | none =>
        cases hfront : graph.frontEntry? id name with
        | some found =>
            rw [hstacked.firstEntry_of_front hid hfront] at hentry
            obtain rfl := Option.some.inj hentry
            exact .inl rfl
        | none => exact .inr ⟨hmem, rfl, rfl⟩
  · left
    rw [firstEntry_eq_entryIn, hsame.searchPath, hunseen (mt mem_searchPath.mp hmem),
      firstEntry_eq_entryIn]

end Stacked

end Graph

namespace State

variable {state : State} {id : ClassId} {name : String} {visibility : Visibility}

/-- An entry with another visibility, as it is put into the table of a class. -/
def recast (id : ClassId) (entry : MethodEntry) (visibility : Visibility) : MethodEntry :=
  { owner := id, body := entry.body, visibility }

/-- What changing a visibility does: nothing if it is refused or the method has the visibility already, or else the
method that was found is copied into the table of the class. -/
theorem setVisibility_cases (state : State) (id : ClassId) (name : String) (visibility : Visibility) :
    (state.after (setVisibility id name visibility) = state ∧
      (state.result (setVisibility id name visibility) = .ok () → ∃ symbol entry,
        state.names.find? name = some symbol ∧ state.graph.findMethod? id symbol = some entry ∧
        entry.visibility = visibility)) ∨
    ∃ symbol entry, state.names.find? name = some symbol ∧
      state.graph.findMethod? id symbol = some entry ∧ entry.visibility ≠ visibility ∧
      state.after (setVisibility id name visibility) =
        state.withGraph (state.graph.update id (.putMethod symbol (recast id entry visibility))) := by
  rw [setVisibility, after, result, run_ask_bind]
  cases hnamed : state.methodNamed? id name with
  | none => exact .inl ⟨rfl, fun hresult => by cases hresult⟩
  | some pair =>
      obtain ⟨symbol, entry⟩ := pair
      obtain ⟨hname, hfind⟩ := methodNamed_eq_some.mp hnamed
      dsimp only
      split
      next hchanged =>
        rw [run_bind, run_addMethod]
        cases state.result (checkMutable id) with
        | error halt => exact .inl ⟨rfl, fun hresult => by cases hresult⟩
        | ok checked =>
            refine .inr ⟨symbol, entry, hname, hfind, hchanged, ?_⟩
            rw [withMethod, Interner.intern_of_find hname]
            rfl
      next hkept => exact .inl ⟨rfl, fun _ => ⟨symbol, entry, hname, hfind, not_not.mp hkept⟩⟩

/-- With the copy in the table of a class the class finds the copy, or what it found already if that stands in front
of it. -/
theorem Sound.findMethod_copied (hsound : state.Sound) (hid : state.graph.Has id) {symbol : Symbol}
    {entry : MethodEntry} (hfind : state.graph.findMethod? id symbol = some entry) :
    Graph.findMethod? (state.graph.update id (.putMethod symbol (recast id entry visibility))) id symbol =
      some (if state.graph.frontEntry? id symbol = none then recast id entry visibility else entry) := by
  have hstacked := hsound.graph.stacked
  obtain ⟨hfirst, hdefined⟩ := Graph.findMethod_eq_some.mp hfind
  rw [Graph.findMethod?, hstacked.firstEntry_putMethod hid]
  cases hfront : state.graph.frontEntry? id symbol with
  | none => simp [recast, MethodEntry.isDefined, show entry.body.isDefined from hdefined]
  | some found =>
      rw [hstacked.firstEntry_of_front hid hfront] at hfirst
      obtain rfl := Option.some.inj hfirst
      simp [hdefined]

/-- A method that is found as a private one is not listed, and calls of it from outside are refused on the values whose
search begins at the class. -/
theorem Reachable.refuses_found (hreachable : state.Reachable) (hid : state.graph.Has id)
    {symbol : Symbol} {entry : MethodEntry} (hname : state.names.find? name = some symbol)
    (hfind : state.graph.findMethod? id symbol = some entry) (hprivate : entry.isPrivate) :
    symbol ∉ state.graph.instanceMethods id true ∧ ∀ value, state.Has value →
      state.result (dispatchClass value) = .ok id → state.RefusesPrivate invoke value name := by
  constructor
  · rw [hreachable.distinctNames.mem_instanceMethods, Graph.exposes_iff, hfind]
    rintro ⟨other, hother, hshown⟩
    obtain rfl := Option.some.inj hother
    exact hshown hprivate
  · intro value hvalue hstart
    exact refusesPrivate_of_some hreachable hvalue hname rfl (start_of_result hstart)
      ((hreachable.sound.findMethod_start_of_result hvalue hid hstart).trans hfind) hprivate

/-- In every state that can be reached, changing the visibility of a method, if it is not refused, leaves the method
found with the same body. It is found with the new visibility just if nothing is found under its name in front of the
class or what was found has that visibility already; so it is where nothing is prepended to the class. Once the
method that is found is private, it is not listed, and calls of it from outside are refused on the values whose
search begins at the class. -/
theorem setVisibility_takes (hreachable : state.Reachable) (hid : state.graph.Has id)
    (hresult : state.result (setVisibility id name visibility) = .ok ()) :
    let reached := state.after (setVisibility id name visibility)
    ∃ symbol entry found, state.names.find? name = some symbol ∧
      state.graph.findMethod? id symbol = some entry ∧
      reached.graph.findMethod? id symbol = some found ∧ found.body = entry.body ∧
      (found.visibility = visibility ↔
        state.graph.frontEntry? id symbol = none ∨ entry.visibility = visibility) ∧
      ((state.graph.record id).prepends = [] → found.visibility = visibility) ∧
      (found.isPrivate → symbol ∉ reached.graph.instanceMethods id true ∧ ∀ value, reached.Has value →
        reached.result (dispatchClass value) = .ok id → reached.RefusesPrivate invoke value name) := by
  intro reached
  have hsound := hreachable.sound
  have hruns := (leads_setVisibility name visibility hid hsound).1
  have hreached : reached.Reachable := hreachable.runs hruns
  have hthere : reached.graph.Has id := (hsound.runs hruns).2.graph.has hid
  -- without prepended modules there is nothing to be searched before the class
  have hfront : (state.graph.record id).prepends = [] →
      ∀ symbol, state.graph.frontEntry? id symbol = none := by
    intro hnone symbol
    rw [Graph.frontEntry?, hsound.graph.stacked.inFront_eq_nil hid hnone]
    rfl
  rcases state.setVisibility_cases id name visibility with
    ⟨hsame, hkept⟩ | ⟨symbol, entry, hname, hfind, hchanged, hafter⟩
  · obtain ⟨symbol, entry, hname, hfind, hequal⟩ := hkept hresult
    have hstill : reached = state := hsame
    rw [hstill] at hreached ⊢
    exact ⟨symbol, entry, entry, hname, hfind, hfind, rfl, by simp [hequal], fun _ => hequal,
      hreached.refuses_found hid hname hfind⟩
  · have hgraph : reached.graph =
        state.graph.update id (.putMethod symbol (recast id entry visibility)) :=
      congrArg State.graph hafter
    have hnames : reached.names.find? name = some symbol := by
      rw [show reached = _ from hafter]
      exact hname
    have hfound : reached.graph.findMethod? id symbol = some _ :=
      hgraph ▸ hsound.findMethod_copied hid hfind
    refine ⟨symbol, entry, _, hname, hfind, hfound, ?_, ?_, ?_, ?_⟩
    · split <;> rfl
    · split
      next hnone => simp [recast, hnone]
      next hsome => simp [hsome]
    · intro hnone
      rw [if_pos (hfront hnone symbol)]
      rfl
    · exact hreached.refuses_found hthere hnames hfound

/-- A method of a prepended module that is made private is still found as a public one, without a fault, and the
instances of the class go on responding to it. -/
theorem setVisibility_leaves_prepended :
    let reached := speaking.after (setVisibility speakingClass "speak" .priv)
    speaking.Reachable ∧ speaking.graph.Has speakingClass ∧
      speaking.result (setVisibility speakingClass "speak" .priv) = .ok () ∧
      (reached.methodNamed? speakingClass "speak").map (fun found => found.2.visibility) = some .pub ∧
      reached.methodDefined speakingClass "speak" ∧
      reached.result (dispatchClass (.object ⟨0⟩)) = .ok speakingClass ∧
      reached.result (respondTo (.object ⟨0⟩) "speak" false) = .ok true := by
  refine ⟨reachable_speaking, ?_⟩
  decide +kernel

/-- For integers `nil?` is found further up; once it is private for them, the value 7 refuses it. The method of a
prepended module that should be private keeps its visibility. -/
theorem setVisibility_takes_inherited :
    let hidden := plain.after (setVisibility CoreClass.integer.id "nil?" .priv)
    let shown := speaking.after (setVisibility speakingClass "speak" .priv)
    (∃ symbol found, hidden.graph.findMethod? CoreClass.integer.id symbol = some found ∧
      found.visibility = .priv ∧ symbol ∉ hidden.graph.instanceMethods CoreClass.integer.id true ∧
      hidden.RefusesPrivate invoke (.int 7) "nil?") ∧
    ∃ symbol found, shown.graph.findMethod? speakingClass symbol = some found ∧
      found.visibility ≠ .priv := by
  intro hidden shown
  have hhas := reachable_plain.sound.graph.stacked.has_core .integer
  obtain ⟨hdone, hprepends, hclass, hset, hfront⟩ :
      plain.result (setVisibility CoreClass.integer.id "nil?" .priv) = .ok () ∧
      (plain.graph.record CoreClass.integer.id).prepends = [] ∧ speaking.graph.Has speakingClass ∧
      speaking.result (setVisibility speakingClass "speak" .priv) = .ok () ∧
      (speaking.methodNamed? speakingClass "speak").all fun named =>
        (speaking.graph.frontEntry? speakingClass named.1).isSome && named.2.visibility = .pub := by
    decide +kernel
  constructor
  · obtain ⟨symbol, _, found, -, -, hfound, -, -, htaken, hrefuses⟩ :=
      setVisibility_takes reachable_plain hhas hdone
    have hvisibility := htaken hprepends
    obtain ⟨hlisted, hinvoke⟩ := hrefuses (decide_eq_true hvisibility)
    exact ⟨symbol, found, hfound, hvisibility, hlisted, hinvoke (.int 7) trivial rfl⟩
  · obtain ⟨symbol, entry, found, hname, hfind, hfound, -, htaken, -⟩ :=
      setVisibility_takes reachable_speaking hclass hset
    rw [methodNamed_eq_some.mpr ⟨hname, hfind⟩, Option.all_some, Bool.and_eq_true] at hfront
    obtain ⟨hsome, hpublic⟩ := hfront
    refine ⟨symbol, found, hfound, fun hvisibility => ?_⟩
    rcases htaken.mp hvisibility with hnone | hprivate
    · rw [hnone] at hsome
      cases hsome
    · rw [of_decide_eq_true hpublic] at hprivate
      cases hprivate

/-! ## What stays as it was -/

theorem sameFrame_setVisibility (state : State) (id : ClassId) (name : String)
    (visibility : Visibility) :
    (state.after (setVisibility id name visibility)).names = state.names ∧
      state.graph.SameFrame (state.after (setVisibility id name visibility)).graph := by
  rcases state.setVisibility_cases id name visibility with
    ⟨hsame, -⟩ | ⟨symbol, entry, -, -, -, hafter⟩
  · rw [hsame]
    exact ⟨rfl, .refl state.graph⟩
  · rw [hafter]
    exact ⟨rfl, state.graph.sameFrame_putMethod id symbol _⟩

/-- What any class finds under any name before and after: the same entry, or the entry that is made private or public
and its copy. -/
theorem Sound.findMethod_setVisibility (hsound : state.Sound) (hid : state.graph.Has id)
    {cls : ClassId} (hcls : state.graph.Has cls) (name : String) (visibility : Visibility)
    (symbol : Symbol) :
    let reached := state.after (setVisibility id name visibility)
    reached.graph.findMethod? cls symbol = state.graph.findMethod? cls symbol ∨
      state.names.find? name = some symbol ∧ id ∈ state.graph.ancestors cls ∧
        ∃ entry, state.graph.findMethod? cls symbol = some entry ∧
          reached.graph.findMethod? cls symbol = some (recast id entry visibility) := by
  intro reached
  rcases state.setVisibility_cases id name visibility with
    ⟨hsame, -⟩ | ⟨changed, entry, hname, hfind, -, hafter⟩
  · have hstill : reached = state := hsame
    exact .inl (by rw [hstill])
  · have hgraph : reached.graph =
        state.graph.update id (.putMethod changed (recast id entry visibility)) :=
      congrArg State.graph hafter
    obtain ⟨hfirst, hdefined⟩ := Graph.findMethod_eq_some.mp hfind
    by_cases hsymbol : symbol = changed
    · subst hsymbol
      rcases hsound.graph.stacked.firstEntry_copy hid hcls hfirst with
        hsame | ⟨hmem, hbefore, hcopied⟩
      · left
        rw [Graph.findMethod?, hgraph, hsame, Graph.findMethod?]
      · right
        refine ⟨hname, hmem, entry, Graph.findMethod_eq_some.mpr ⟨hbefore, hdefined⟩, ?_⟩
        rw [hgraph]
        exact Graph.findMethod_eq_some.mpr ⟨hcopied, hdefined⟩
    · left
      rw [Graph.findMethod?, hgraph, Graph.firstEntry_putMethod_of_ne hsymbol, Graph.findMethod?]

/-- Whether a visibility is changed or that is refused, in every state that can be reached: under every name every
class finds a method just if it found one before, and with the same body. What is found can differ in other ways only
under the name that was given and for classes among whose ancestors the changed class is. The names and the ancestors
stay as they are. -/
theorem setVisibility_keeps_bodies (name : String) (visibility : Visibility)
    (hreachable : state.Reachable) (hid : state.graph.Has id) :
    let reached := state.after (setVisibility id name visibility)
    reached.names = state.names ∧ ∀ cls, state.graph.Has cls →
      reached.graph.ancestors cls = state.graph.ancestors cls ∧ ∀ symbol,
        (reached.graph.findMethod? cls symbol).map MethodEntry.body =
          (state.graph.findMethod? cls symbol).map MethodEntry.body ∧
        (reached.graph.findMethod? cls symbol ≠ state.graph.findMethod? cls symbol →
          state.names.find? name = some symbol ∧ id ∈ state.graph.ancestors cls) := by
  intro reached
  have hsound := hreachable.sound
  obtain ⟨hnames, hframe⟩ := state.sameFrame_setVisibility id name visibility
  refine ⟨hnames, fun cls hcls => ⟨hframe.ancestors cls, fun symbol => ?_⟩⟩
  rcases hsound.findMethod_setVisibility hid hcls name visibility symbol with
    hsame | ⟨hname, hmem, entry, hbefore, hcopied⟩
  · exact ⟨congrArg _ hsame, fun hdiffers => absurd hsame hdiffers⟩
  · refine ⟨?_, fun _ => ⟨hname, hmem⟩⟩
    calc (reached.graph.findMethod? cls symbol).map MethodEntry.body
        = (some (recast id entry visibility)).map MethodEntry.body := congrArg _ hcopied
      _ = (state.graph.findMethod? cls symbol).map MethodEntry.body := by rw [hbefore]; rfl

/-- `nil?` is made private for integers: strings find it as before, and integers with the same body. -/
theorem setVisibility_of_integer_kept :
    let reached := plain.after (setVisibility CoreClass.integer.id "nil?" .priv)
    ∀ symbol, reached.graph.findMethod? CoreClass.string.id symbol =
        plain.graph.findMethod? CoreClass.string.id symbol ∧
      (reached.graph.findMethod? CoreClass.integer.id symbol).map MethodEntry.body =
        (plain.graph.findMethod? CoreClass.integer.id symbol).map MethodEntry.body := by
  intro reached symbol
  have hsound := reachable_plain.sound.graph
  have hcore := hsound.stacked.has_core
  have hunseen : CoreClass.integer.id ∉ plain.graph.ancestors CoreClass.string.id := by
    rw [hsound.stacked.mem_ancestors_of_not_module (hcore .string) (hsound.mirrored.isModule_core rfl),
      hsound.mem_chain_of_child rfl]
    decide
  obtain ⟨-, hkept⟩ :=
    setVisibility_keeps_bodies "nil?" .priv reachable_plain (hcore .integer)
  obtain ⟨-, hstring⟩ := hkept _ (hcore .string)
  obtain ⟨-, hinteger⟩ := hkept _ (hcore .integer)
  exact ⟨by_contra fun hdiffers => hunseen ((hstring symbol).2 hdiffers).2, (hinteger symbol).1⟩

end State

end ObjectModel
