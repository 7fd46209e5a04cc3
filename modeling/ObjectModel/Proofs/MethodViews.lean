import ObjectModel.Proofs.MissingHook
import ObjectModel.Proofs.State.MethodTables

/-! # The views of a method

Whether a value has a method of a name can be asked in five ways: by asking the class whether the method is defined, by
listing the methods of the class, by asking the value whether it responds, by calling it from outside and by calling it
whatever its visibility. All of them come down to the first entry of the name along the ancestors of the class at which
the search begins. For the calls this is said of every way to run bodies, so that it tells which body is run and
that no other one is.
-/

namespace ObjectModel.State

variable {state : State} {value : Value} {name : String} {symbol : Symbol} {cls : ClassId}

/-! ## What becomes of a call -/

/-- A way to call a method of a value by its name. -/
abbrev Call := Runner → Value → String → List Value → Action Value

/-- A call runs the body of an entry on the value and the arguments. -/
def RunsBody (state : State) (call : Call) (value : Value) (name : String) (entry : MethodEntry) :
    Prop :=
  ∀ (run : Runner) (arguments : List Value), (call run value name arguments).run.run state =
    (run entry.body value arguments).run.run (state.after (dispatchClass value))

/-- A call fails since the method is private, and runs nothing. -/
def RefusesPrivate (state : State) (call : Call) (value : Value) (name : String) : Prop :=
  ∀ (run : Runner) (arguments : List Value), (call run value name arguments).run.run state =
    (.error (.fault (.privateMethod name (state.describeReceiver value))),
      state.after (dispatchClass value))

/-- A call goes on to the hook for missing methods. -/
def FallsBack (state : State) (call : Call) (value : Value) (name : String) (symbol : Symbol) :
    Prop :=
  ∀ (run : Runner) (arguments : List Value), (call run value name arguments).run.run state =
    (callMissing run value symbol arguments).run.run (state.after (dispatchClass value))

/-- A way to run bodies by which a call without arguments can be told from one with some. -/
def probe : Runner := fun _ _ arguments =>
  match arguments with
  | [] => pure .nil
  | _ => throw .exhausted

section

variable {call : Call} {entry : MethodEntry}

theorem RunsBody.result_probe (hruns : state.RunsBody call value name entry) :
    state.result (call probe value name []) = .ok .nil :=
  congrArg Prod.fst (hruns probe [])

theorem RefusesPrivate.result_probe (hrefuses : state.RefusesPrivate call value name) :
    state.result (call probe value name []) =
      .error (.fault (.privateMethod name (state.describeReceiver value))) :=
  congrArg Prod.fst (hrefuses probe [])

/-- The hook gets at least one argument, so it is not taken for the method. -/
theorem FallsBack.result_probe (hfalls : state.FallsBack call value name symbol) :
    state.result (call probe value name []) = .error .exhausted ∨
      ∃ missing described, state.result (call probe value name []) =
        .error (.fault (.noMethod missing described)) := by
  rw [result, hfalls probe [], callMissing, run_bind_of_ok (run_intern _ missingName),
    run_dispatchClass_bind, run_get_bind]
  split
  · exact .inl rfl
  · exact .inr ⟨_, _, rfl⟩

theorem RunsBody.not_refusesPrivate (hruns : state.RunsBody call value name entry) :
    ¬ state.RefusesPrivate call value name := by
  intro hrefuses
  have hsame := hruns.result_probe.symm.trans hrefuses.result_probe
  cases hsame

theorem FallsBack.not_runsBody (hfalls : state.FallsBack call value name symbol) :
    ¬ state.RunsBody call value name entry := by
  intro hruns
  rcases hfalls.result_probe with hexhausted | ⟨_, _, hmissing⟩
  · cases hruns.result_probe.symm.trans hexhausted
  · cases hruns.result_probe.symm.trans hmissing

theorem FallsBack.not_refusesPrivate (hfalls : state.FallsBack call value name symbol) :
    ¬ state.RefusesPrivate call value name := by
  intro hrefuses
  rcases hfalls.result_probe with hexhausted | ⟨_, _, hmissing⟩
  · cases hrefuses.result_probe.symm.trans hexhausted
  · cases hrefuses.result_probe.symm.trans hmissing

end

/-! ## What is asked of classes -/

theorem methodDefined_of_find (id : ClassId) (hname : state.names.find? name = some symbol) :
    state.methodDefined id name = state.graph.methodDefined id symbol := by
  rw [methodDefined, methodNamed?, hname, Graph.methodDefined]
  cases hfind : state.graph.findMethod? id symbol with
  | none => simp [hfind]
  | some entry => simp [hfind]

theorem start_of_result (hcls : state.result (dispatchClass value) = .ok cls) :
    (state.start value).1 = cls := by
  rw [result, run_dispatchClass] at hcls
  exact Except.ok.inj hcls

/-- In every state that can be reached the method tables have one entry for a name at most. -/
theorem Reachable.distinctNames (hreachable : state.Reachable) : state.graph.DistinctNames :=
  hreachable.induct distinctNames_bare (fun hsound hfits hnames => hsound.distinctNames_apply hnames hfits)
    fun _ _ _ _ hnames => hnames

/-- They also have when the search for the methods of a value has begun. -/
theorem Reachable.distinctNames_start (hreachable : state.Reachable) (hvalue : state.Has value) :
    (state.start value).2.graph.DistinctNames := by
  cases value with
  | cls id =>
      have hmade := hreachable.sound.graph.stacked.synthesizes hvalue
      exact hmade.path.extends_graph.keepsMethods.distinctNames hreachable.distinctNames
  | _ => exact hreachable.distinctNames

/-! ## What is asked of values -/

section

variable {graph : Graph} {entry : MethodEntry} (hreachable : state.Reachable)
  (hvalue : state.Has value) (hname : state.names.find? name = some symbol)
  (hgraph : (state.start value).2.graph = graph) (hstart : (state.start value).1 = cls)

include hname

/-- A call by a name that is interned is one by its symbol. -/
theorem run_dispatchName_of_find (run : Runner) (checked : Bool) (arguments : List Value) :
    (dispatchName run checked value name arguments).run.run state =
      (dispatch run checked value symbol arguments).run.run state := by
  rw [dispatchName, run_ask_bind, hname]

include hgraph hstart

/-- Whether a value responds to a name is told by the method that is found. -/
theorem result_respondTo_of_find (includePrivate : Bool) :
    state.result (respondTo value name includePrivate) = .ok ((graph.findMethod? cls symbol).any
      fun entry => includePrivate || !entry.isPrivate) := by
  rw [respondTo, result, findMethod, run_bind, run_ask_bind, hname]
  dsimp only
  rw [run_dispatchClass_bind, ← hgraph, ← hstart]
  rfl

/-- A call of a method that is not found goes on to the hook for missing methods. -/
theorem fallsBack_of_none (hfind : graph.findMethod? cls symbol = none) (checked : Bool) :
    state.FallsBack (dispatchName · checked) value name symbol := by
  intro run arguments
  rw [run_dispatchName_of_find hname, dispatch, run_dispatchClass_bind, run_get_bind, hgraph, hstart,
    hfind, after_dispatchClass]

/-- A call of a method that may be called runs its body. -/
theorem runsBody_of_some (hfind : graph.findMethod? cls symbol = some entry) {checked : Bool}
    (hallowed : (checked && entry.isPrivate) = false) :
    state.RunsBody (dispatchName · checked) value name entry := by
  intro run arguments
  rw [run_dispatchName_of_find hname, dispatch, run_dispatchClass_bind, run_get_bind, hgraph, hstart,
    hfind, after_dispatchClass]
  dsimp only
  rw [hallowed]
  rfl

/-- A call whatever the visibility runs the body of the first entry if that is a method, and falls back
else. -/
theorem send_iff :
    ((∃ entry, graph.firstEntry? cls symbol = some entry ∧
        state.RunsBody send value name entry) ↔ graph.Provides cls symbol) ∧
      (state.FallsBack send value name symbol ↔ ¬ graph.Provides cls symbol) := by
  rw [Graph.provides_iff]
  cases hfind : graph.findMethod? cls symbol with
  | none =>
      have hfalls : state.FallsBack send value name symbol :=
        fallsBack_of_none hname hgraph hstart hfind false
      refine ⟨iff_of_false ?_ (by simp), iff_of_true hfalls (by simp)⟩
      rintro ⟨entry, _, hruns⟩
      exact hfalls.not_runsBody hruns
  | some entry =>
      have hruns : state.RunsBody send value name entry :=
        runsBody_of_some hname hgraph hstart hfind rfl
      have hfirst := (Graph.findMethod_eq_some.mp hfind).1
      exact ⟨iff_of_true ⟨entry, hfirst, hruns⟩ ⟨entry, rfl⟩,
        iff_of_false (fun hfalls => hfalls.not_runsBody hruns) (by simp)⟩

include hreachable hvalue

/-- A call of a private method from outside is refused. -/
theorem refusesPrivate_of_some (hfind : graph.findMethod? cls symbol = some entry)
    (hprivate : entry.isPrivate) : state.RefusesPrivate invoke value name := by
  intro run arguments
  have htext : (state.start value).2.symbolText symbol = name := by
    rw [symbolText, names_start, Interner.text_of_find hname]
    rfl
  rw [invoke, run_dispatchName_of_find hname, dispatch, run_dispatchClass_bind, run_get_bind, hgraph,
    hstart, hfind, after_dispatchClass]
  dsimp only
  rw [hprivate, htext, hreachable.sound.searchable.describeReceiver_start hvalue]
  rfl

/-- A call from outside goes one of three ways, by what the first entry is. -/
theorem invoke_iff :
    ((∃ entry, graph.firstEntry? cls symbol = some entry ∧
        state.RunsBody invoke value name entry) ↔ graph.Exposes cls symbol) ∧
      (state.RefusesPrivate invoke value name ↔
        graph.Provides cls symbol ∧ ¬ graph.Exposes cls symbol) ∧
      (state.FallsBack invoke value name symbol ↔ ¬ graph.Provides cls symbol) := by
  rw [Graph.provides_iff, Graph.exposes_iff]
  cases hfind : graph.findMethod? cls symbol with
  | none =>
      have hfalls : state.FallsBack invoke value name symbol :=
        fallsBack_of_none hname hgraph hstart hfind true
      refine ⟨iff_of_false ?_ (by simp), iff_of_false hfalls.not_refusesPrivate (by simp),
        iff_of_true hfalls (by simp)⟩
      rintro ⟨entry, _, hruns⟩
      exact hfalls.not_runsBody hruns
  | some entry =>
      cases hprivate : entry.isPrivate with
      | true =>
          have hrefuses := refusesPrivate_of_some hreachable hvalue hname hgraph hstart hfind hprivate
          refine ⟨iff_of_false ?_ (by simp [hprivate]), iff_of_true hrefuses (by simp [hprivate]),
            iff_of_false (fun hfalls => hfalls.not_refusesPrivate hrefuses) (by simp)⟩
          rintro ⟨other, _, hruns⟩
          exact hruns.not_refusesPrivate hrefuses
      | false =>
          have hruns : state.RunsBody invoke value name entry :=
            runsBody_of_some hname hgraph hstart hfind hprivate
          have hfirst := (Graph.findMethod_eq_some.mp hfind).1
          exact ⟨iff_of_true ⟨entry, hfirst, hruns⟩ (by simp [hprivate]),
            iff_of_false hruns.not_refusesPrivate (by simp [hprivate]),
            iff_of_false (fun hfalls => hfalls.not_runsBody hruns) (by simp)⟩

end

/-! ## Agreement -/

/-- In every state that can be reached the views of a method agree. Take the class at which the search for the
methods of a value begins, and a name that is interned. The class has the method defined, lists it, and the
value responds to it, each just if the first entry of the name along the ancestors of the class is there, is no
tombstone and is not private; with private methods counted the value responds just if it is there and is no
tombstone. A call from outside runs the body of that entry just if the value responds, is refused without
anything being run just if the value responds only with private methods counted, and falls back to the hook for
missing methods else; a call whatever the visibility runs the body just if the value responds with private methods
counted. No name is listed twice, and the list does not depend on the order in which the tables hold their
entries. -/
theorem methodViews_agree (hreachable : state.Reachable) (hvalue : state.Has value)
    (hname : state.names.find? name = some symbol)
    (hcls : state.result (dispatchClass value) = .ok cls) :
    let reached := state.after (dispatchClass value)
    let graph := reached.graph
    (reached.methodDefined cls name ↔ graph.Exposes cls symbol) ∧
    (symbol ∈ graph.instanceMethods cls true ↔ graph.Exposes cls symbol) ∧
    (∃ responds : Bool → Bool,
      (∀ includePrivate, state.result (respondTo value name includePrivate) =
        .ok (responds includePrivate)) ∧
      (responds false ↔ graph.Exposes cls symbol) ∧
      (responds true ↔ graph.Provides cls symbol) ∧
      ((∃ entry, graph.firstEntry? cls symbol = some entry ∧
        state.RunsBody invoke value name entry) ↔ responds false) ∧
      (state.RefusesPrivate invoke value name ↔ responds true ∧ ¬ responds false) ∧
      (state.FallsBack invoke value name symbol ↔ ¬ responds true) ∧
      ((∃ entry, graph.firstEntry? cls symbol = some entry ∧
        state.RunsBody send value name entry) ↔ responds true) ∧
      (state.FallsBack send value name symbol ↔ ¬ responds true)) ∧
    (∀ inherited, (graph.instanceMethods cls inherited).Nodup) ∧
    ∀ other, graph.Shuffles other → ∀ inherited,
      other.instanceMethods cls inherited = graph.instanceMethods cls inherited := by
  intro reached graph
  have hreached : reached = (state.start value).2 := state.after_dispatchClass value
  have hnames : reached.names.find? name = some symbol := by rw [hreached, names_start, hname]
  have hgraph : (state.start value).2.graph = graph := congrArg State.graph hreached.symm
  have hstart := start_of_result hcls
  have hdistinct : graph.DistinctNames := hgraph ▸ hreachable.distinctNames_start hvalue
  let responds (includePrivate : Bool) : Bool := (graph.findMethod? cls symbol).any
    fun entry => includePrivate || !entry.isPrivate
  have hexposes : responds false ↔ graph.Exposes cls symbol := Graph.methodDefined_iff
  have hprovides : responds true ↔ graph.Provides cls symbol := by
    rw [Graph.provides_iff, Option.any_eq_true]
    simp only [Bool.true_or, and_true]
  obtain ⟨hinvokeRuns, hrefuses, hinvokeFalls⟩ := invoke_iff hreachable hvalue hname hgraph hstart
  obtain ⟨hsendRuns, hsendFalls⟩ := send_iff hname hgraph hstart
  refine ⟨?_, hdistinct.mem_instanceMethods, ?_, graph.nodup_instanceMethods cls,
    fun other hshuffles => hdistinct.instanceMethods_of_shuffles hshuffles cls⟩
  · rw [methodDefined_of_find cls hnames]
    exact hexposes
  · refine ⟨responds, result_respondTo_of_find hname hgraph hstart, hexposes, hprovides,
      ?_, ?_, ?_, ?_, ?_⟩
    · exact hinvokeRuns.trans hexposes.symm
    · exact hrefuses.trans (and_congr hprovides.symm (not_congr hexposes.symm))
    · exact hinvokeFalls.trans (not_congr hprovides.symm)
    · exact hsendRuns.trans hprovides.symm
    · exact hsendFalls.trans (not_congr hprovides.symm)

/-- After `nil?` was made private for integers, the public method of that name further up is hidden: a call
from outside is refused and the name is not listed, but a call whatever the visibility runs the body. -/
theorem private_method_hides :
    let hide := (Expr.perform (.setVisibility "nil?" .priv) [.classAt ["Integer"]] none).evaluate
      (runBody 1) .nil []
    let state := plain.after hide
    ∃ symbol, state.names.find? "nil?" = some symbol ∧
      state.RefusesPrivate invoke (.int 7) "nil?" ∧
      symbol ∉ state.graph.instanceMethods CoreClass.integer.id true ∧
      ∃ entry, state.graph.firstEntry? CoreClass.integer.id symbol = some entry ∧
        state.RunsBody send (.int 7) "nil?" entry := by
  intro hide state
  have huses : (Expr.perform (.setVisibility "nil?" .priv) [.classAt ["Integer"]] none).Uses
      plain.Has := .perform none (fun _ hbody => absurd hbody List.not_mem_nil)
        (List.forall_mem_singleton.mpr (.classAt ["Integer"]))
  have hreachable : state.Reachable := reachable_plain.reaches (.single (.evaluate 1 huses))
  -- the views are evaluated, and what they come to holds of any state in which they are like that
  have hviews : (state.names.find? "nil?").isSome ∧
      state.result (respondTo (.int 7) "nil?" false) = .ok false ∧
      state.result (respondTo (.int 7) "nil?" true) = .ok true := by decide +kernel
  generalize state = reached at hreachable hviews ⊢
  obtain ⟨hfound, hhidden, hknown⟩ := hviews
  obtain ⟨symbol, hname⟩ := Option.isSome_iff_exists.mp hfound
  have hvalue : reached.Has (.int 7) := trivial
  obtain ⟨_, hlisted, ⟨responds, hresponds, hshown, _, _, hrefuses, _, hsend, _⟩, _⟩ :=
    methodViews_agree hreachable hvalue hname rfl
  have hfalse : ¬ responds false := by
    rw [Except.ok.inj ((hresponds false).symm.trans hhidden)]
    exact Bool.false_ne_true
  have htrue : responds true = true := Except.ok.inj ((hresponds true).symm.trans hknown)
  exact ⟨symbol, hname, hrefuses.mpr ⟨htrue, hfalse⟩,
    fun hmem => hfalse (hshown.mpr (hlisted.mp hmem)), hsend.mpr htrue⟩

end ObjectModel.State
