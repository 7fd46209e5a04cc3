import ObjectModel.DefaultEncoding
import ObjectModel.Proofs.MissingHook
import ObjectModel.Proofs.Renumber.Actions

/-! # Calls and installation numbers

A call finds the same method with other installation numbers in the state, and runs its body. Only the call of
an unknown name looks at a number: at that of the hook for missing methods, to see whether the hook makes
something of the name.
-/

namespace ObjectModel

variable {number : Nat → Nat}

/-! ## Looking for methods -/

theorem Body.isStockMissing_iff {body : Body} : body.isStockMissing ↔
    ∃ owner onMetaclass, body = .builtin { owner, onMetaclass, routine := .basic .missing } 0 := by
  constructor
  · intro hstock
    unfold isStockMissing at hstock
    split at hstock
    next owner onMetaclass => exact ⟨owner, onMetaclass, rfl⟩
    · cases hstock
  · rintro ⟨owner, onMetaclass, rfl⟩
    rfl

theorem Body.isStockMissing_renumber (hfirst : number 0 = 0) {body : Body} (hstock : body.isStockMissing) :
    (body.renumber number).isStockMissing := by
  obtain ⟨owner, onMetaclass, rfl⟩ := isStockMissing_iff.mp hstock
  rw [renumber, hfirst]
  rfl

/-- A body that becomes the hook of the first installation by its other number had another number. -/
theorem Body.hidesFirst_of_stock {body : Body} (hstock : (body.renumber number).isStockMissing)
    (hother : ¬ body.isStockMissing) : HidesFirst number := by
  obtain ⟨owner, onMetaclass, hbody⟩ := isStockMissing_iff.mp hstock
  cases body with
  | builtin method installation =>
      obtain ⟨rfl, hnumber⟩ := Body.builtin.inj hbody
      refine ⟨installation, ?_, hnumber⟩
      rintro rfl
      exact hother rfl
  | _ => cases hbody

/-- Whether a hook for missing methods makes something of a name does not depend on the numbers, unless they
hide the first installation; and then only in one direction. -/
theorem MethodEntry.makes_renumber (hfirst : number 0 = 0) (hook : Option MethodEntry) :
    ((hook.map (renumber number)).any fun entry => !entry.body.isStockMissing) =
        (hook.any fun entry => !entry.body.isStockMissing) ∨
      HidesFirst number ∧
        ((hook.map (renumber number)).any fun entry => !entry.body.isStockMissing) = false := by
  cases hook with
  | none => exact .inl rfl
  | some entry =>
      rw [Option.map_some, Option.any_some, Option.any_some, renumber_body]
      by_cases hstock : entry.body.isStockMissing
      · rw [hstock, Body.isStockMissing_renumber hfirst hstock]
        exact .inl rfl
      · cases hother : (entry.body.renumber number).isStockMissing with
        | false => exact .inl (by simp [hstock])
        | true => exact .inr ⟨Body.hidesFirst_of_stock hother hstock, rfl⟩

namespace State

variable {α β : Type}

/-- The method of a value that a name stands for, with the state after the search for it. -/
def search (state : State) (receiver : Value) (name : String) : Option MethodEntry × State :=
  match state.names.find? name with
  | none => (none, state)
  | some symbol =>
      ((state.start receiver).2.graph.findMethod? (state.start receiver).1 symbol, (state.start receiver).2)

variable (state : State) (receiver : Value) (name : String)

theorem run_findMethod :
    (findMethod receiver name).run.run state =
      (.ok (state.search receiver name).1, (state.search receiver name).2) := by
  rw [findMethod, run_ask_bind, search]
  cases state.names.find? name with
  | none => rfl
  | some symbol => exact run_dispatchClass_bind state receiver _

theorem result_findMethod : state.result (findMethod receiver name) = .ok (state.search receiver name).1 :=
  congrArg Prod.fst (state.run_findMethod receiver name)

theorem after_findMethod : state.after (findMethod receiver name) = (state.search receiver name).2 :=
  congrArg Prod.snd (state.run_findMethod receiver name)

theorem search_keeps : (state.search receiver name).2.names = state.names ∧
    (state.search receiver name).2.installations = state.installations := by
  rw [search]
  cases state.names.find? name with
  | none => exact ⟨rfl, rfl⟩
  | some symbol => cases receiver <;> exact ⟨rfl, rfl⟩

theorem start_renumber (number : Nat → Nat) : (state.renumber number).start receiver =
    ((state.start receiver).1, (state.start receiver).2.renumber number) := by
  cases receiver with
  | cls id =>
      rw [start, start, renumber_graph, Graph.metaclassOf_renumber]
      rfl
  | bool flag => cases flag <;> rfl
  | _ => rfl

theorem search_renumber (number : Nat → Nat) : (state.renumber number).search receiver name =
    ((state.search receiver name).1.map (.renumber number), (state.search receiver name).2.renumber number) := by
  rw [search, renumber_names, search]
  cases state.names.find? name with
  | none => rfl
  | some symbol =>
      dsimp only
      rw [start_renumber, renumber_graph, Graph.findMethod_renumber]

end State

theorem parallel_findMethod (receiver : Value) (name : String) :
    Parallel number (Option.map (.renumber number) <$> findMethod receiver name) (findMethod receiver name) := by
  have hmap (state : State) : (Option.map (MethodEntry.renumber number) <$> findMethod receiver name).run.run state =
      (.ok ((state.search receiver name).1.map (.renumber number)), (state.search receiver name).2) := by
    rw [map_eq_pure_bind, State.run_bind_of_ok (state.run_findMethod receiver name)]
    rfl
  refine .of_run (fun state => ?_) fun state => ?_
  · rw [State.result, State.after, hmap, State.run_findMethod, State.search_renumber]
  · rw [State.after, hmap]
    exact (state.search_keeps receiver name).2

instance steady_respondTo (receiver : Value) (name : String) (includePrivate : Bool) :
    Steady number (respondTo receiver name includePrivate) := by
  rw [respondTo]
  refine (parallel_findMethod receiver name).map_bind fun found => ?_
  cases found <;> exact .pure _

instance steady_describeReceiver (receiver : Value) :
    Steady number (ask fun state => state.describeReceiver receiver) :=
  .ask fun _ => by simp

instance steady_refuseMissing {α : Type} (receiver : Value) (name : String) :
    Steady number (refuseMissing receiver name : Action α) := by
  rw [refuseMissing]
  infer_instance

/-! ## Calls -/

section

variable {run : Runner} [hrun : run.IsSteady number]

instance steady_callMissing (receiver : Value) (name : Symbol) (arguments : List Value) :
    Steady number (callMissing run receiver name arguments) := by
  rw [callMissing]
  refine Parallel.andThen fun missing => Parallel.andThen fun start => .get_bind fun state => ?_
  rw [State.renumber_graph, Graph.findMethod_renumber, State.symbolText_renumber]
  by_cases hname : name = missing
  · rw [if_pos hname, if_pos hname]
    exact steady_refuseMissing receiver _
  · rw [if_neg hname, if_neg hname]
    cases state.graph.findMethod? start missing with
    | none => exact steady_refuseMissing receiver _
    | some hook => exact hrun.steady hook.body receiver (.symbol name :: arguments)

instance steady_dispatch (checked : Bool) (receiver : Value) (name : Symbol) (arguments : List Value) :
    Steady number (dispatch run checked receiver name arguments) := by
  rw [dispatch]
  refine Parallel.andThen fun start => .get_bind fun state => ?_
  rw [State.renumber_graph, Graph.findMethod_renumber, State.symbolText_renumber,
    State.describeReceiver_renumber]
  cases state.graph.findMethod? start name with
  | none => exact steady_callMissing receiver name arguments
  | some entry =>
      have hcall := hrun.steady entry.body receiver arguments
      simp only [Option.map_some, MethodEntry.isPrivate_renumber, MethodEntry.renumber_body]
      infer_instance

/-- What a call of an unknown name comes to, which looks at the hook for missing methods. -/
theorem State.run_dispatchName_of_none {state : State} (run : Runner) (checked : Bool) (receiver : Value)
    {name : String} (arguments : List Value) (hname : state.names.find? name = none) :
    (dispatchName run checked receiver name arguments).run.run state =
      (findMethod receiver missingName >>= fun hook =>
        if hook.any fun entry => !entry.body.isStockMissing then do
          let symbol ← intern name
          callMissing run receiver symbol arguments
        else refuseMissing receiver name).run.run state := by
  rw [dispatchName, run_ask_bind, hname, hasCustomMissing]
  dsimp only
  rw [bind_assoc]
  rfl

/-- A refusal for an unknown name lacks the method of that name, whatever the other side does. -/
theorem State.runs_custom {state : State} (hnumber : Renumbering number state.installations) {α : Type}
    {act : Action α} (hact : Steady number act) (receiver : Value) {name : String}
    (hname : state.names.find? name = none) {custom otherCustom : Bool}
    (hcustom : otherCustom = custom ∨ HidesFirst number ∧ otherCustom = false) :
    state.RunsAlike number (if custom then act else refuseMissing receiver name)
        (if otherCustom then act else refuseMissing receiver name) ∨
      HidesFirst number ∧
        (state.renumber number).LacksName (if otherCustom then act else refuseMissing receiver name) := by
  rcases hcustom with rfl | ⟨hhides, rfl⟩
  · exact Parallel.runs hnumber
  · exact .inr ⟨hhides, name, _, rfl, hname⟩

instance steady_dispatchName (checked : Bool) (receiver : Value) (name : String) (arguments : List Value) :
    Steady number (dispatchName run checked receiver name arguments) where
  runs {state} hnumber := by
    have hnames : (state.renumber number).names = state.names := rfl
    cases hname : state.names.find? name with
    | some symbol =>
        have hcall (other : State) (hother : other.names.find? name = some symbol) :
            (dispatchName run checked receiver name arguments).run.run other =
              (dispatch run checked receiver symbol arguments).run.run other := by
          rw [dispatchName, State.run_ask_bind, hother]
        exact State.runs_of_eq (hcall state hname) (hcall _ (hnames ▸ hname)) (Parallel.runs hnumber)
    | none =>
        refine State.runs_of_eq (State.run_dispatchName_of_none run checked receiver arguments hname)
          (State.run_dispatchName_of_none run checked receiver arguments (hnames ▸ hname)) ?_
        obtain ⟨hkept, hcount⟩ := state.search_keeps receiver missingName
        have hfound := state.result_findMethod receiver missingName
        have hafter := state.after_findMethod receiver missingName
        have hother := (state.renumber number).result_findMethod receiver missingName
        have hotherAfter := (state.renumber number).after_findMethod receiver missingName
        rw [State.search_renumber] at hother hotherAfter
        have hmakes := MethodEntry.makes_renumber hnumber.first (state.search receiver missingName).1
        have hsearched : Renumbering number (state.search receiver missingName).2.installations :=
          hnumber.later hcount.ge
        have hslow : Steady number (do
            let symbol ← intern name
            callMissing run receiver symbol arguments) := inferInstance
        rw [← hafter] at hotherAfter hcount hkept hsearched
        rcases State.runs_custom hsearched hslow receiver (hkept ▸ hname) hmakes with halike | ⟨hhides, hlacks⟩
        · exact .inl (.go_on hfound hother hotherAfter hcount.ge halike)
        · exact .inr ⟨hhides, .after hother (hotherAfter ▸ hlacks)⟩

instance steady_invoke (receiver : Value) (name : String) (arguments : List Value) :
    Steady number (invoke run receiver name arguments) :=
  steady_dispatchName true receiver name arguments

instance steady_send (receiver : Value) (name : String) (arguments : List Value) :
    Steady number (send run receiver name arguments) :=
  steady_dispatchName false receiver name arguments

/-! ## Default encodings -/

instance steady_text (value : Value) : Steady number (ask fun state => state.text? value) :=
  .ask fun _ => by simp

instance steady_className (value : Value) : Steady number (ask fun state => state.className value) :=
  .ask fun _ => by simp

instance steady_defaultInternal : Steady number (ask State.defaultInternal) := .ask fun _ => rfl

instance steady_defaultExternal : Steady number (ask State.defaultExternal) := .ask fun _ => rfl

instance steady_convertToText (value : Value) : Steady number (convertToText run value) := by
  have hread (result : Value) : Steady number (ask fun state =>
      match state.text? result with
      | some content => Encoding.Converted.text content
      | none => .other (state.className result)) :=
    .ask fun _ => by simp
  rw [convertToText]
  infer_instance

instance steady_encodingArgument (value : Value) : Steady number (encodingArgument run value) := by
  have hconverted (converted : Encoding.Converted) : Steady number (ask fun state =>
      Encoding.Argument.convertible (state.className value) (.ok converted)) :=
    .ask fun _ => by simp
  have hother : Steady number (ask fun state => Encoding.Argument.inconvertible (state.className value)) :=
    .ask fun _ => by simp
  cases value with
  | nil => exact .pure _
  | encoding id => exact .pure _
  | str id => exact .ask fun _ => by simp
  | _ =>
      rw [encodingArgument]
      · infer_instance
      all_goals simp

instance steady_assignDefault (value : Value)
    (assign : Encoding.Defaults → Encoding.Argument → Except Fault Encoding.Defaults) :
    Steady number (assignDefault run value assign) := by
  have hset (argument : Encoding.Argument) : Steady number (do
      let state ← get
      let defaults ← settle (assign state.defaults argument)
      set { state with defaults }) := by
    refine .of_run (fun state => ?_) fun state => ?_
    · rw [State.result, State.after, State.run_get_bind, State.run_get_bind, State.renumber_defaults]
      cases assign state.defaults argument <;> rfl
    · rw [State.after, State.run_get_bind]
      cases assign state.defaults argument <;> rfl
  rw [assignDefault]
  infer_instance

instance steady_setDefaultInternal (value : Value) : Steady number (setDefaultInternal run value) := by
  rw [setDefaultInternal]
  infer_instance

instance steady_setDefaultExternal (value : Value) : Steady number (setDefaultExternal run value) := by
  rw [setDefaultExternal]
  infer_instance

end

end ObjectModel
