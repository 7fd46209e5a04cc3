import ObjectModel.Proofs.Encoding.Assignments
import ObjectModel.Proofs.MissingHook

/-! # Assigning a default encoding

What an assignment of a default encoding does: it finds out what its value stands for, for which a method of the value
may be run, and if that ends well it makes one assignment more. Whatever the method assigned until then stays
assigned, but the assignment that is stopped adds nothing to it.
-/

namespace ObjectModel

namespace State

variable {state first second : State} {run : Runner} {value : Value}

/-! ## Defaults change by assignments -/

theorem defaults_installBuiltins (state : State) : state.installBuiltins.defaults = state.defaults := by
  have hfold : ∀ (registrations : List Registration) (reached : State),
      (registrations.foldl (installOne state.installations) reached).defaults = reached.defaults := by
    intro registrations
    induction registrations with
    | nil => exact fun _ => rfl
    | cons registration rest ih => exact fun reached => ih _
  dsimp only [installBuiltins]
  exact hfold _ state

/-- An allowed change leaves the defaults as they are or makes one assignment. -/
theorem follows_apply {change : Change} (hguarded : change.Guarded state) :
    state.defaults.Follows (change.apply state).defaults := by
  have hsame {α : Type} (result : Except Fault (α × Graph)) :
      state.defaults.Follows (state.orSame result).defaults := by
    cases result <;> exact .refl _
  cases change with
  | newClass superclass => exact hsame _
  | includeModule id mixin => exact hsame _
  | prependModule id mixin => exact hsame _
  | putVariable value => cases value <;> exact .refl _
  | freeze value => cases value <;> exact .refl _
  | assignDefaults defaults =>
      obtain ⟨assignment, rfl⟩ := hguarded
      exact state.defaults.follows_assign assignment
  | installBuiltins =>
      rw [Change.apply, defaults_installBuiltins]
      exact .refl _
  | _ => exact .refl _

theorem Sound.follows_of_runs (hsound : first.Sound) (hruns : first.Runs second) :
    first.defaults.Follows second.defaults :=
  hsound.runs_induct (motive := fun state => first.defaults.Follows state.defaults)
    (fun _ _ hguarded hfollows => hfollows.trans (follows_apply hguarded)) hruns (.refl _)

/-! ## Looking for the conversion -/

theorem defaults_start (state : State) (value : Value) :
    (state.start value).2.defaults = state.defaults := by
  cases value <;> rfl

theorem Searchable.className_start (hsearchable : state.Searchable) (hvalue : state.Has value) :
    (state.start value).2.className value = state.className value := by
  cases value with
  | cls id =>
      have hstacked := hsearchable.graph.stacked
      have hextends := (hstacked.synthesizes hvalue).path.extends_graph
      have hclass : (state.graph.metaclassOf id).2.classOfClass id = state.graph.classOfClass id := by
        rw [Graph.classOfClass, hstacked.isModule_metaclassOf hvalue, Graph.classOfClass]
      change (state.graph.metaclassOf id).2.displayName
        ((state.graph.metaclassOf id).2.classOfClass id) = _
      rw [hclass]
      apply hextends.displayName hsearchable.graph
      rw [Graph.classOfClass]
      split
      · exact hstacked.has_core .moduleClass
      · exact hstacked.has_core .classClass
  | _ => rfl

/-- Beginning the search for the methods of a value changes none of them. -/
theorem Searchable.choice_start (hsearchable : state.Searchable)
    (hstarted : (state.start value).2.Searchable) (hvalue : state.Has value)
    (hthere : (state.start value).2.Has value) (name : String) :
    (state.start value).2.choice? value name = state.choice? value name := by
  rw [choice?, choice?, names_start]
  congr 1
  funext symbol
  rw [← hstarted.findMethod_start hthere, hsearchable.start_start hvalue,
    hsearchable.findMethod_start hvalue]

end State

/-! ## What a value stands for -/

/-- All values but nil, encodings and strings are asked to convert themselves. -/
def Value.ConvertsItself : Value → Prop
  | .nil | .encoding _ | .str _ => False
  | _ => True

/-- What the name of an encoding stands for. -/
def Encoding.resolveName (name : String) : Except Halt (Option EncodingId) :=
  match Encoding.find? name with
  | some id => .ok (some id)
  | none => .error (.fault (.unknownEncoding name))

/-- What a value stands for when it is assigned to a default, or why that is nothing, and the state in which this
was found out. Any body may stand in a method `to_str`, and the method may be private. -/
inductive State.Resolves (run : Runner) (state : State) :
    Value → State → Except Halt (Option EncodingId) → Prop
  | nil : Resolves run state .nil state (.ok none)
  | encoding {id : EncodingId} (hid : id.index < Encoding.catalog.length) :
      Resolves run state (.encoding id) state (.ok (some id))
  | unregistered {id : EncodingId} (hid : Encoding.catalog.length ≤ id.index) :
      Resolves run state (.encoding id) state
        (.error (.fault (.typeMismatch ("encoding " ++ toString id.index ++ " is not registered"))))
  | string (id : ObjectId) :
      Resolves run state (.str id) state (Encoding.resolveName ((state.text? (.str id)).getD ""))
  /-- There is no method `to_str`; looking for it assigns nothing. -/
  | inconvertible {value : Value} {searched : State} (hvalue : value.ConvertsItself)
      (hnone : state.choice? value "to_str" = none) (hsearched : searched.defaults = state.defaults) :
      Resolves run state value searched
        (.error (.fault (.noImplicitConversion (state.className value) "String")))
  /-- The method is stopped. -/
  | stopped {value : Value} {converted : State} {entry : MethodEntry} {halt : Halt}
      (hvalue : value.ConvertsItself) (hentry : state.choice? value "to_str" = some entry)
      (hbody : (run entry.body value []).run.run (state.start value).2 = (.error halt, converted)) :
      Resolves run state value converted (.error halt)
  /-- The method gives something that is no text. -/
  | unfit {value result : Value} {converted : State} {entry : MethodEntry}
      (hvalue : value.ConvertsItself) (hentry : state.choice? value "to_str" = some entry)
      (hbody : (run entry.body value []).run.run (state.start value).2 = (.ok result, converted))
      (hresult : converted.text? result = none) :
      Resolves run state value converted
        (.error (.fault (.conversionGives (converted.className value) (converted.className result))))
  | converted {value result : Value} {converted : State} {entry : MethodEntry} {name : String}
      (hvalue : value.ConvertsItself) (hentry : state.choice? value "to_str" = some entry)
      (hbody : (run entry.body value []).run.run (state.start value).2 = (.ok result, converted))
      (hresult : converted.text? result = some name) :
      Resolves run state value converted (Encoding.resolveName name)

/-- What an argument stands for, as the outcome of an action. -/
def Encoding.Argument.outcome (argument : Argument) : Except Halt (Option EncodingId) :=
  argument.resolve.mapError .fault

theorem Encoding.outcome_name (name : String) :
    (Argument.name name).outcome = resolveName name := by
  rw [Argument.outcome, Argument.resolve, named, resolveName]
  cases find? name <;> rfl

theorem Encoding.outcome_of_lt {id : EncodingId} (hid : id.index < catalog.length) :
    (Argument.encoding id).outcome = .ok (some id) := by
  rw [Argument.outcome, Argument.resolve, if_pos hid]
  rfl

theorem Encoding.outcome_of_not_lt {id : EncodingId} (hid : ¬ id.index < catalog.length) :
    (Argument.encoding id).outcome = .error (.fault
      (.typeMismatch ("encoding " ++ toString id.index ++ " is not registered"))) := by
  rw [Argument.outcome, Argument.resolve, if_neg hid]
  rfl

namespace State

variable {state : State} {run : Runner} {value : Value}

/-- The method `to_str` of a value is looked for twice, but it is the same one, and only its body does anything
further. -/
theorem Sound.run_convertToText (hsound : state.Sound) (hvalue : state.Has value)
    {entry : MethodEntry} (hentry : state.choice? value "to_str" = some entry) (run : Runner) :
    (convertToText run value).run.run (state.after (findMethod value "to_str")) =
      match (run entry.body value []).run.run (state.start value).2 with
      | (.ok result, converted) =>
          (.ok (match converted.text? result with
            | some content => .text content
            | none => .other (converted.className result)), converted)
      | (.error halt, converted) => (.error halt, converted) := by
  have hruns := (leads_findMethod "to_str" hvalue hsound).1
  obtain ⟨symbol, hname, _⟩ := Option.bind_eq_some_iff.mp hentry
  have hafter := hsound.searchable.after_findMethod hvalue hname
  obtain ⟨hstarted, hgrows⟩ := hsound.runs hruns
  rw [hafter] at hstarted hgrows ⊢
  have hthere := hgrows.has hvalue
  have hagain : (state.start value).2.choice? value "to_str" = some entry := by
    rw [hsound.searchable.choice_start hstarted.searchable hvalue hthere, hentry]
  have hstill : (state.start value).2.after (findMethod value "to_str") = (state.start value).2 := by
    rw [← names_start state value] at hname
    rw [hstarted.searchable.after_findMethod hthere hname, hsound.searchable.start_start hvalue]
  rw [convertToText, run_bind, send,
    hstarted.searchable.run_dispatchName hthere hagain run (Bool.false_and _), hstill]
  cases (run entry.body value []).run.run (state.start value).2 with
  | mk outcome converted => cases outcome <;> rfl

theorem Sound.run_respondTo (hsound : state.Sound) (hvalue : state.Has value) (name : String) :
    (respondTo value name true).run.run state =
      (.ok (state.choice? value name).isSome, state.after (findMethod value name)) := by
  have hfound : (findMethod value name).run.run state =
      (.ok (state.choice? value name), state.after (findMethod value name)) :=
    Prod.ext (hsound.searchable.result_findMethod hvalue name) rfl
  rw [respondTo, run_bind_of_ok hfound]
  cases state.choice? value name <;> rfl

theorem Sound.defaults_findMethod (hsound : state.Sound) (hvalue : state.Has value) (name : String) :
    (state.after (findMethod value name)).defaults = state.defaults := by
  cases hname : state.names.find? name with
  | none => rw [after, run_findMethod_of_none hname]
  | some symbol => rw [hsound.searchable.after_findMethod hvalue hname, defaults_start]

theorem Sound.className_findMethod (hsound : state.Sound) (hvalue : state.Has value) (name : String) :
    (state.after (findMethod value name)).className value = state.className value := by
  cases hname : state.names.find? name with
  | none => rw [after, run_findMethod_of_none hname]
  | some symbol =>
      rw [hsound.searchable.after_findMethod hvalue hname]
      exact hsound.searchable.className_start hvalue

/-- Finding out what a value stands for that is asked to convert itself. -/
theorem Sound.run_encodingArgument (hsound : state.Sound) (hvalue : state.Has value)
    (hconverts : value.ConvertsItself) (run : Runner) :
    (encodingArgument run value).run.run state =
      match state.choice? value "to_str" with
      | none =>
          (.ok (.inconvertible (state.className value)), state.after (findMethod value "to_str"))
      | some entry =>
          match (run entry.body value []).run.run (state.start value).2 with
          | (.ok result, converted) =>
              (.ok (.convertible (converted.className value) (.ok (match converted.text? result with
                | some content => .text content
                | none => .other (converted.className result)))), converted)
          | (.error halt, converted) => (.error halt, converted) := by
  have hasks : encodingArgument run value = (do
      if ← respondTo value "to_str" true then
        let converted ← convertToText run value
        ask fun state => Encoding.Argument.convertible (state.className value) (.ok converted)
      else ask fun state => Encoding.Argument.inconvertible (state.className value)) := by
    cases value with
    | nil | encoding | str => exact hconverts.elim
    | _ => rfl
  rw [hasks, run_bind_of_ok (hsound.run_respondTo hvalue "to_str")]
  cases hentry : state.choice? value "to_str" with
  | none =>
      rw [← hsound.className_findMethod hvalue "to_str"]
      rfl
  | some entry =>
      rw [Option.isSome_some, if_pos rfl, run_bind, hsound.run_convertToText hvalue hentry run]
      dsimp only
      cases (run entry.body value []).run.run (state.start value).2 with
      | mk outcome converted => cases outcome <;> rfl

/-- Every value that is there, and every encoding, stands for something or for nothing. -/
theorem Sound.resolves (hsound : state.Sound)
    (hvalue : state.Has value ∨ ∃ id, value = .encoding id) (run : Runner) :
    state.Resolves run value (state.after (encodingArgument run value))
      ((state.result (encodingArgument run value)).bind Encoding.Argument.outcome) := by
  by_cases hconverts : value.ConvertsItself
  · have hthere : state.Has value := by
      rcases hvalue with hthere | ⟨id, rfl⟩
      · exact hthere
      · exact hconverts.elim
    have hrun := hsound.run_encodingArgument hthere hconverts run
    rw [after, result, hrun]
    cases hentry : state.choice? value "to_str" with
    | none => exact .inconvertible hconverts hentry (hsound.defaults_findMethod hthere "to_str")
    | some entry =>
        dsimp only
        cases hbody : (run entry.body value []).run.run (state.start value).2 with
        | mk outcome converted =>
            cases outcome with
            | error halt => exact .stopped hconverts hentry hbody
            | ok result =>
                dsimp only
                cases hresult : converted.text? result with
                | none => exact .unfit hconverts hentry hbody hresult
                | some name =>
                    have hnamed := State.Resolves.converted hconverts hentry hbody hresult
                    rw [← Encoding.outcome_name] at hnamed
                    exact hnamed
  · cases value with
    | nil => exact .nil
    | encoding id =>
        by_cases hid : id.index < Encoding.catalog.length
        · have hregistered := @State.Resolves.encoding run state id hid
          rw [← Encoding.outcome_of_lt hid] at hregistered
          exact hregistered
        · have hunregistered := @State.Resolves.unregistered run state id (Nat.le_of_not_lt hid)
          rw [← Encoding.outcome_of_not_lt hid] at hunregistered
          exact hunregistered
    | str id =>
        have hstring : state.Resolves run (.str id) state _ := .string id
        rw [← Encoding.outcome_name] at hstring
        exact hstring
    | _ => exact absurd trivial hconverts

end State

/-! ## The assignments -/

/-- What an assignment to the internal default does, if what its value stands for is found out in a later state. -/
structure State.AssignsInternal (run : Runner) (state : State) (value : Value) (converted : State)
    (resolved : Except Halt (Option EncodingId)) : Prop where
  /-- It is stopped if the value stands for nothing, and has changed nothing itself. -/
  stopped : ∀ halt, resolved = .error halt →
    (setDefaultInternal run value).run.run state = (.error halt, converted)
  /-- It changes the internal default alone, which may become absent, and gives back what is then read. -/
  completed : ∀ encoding, resolved = .ok encoding → ∃ last,
    (setDefaultInternal run value).run.run state = (.ok last.defaultInternal, last) ∧
      last = { converted with defaults := {
        external := converted.defaults.external
        internal := encoding
        log := converted.defaults.log ++ [.internal encoding] } }

/-- What an assignment to the external default does, if what its value stands for is found out in a later state. -/
structure State.AssignsExternal (run : Runner) (state : State) (value : Value) (converted : State)
    (resolved : Except Halt (Option EncodingId)) : Prop where
  /-- It is stopped if the value stands for nothing, and has changed nothing itself. -/
  stopped : ∀ halt, resolved = .error halt →
    (setDefaultExternal run value).run.run state = (.error halt, converted)
  /-- The external default cannot become absent. -/
  absent : resolved = .ok none → (setDefaultExternal run value).run.run state =
    (.error (.fault (.argument "default external can not be nil")), converted)
  /-- It changes the external default alone, and gives back what is then read. -/
  completed : ∀ encoding, resolved = .ok (some encoding) → ∃ last,
    (setDefaultExternal run value).run.run state = (.ok last.defaultExternal, last) ∧
      last = { converted with defaults := {
        external := encoding
        internal := converted.defaults.internal
        log := converted.defaults.log ++ [.external encoding] } }

namespace State

variable {state : State} {run : Runner} {value : Value}

/-- How an assignment ends, and what is read after it, when it is known what its value stands for. -/
theorem run_assignDefault_bind
    {assign : Encoding.Defaults → Encoding.Argument → Except Fault Encoding.Defaults}
    {commit : Encoding.Defaults → Option EncodingId → Except Fault Encoding.Defaults}
    (hassign : ∀ defaults argument, assign defaults argument = argument.resolve.bind (commit defaults))
    (state : State) (run : Runner) (value : Value) (read : State → Value) :
    (do
      assignDefault run value assign
      ask read).run.run state =
      match (state.result (encodingArgument run value)).bind Encoding.Argument.outcome with
      | .error halt => (.error halt, state.after (encodingArgument run value))
      | .ok encoding =>
          match commit (state.after (encodingArgument run value)).defaults encoding with
          | .error fault => (.error (.fault fault), state.after (encodingArgument run value))
          | .ok defaults =>
              let last : State := { state.after (encodingArgument run value) with defaults }
              (.ok (read last), last) := by
  rw [run_bind, assignDefault, run_bind, result, after]
  cases (encodingArgument run value).run.run state with
  | mk outcome converted =>
      cases outcome with
      | error halt => rfl
      | ok argument =>
          dsimp only [Except.bind, Encoding.Argument.outcome]
          rw [run_get_bind, hassign]
          cases argument.resolve with
          | error fault => rfl
          | ok encoding =>
              dsimp only [Except.bind, Except.mapError]
              cases commit converted.defaults encoding <;> rfl

theorem assignsInternal (state : State) (run : Runner) (value : Value) :
    state.AssignsInternal run value (state.after (encodingArgument run value))
      ((state.result (encodingArgument run value)).bind Encoding.Argument.outcome) := by
  have hassign (defaults : Encoding.Defaults) (argument : Encoding.Argument) :
      defaults.assignInternal argument =
        argument.resolve.bind fun encoding => .ok (defaults.assign (.internal encoding)) := by
    rw [Encoding.Defaults.assignInternal]
    cases argument.resolve <;> rfl
  have hrun : (setDefaultInternal run value).run.run state = _ :=
    run_assignDefault_bind hassign state run value State.defaultInternal
  constructor
  · intro halt hresolved
    rw [hrun, hresolved]
  · intro encoding hresolved
    rw [hrun, hresolved]
    exact ⟨_, rfl, rfl⟩

theorem assignsExternal (state : State) (run : Runner) (value : Value) :
    state.AssignsExternal run value (state.after (encodingArgument run value))
      ((state.result (encodingArgument run value)).bind Encoding.Argument.outcome) := by
  have hassign (defaults : Encoding.Defaults) (argument : Encoding.Argument) :
      defaults.assignExternal argument = argument.resolve.bind fun
        | some encoding => .ok (defaults.assign (.external encoding))
        | none => .error (.argument "default external can not be nil") := by
    rw [Encoding.Defaults.assignExternal]
    cases argument.resolve with
    | error fault => rfl
    | ok encoding => cases encoding <;> rfl
  have hrun : (setDefaultExternal run value).run.run state = _ :=
    run_assignDefault_bind hassign state run value State.defaultExternal
  constructor
  · intro halt hresolved
    rw [hrun, hresolved]
  · intro hresolved
    rw [hrun, hresolved]
  · intro encoding hresolved
    rw [hrun, hresolved]
    exact ⟨_, rfl, rfl⟩

end State

end ObjectModel
