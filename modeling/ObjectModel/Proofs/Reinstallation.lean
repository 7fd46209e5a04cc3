import ObjectModel.Proofs.DefaultEncodings
import ObjectModel.Proofs.MissingHook
import ObjectModel.Proofs.Renumber.Installation

/-! # Installing the builtin methods again in a session

While the builtin methods of a model are intact, a step that installs them again changes none of the outcomes
that come after it, up to the first call that fails for a name that was never interned. After a second
installation the hook for missing methods is no longer known to be the one that only fails, and so such a call
interns the name before it fails.
-/

namespace ObjectModel

/-! ## Outcomes -/

namespace Outcome

/-- The outcome with other installation numbers. -/
def renumber (number : Nat → Nat) (outcome : Outcome) : Outcome :=
  { outcome with
    result := outcome.result.map (.renumber number)
    state := outcome.state.renumber number }

/-- All that an outcome tells but the numbers of installations. -/
def unnumbered (outcome : Outcome) : Outcome := outcome.renumber fun _ => 0

/-- Whether a step was stopped because a value has no method of a name, and the name is unknown. -/
def lacksName (outcome : Outcome) : Bool :=
  match outcome.result with
  | .error (.fault (.noMethod name _)) => (outcome.state.names.find? name).isNone
  | _ => false

/-- The position that a lookup gives, if the step is one. -/
def position? (outcome : Outcome) : Option (Option Nat) :=
  match outcome.result with
  | .ok (.index position) => some position
  | _ => none

theorem unnumbered_renumber (number : Nat → Nat) (outcome : Outcome) :
    (outcome.renumber number).unnumbered = outcome.unnumbered := by
  obtain ⟨result, warnings, state⟩ := outcome
  have hresult : (result.map (Answer.renumber number)).map (Answer.renumber fun _ => 0) =
      result.map (Answer.renumber fun _ => 0) := by
    cases result with
    | error halt => rfl
    | ok answer => exact congrArg Except.ok (answer.renumber_renumber number fun _ => 0)
  have hstate := state.renumber_renumber number fun _ => 0
  rw [unnumbered, renumber, renumber, hresult, hstate]
  rfl

end Outcome

theorem parallel_runOperation {number : Nat → Nat} (operation : Operation Expr) (operands : List Expr)
    (target : Option String) :
    Parallel number (Answer.renumber number <$> Session.runOperation operation operands target)
      (Session.runOperation operation operands target) := by
  have hoperands : Steady number (Expr.evaluateAll (runBody Session.depth) .nil [] operands) :=
    steady_evaluateAll .nil [] operands
  rw [Session.runOperation, map_bind]
  exact .andThen fun values => parallel_performInto operation values target

namespace Session

/-- The outcomes of steps, one after the other. A step on a model that is not there has none. -/
def outcomes (session : Session) : List Step → List Outcome
  | [] => []
  | step :: rest =>
      match session.runStep step with
      | some (outcome, next) => outcome :: next.outcomes rest
      | none => session.outcomes rest

/-- Whether no step on a model is stopped because a value has no method of an unknown name. -/
def knowsNames (session : Session) (position : Nat) : List Step → Bool
  | [] => true
  | step :: rest =>
      match session.runStep step with
      | some (outcome, next) =>
          !(step.model = position && outcome.lacksName) && next.knowsNames position rest
      | none => session.knowsNames position rest

end Session

/-! ## Two sessions side by side -/

namespace State

/-- A model as a session hands its defaults over to it. -/
def ready (model : State) (defaults : Encoding.Defaults) : State := { model with defaults, warnings := [] }

/-- What comes of a model when an operation is performed on it. -/
def outcomeOf (model : State) (step : Step) : Outcome :=
  let operation := Session.runOperation step.operation step.operands step.target
  { result := model.result operation, warnings := (model.after operation).warnings,
    state := model.after operation }

/-- With other installation numbers a step has the same outcome but for the numbers, unless it lacks the method
of an unknown name. -/
theorem outcomeOf_renumber {number : Nat → Nat} {model : State}
    (hnumber : Renumbering number model.installations) (step : Step) :
    ((model.renumber number).outcomeOf step = (model.outcomeOf step).renumber number ∧
        model.installations ≤ (model.outcomeOf step).state.installations) ∨
      HidesFirst number ∧ ((model.renumber number).outcomeOf step).lacksName := by
  have hact : Parallel number _ _ := parallel_runOperation step.operation step.operands step.target
  rcases hact.runs hnumber with ⟨hresult, hafter, hcount⟩ | ⟨hhides, name, receiver, hresult, hname⟩
  · rw [result_map] at hresult
    rw [after_map] at hafter hcount
    refine .inl ⟨?_, hcount⟩
    rw [outcomeOf, hresult, hafter]
    rfl
  · refine .inr ⟨hhides, ?_⟩
    rw [Outcome.lacksName, outcomeOf, hresult]
    exact Option.isNone_iff_eq_none.mpr hname

end State

namespace Session

variable {session : Session}

theorem runStep_eq {step : Step} {model : State}
    (hmodel : session.models[step.model]? = some model) :
    session.runStep step = some ((model.ready session.defaults).outcomeOf step,
      { models := session.models.set step.model ((model.ready session.defaults).outcomeOf step).state,
        defaults := ((model.ready session.defaults).outcomeOf step).state.defaults }) := by
  rw [runStep, hmodel]
  rfl

theorem runStep_of_none {step : Step} (hmodel : session.models[step.model]? = none) :
    session.runStep step = none := by
  rw [runStep, hmodel]
  rfl

/-- Two sessions that differ at most in the installation numbers of one of their models. -/
structure Twins (position : Nat) (number : Nat → Nat) (first second : Session) : Prop where
  defaults : second.defaults = first.defaults
  others : ∀ {other}, other ≠ position → second.models[other]? = first.models[other]?
  model : ∃ one two, first.models[position]? = some one ∧ second.models[position]? = some two ∧
    Renumbering number one.installations ∧
    ∀ defaults, two.ready defaults = (one.ready defaults).renumber number

namespace Twins

variable {position : Nat} {number : Nat → Nat} {first second : Session}

/-- A step on another model does the same in both sessions. -/
theorem runStep_other (htwins : Twins position number first second) {step : Step}
    (hother : step.model ≠ position) {model : State} (hmodel : first.models[step.model]? = some model) :
    ∃ outcome firstNext secondNext, first.runStep step = some (outcome, firstNext) ∧
      second.runStep step = some (outcome, secondNext) ∧ Twins position number firstNext secondNext := by
  have hsecond := runStep_eq ((htwins.others hother).trans hmodel)
  rw [htwins.defaults] at hsecond
  refine ⟨_, _, _, runStep_eq hmodel, hsecond, ?_⟩
  generalize (model.ready first.defaults).outcomeOf step = outcome
  refine ⟨rfl, fun {other} hposition => ?_, ?_⟩
  · rw [List.getElem?_set', List.getElem?_set', htwins.others hposition]
  · rw [List.getElem?_set_ne hother, List.getElem?_set_ne hother]
    exact htwins.model

/-- A step on the model itself has the same outcome but for the numbers, unless it lacks the method of an unknown
name. -/
theorem runStep_self (htwins : Twins position number first second) {step : Step}
    (hself : step.model = position) :
    ∃ one two firstNext secondNext, first.runStep step = some (one, firstNext) ∧
      second.runStep step = some (two, secondNext) ∧
        (HidesFirst number ∧ two.lacksName ∨
          one.unnumbered = two.unnumbered ∧ Twins position number firstNext secondNext) := by
  obtain rfl := hself
  obtain ⟨one, two, hone, htwo, hnumber, hready⟩ := htwins.model
  have hsecond := runStep_eq htwo
  rw [htwins.defaults, hready] at hsecond
  refine ⟨_, _, _, _, runStep_eq hone, hsecond, ?_⟩
  have hstep : Renumbering number (one.ready first.defaults).installations := hnumber
  rcases State.outcomeOf_renumber hstep step with ⟨hsame, hcount⟩ | hlacks
  · rw [hsame]
    refine .inr ⟨(Outcome.unnumbered_renumber number _).symm, ?_⟩
    generalize (one.ready first.defaults).outcomeOf step = outcome at hcount ⊢
    obtain ⟨hfirstThere, -⟩ := List.getElem?_eq_some_iff.mp hone
    obtain ⟨hsecondThere, -⟩ := List.getElem?_eq_some_iff.mp htwo
    refine ⟨rfl, fun {other} hother => ?_, outcome.state, outcome.state.renumber number,
      List.getElem?_set_self hfirstThere, List.getElem?_set_self hsecondThere, hnumber.later hcount, fun _ => rfl⟩
    rw [List.getElem?_set_ne hother.symm, List.getElem?_set_ne hother.symm]
    exact htwins.others hother
  · exact .inl hlacks

/-- As long as no step lacks the method of an unknown name, all outcomes are the same but for the numbers. -/
theorem outcomes (htwins : Twins position number first second) {steps : List Step}
    (hknown : HidesFirst number → second.knowsNames position steps) :
    (first.outcomes steps).map Outcome.unnumbered = (second.outcomes steps).map Outcome.unnumbered := by
  induction steps generalizing first second with
  | nil => rfl
  | cons step rest ih =>
      rw [knowsNames] at hknown
      rw [Session.outcomes, Session.outcomes]
      by_cases hself : step.model = position
      · obtain ⟨one, two, firstNext, secondNext, hfirst, hsecond, hrest⟩ := htwins.runStep_self hself
        rw [hsecond] at hknown
        rw [hfirst, hsecond]
        simp only [hself, decide_true, Bool.true_and, Bool.and_eq_true, Bool.not_eq_true'] at hknown
        rcases hrest with ⟨hhides, hlacks⟩ | ⟨hsame, hnext⟩
        · rw [hlacks] at hknown
          exact absurd (hknown hhides).1 Bool.noConfusion
        · exact congrArg₂ List.cons hsame (ih hnext fun hhides => (hknown hhides).2)
      · cases hmodel : first.models[step.model]? with
        | none =>
            have hsecond := runStep_of_none ((htwins.others hself).trans hmodel)
            rw [hsecond] at hknown
            rw [runStep_of_none hmodel, hsecond]
            exact ih htwins hknown
        | some model =>
            obtain ⟨outcome, firstNext, secondNext, hfirst, hsecond, hnext⟩ :=
              htwins.runStep_other hself hmodel
            rw [hsecond] at hknown
            rw [hfirst, hsecond]
            simp only [hself, decide_false, Bool.false_and, Bool.not_false, Bool.true_and] at hknown
            exact congrArg (outcome.unnumbered :: ·) (ih hnext hknown)

end Twins

/-! ## Another installation -/

/-- The step that installs the builtin methods. -/
theorem outcomeOf_install (model : State) (position : Nat) :
    model.outcomeOf (.plain position .installBuiltins) =
      { result := .ok .nothing, warnings := model.installBuiltins.warnings, state := model.installBuiltins } := by
  have hrun : (runOperation .installBuiltins [] none).run.run model = (.ok .nothing, model.installBuiltins) := by
    simp only [runOperation, Expr.evaluateAll, performInto, Operation.map, Operation.perform]
    generalize State.installBuiltins = change
    rfl
  rw [State.outcomeOf, Step.plain, State.result, State.after, hrun]

/-- Where the builtin methods of a model are intact, the session with another installation and the one without
differ at most in the numbers of installations. -/
theorem Sound.twins (hsound : session.Sound) {position : Nat} {model : State}
    (hmodel : session.models[position]? = some model) (hintact : model.Intact) :
    ∃ outcome next, session.runStep (.plain position .installBuiltins) = some (outcome, next) ∧
      Twins position (State.mergeLast model.installations) next session := by
  have hready : (model.ready session.defaults).Sound := (hsound.ready hmodel).sound
  have hstill : (model.ready session.defaults).Intact := hintact
  have hmerged := hready.renumber_installBuiltins hstill
  have hnumber := State.renumbering_mergeLast (hready.installations_pos hstill)
  have hcount : (model.ready session.defaults).installBuiltins.installations = model.installations + 1 := rfl
  have hplain : session.models[(Step.plain position .installBuiltins).model]? = some model := hmodel
  refine ⟨_, _, runStep_eq hplain, ?_⟩
  rw [outcomeOf_install]
  dsimp only
  generalize (model.ready session.defaults).installBuiltins = installed at hmerged hcount ⊢
  have hdefaults : installed.defaults = session.defaults := congrArg State.defaults hmerged
  obtain ⟨hthere, -⟩ := List.getElem?_eq_some_iff.mp hmodel
  refine ⟨hdefaults.symm, fun {other} hother => ?_, installed, model, List.getElem?_set_self hthere, hmodel,
    hnumber.later ?_, fun defaults => ?_⟩
  · exact (List.getElem?_set_ne hother.symm).symm
  · rw [hcount]
    exact Nat.le_succ _
  · exact congrArg (fun state => State.ready state defaults) hmerged.symm

/-- As long as the builtin methods of a model are intact, a step that installs them again changes none of the
outcomes of the steps that come after it, on any of the models, but for the numbers of installations. Only if
they were installed just once before, this ends with the first step on the model that is stopped because a value
has no method of an unknown name. -/
theorem installed_again_unnoticed (hsound : session.Sound) {position : Nat} {model : State}
    (hmodel : session.models[position]? = some model) (hintact : model.Intact) {steps : List Step}
    (hknown : model.installations = 1 → session.knowsNames position steps) :
    (session.outcomes (.plain position .installBuiltins :: steps)).tail.map Outcome.unnumbered =
      (session.outcomes steps).map Outcome.unnumbered := by
  obtain ⟨outcome, next, hstep, htwins⟩ := hsound.twins hmodel hintact
  have hcount := (hsound.models model (List.mem_of_getElem? hmodel)).sound.installations_pos hintact
  rw [outcomes, hstep]
  exact htwins.outcomes fun hhides => hknown (State.eq_one_of_hidesFirst hcount hhides)

end Session

/-! ## Calls of unknown names -/

namespace State

/-- The hook of a later installation only fails, too, but is taken for one that can make something of a name. So
the call of a name that was never interned fails as it does with the stock hook, but interns the name. -/
theorem Reachable.run_unknown_of_later {state : State} (hreachable : state.Reachable) {receiver : Value}
    (hreceiver : state.Has receiver) {name : String} (hname : state.names.find? name = none) {hook : MethodEntry}
    (hhook : state.hook? receiver = some hook) {builtin : Builtin} {installation : Nat}
    (hbody : hook.body = .builtin builtin (installation + 1)) (hroutine : builtin.routine = .basic .missing)
    (depth : Nat) (checked : Bool) (arguments : List Value) :
    (dispatchName (runBody (depth + 1)) checked receiver name arguments).run.run state =
      (.error (.fault (.noMethod name (state.describeReceiver receiver))), state.readied receiver name) := by
  obtain ⟨owner, onMetaclass, routine⟩ := builtin
  obtain rfl : routine = .basic .missing := hroutine
  have hdefined : (state.hook? receiver).filter MethodEntry.isDefined = some hook := by
    rw [hhook, Option.filter_some, if_pos]
    rw [MethodEntry.isDefined, hbody]
    rfl
  have hcustom : (!hook.body.isStockMissing) = true := by
    rw [hbody]
    rfl
  have hrun : (runBody (depth + 1) hook.body receiver (.symbol (state.names.intern name).1 :: arguments)).run.run
      (state.readied receiver name) =
        (.error (.fault (.noMethod ((state.readied receiver name).symbolText (state.names.intern name).1)
          ((state.readied receiver name).describeReceiver receiver))), state.readied receiver name) := by
    rw [hbody]
    rfl
  have htext : (state.readied receiver name).symbolText (state.names.intern name).1 = name :=
    state.symbolText_intern name
  rw [hreachable.run_fast hreceiver hname, hreachable.run_callMissing hreceiver hname, hdefined, Option.any_some,
    if_pos hcustom]
  dsimp only
  rw [hrun, htext, hreachable.sound.searchable.describeReceiver_readied hreceiver]

end State

namespace Session

/-! ## A new session -/

/-- A session with one new object model. -/
def fresh : Session := { models := [State.plain], defaults := Encoding.Defaults.standard }

theorem sound_fresh : fresh.Sound := by
  refine ⟨fun model hmodel => ?_, by decide, by decide⟩
  rw [fresh, List.mem_singleton] at hmodel
  exact hmodel ▸ State.reachable_plain

/-- The step that makes an object and keeps it. -/
def makeObject : Step :=
  { model := 0, operation := .instantiate, operands := [.classAt ["Object"]], target := some "it" }

/-- The step that calls a method of the object. -/
def callObject (name : String) : Step :=
  { model := 0, operation := .invoke name, operands := [.named "it"], target := none }

/-- Calls of a method that an object has and of a name for which it has none. -/
theorem fresh_installed_again_unnoticed :
    let steps := [makeObject, callObject "nil?", callObject "clamp"]
    (fresh.outcomes (.plain 0 .installBuiltins :: steps)).tail.map Outcome.unnumbered =
      (fresh.outcomes steps).map Outcome.unnumbered := by
  have hknown : fresh.knowsNames 0 [makeObject, callObject "nil?", callObject "clamp"] := by
    decide +kernel
  exact installed_again_unnoticed sound_fresh rfl (State.intact_initial _ _ _) fun _ => hknown

/-- The step that looks a name up. -/
def lookUp (name : String) : Step := .plain 0 (.lookupSymbol name)

/-- An unknown name is not interned when it is called on an object, but it is after another installation. -/
theorem installed_again_noticed :
    let steps := [callObject "frobnicate", lookUp "frobnicate"]
    State.plain.Intact ∧
      (fresh.outcomes (makeObject :: steps)).map Outcome.position? = [none, none, some none] ∧
      (fresh.outcomes (makeObject :: .plain 0 .installBuiltins :: steps)).map Outcome.position? =
        [none, none, none, some (some 123)] := by
  refine ⟨State.intact_initial _ _ _, ?_⟩
  decide +kernel

end Session

end ObjectModel
