import ObjectModel.Proofs.Interpreter
import ObjectModel.Proofs.State.Initial
import ObjectModel.Session

/-! # Reachable states

The states to which an object model can be brought: by evaluating expressions, which perform any operations and run any
bodies; by changing a part of the state directly, without the guards of the operations; and by what a session does
between two steps. Whatever is reachable is sound.
-/

namespace ObjectModel

open Relation

/-- Both default encodings are in the catalog. -/
def Encoding.Defaults.InCatalog (defaults : Encoding.Defaults) : Prop :=
  defaults.external.index < Encoding.catalog.length ∧
    ∀ id, defaults.internal = some id → id.index < Encoding.catalog.length

namespace State

/-- One move from a state to the next. -/
inductive Moves (state : State) : State → Prop
  /-- An expression that uses what is there is evaluated, with calls nested up to some depth, whether it
  gives a value or is stopped. -/
  | evaluate (depth : Nat) {expression : Expr} (huses : expression.Uses state.Has) :
      Moves state (state.after (expression.evaluate (runBody depth) .nil []))
  | change {change : Change} (hfits : change.Fits state) : Moves state (change.apply state)
  /-- A session hands over the defaults that it shares, and takes the warnings. -/
  | ready {defaults : Encoding.Defaults} (hdefaults : defaults.InCatalog) :
      Moves state { state with defaults, warnings := [] }

/-- A state can be brought to another one. -/
def Reaches : State → State → Prop := ReflTransGen Moves

/-- A state to which a new object model can be brought. -/
def Reachable (state : State) : Prop :=
  ∃ options defaults configuration, defaults.InCatalog ∧
    (initial options defaults configuration).Reaches state

variable {first second third : State}

/-- Evaluating an expression that uses what is there is a run. -/
theorem Sound.runs_evaluate (hsound : first.Sound) (depth : Nat) {expression : Expr}
    (huses : expression.Uses first.Has) :
    first.Runs (first.after (expression.evaluate (runBody depth) .nil [])) := by
  have hreceiver : first.Has .nil := trivial
  exact (gives_evaluate (safe_runBody depth) huses (fun _ hvalue => hvalue) hreceiver (by simp)
    hsound).1

theorem Sound.moves (hsound : first.Sound) (hmoves : first.Moves second) :
    second.Sound ∧ first.Grows second := by
  cases hmoves with
  | evaluate depth huses => exact hsound.runs (hsound.runs_evaluate depth huses)
  | change hfits => exact hsound.apply hfits
  | ready hdefaults =>
      obtain ⟨hassigned, hgrows⟩ := hsound.assignDefaults hdefaults
      obtain ⟨hready, hlast⟩ := hassigned.withRest (List.prefix_refl _) (Nat.le_refl _)
        (fun _ hpair => .inl hpair) [] first.options first.configuration
      exact ⟨hready, hgrows.trans hlast⟩

theorem Sound.reaches (hsound : first.Sound) (hreaches : first.Reaches second) :
    second.Sound ∧ first.Grows second := by
  induction hreaches with
  | refl => exact ⟨hsound, .refl first⟩
  | tail _ hmoves ih =>
      obtain ⟨hnext, hgrows⟩ := ih.1.moves hmoves
      exact ⟨hnext, ih.2.trans hgrows⟩

/-- Every state that can be reached obeys the laws. -/
theorem Reachable.sound (hreachable : first.Reachable) : first.Sound := by
  obtain ⟨options, defaults, configuration, hdefaults, hreaches⟩ := hreachable
  exact ((sound_initial options configuration hdefaults).reaches hreaches).1

theorem Reachable.reaches (hreachable : first.Reachable) (hreaches : first.Reaches second) :
    second.Reachable := by
  obtain ⟨options, defaults, configuration, hdefaults, hfirst⟩ := hreachable
  exact ⟨options, defaults, configuration, hdefaults, hfirst.trans hreaches⟩

/-- Every state on the way of a run can be reached. -/
theorem Reachable.runs (hreachable : first.Reachable) (hruns : first.Runs second) :
    second.Reachable := by
  induction hruns with
  | refl => exact hreachable
  | tail _ hsteps ih =>
      obtain ⟨change, hfits, _, rfl⟩ := hsteps
      exact ih.reaches (.single (.change hfits))

theorem reachable_initial (options : Options) {defaults : Encoding.Defaults}
    (configuration : Config.Settings) (hdefaults : defaults.InCatalog) :
    (initial options defaults configuration).Reachable :=
  ⟨options, defaults, configuration, hdefaults, .refl⟩

/-- What holds of the core classes without methods, is kept by every change and does not depend on what is
chosen holds of every state that can be reached. -/
theorem Reachable.induct {state : State} {motive : State → Prop} (hbare : motive bare)
    (hchange : ∀ {state : State} {change : Change}, state.Sound → change.Fits state →
      motive state → motive (change.apply state))
    (hchoose : ∀ {state : State} (options : Options) (defaults : Encoding.Defaults)
      (configuration : Config.Settings) (warnings : List Warning), motive state →
        motive { state with options, defaults, configuration, warnings })
    (hreachable : state.Reachable) : motive state := by
  obtain ⟨options, defaults, configuration, hdefaults, hreaches⟩ := hreachable
  have hinitial : motive (initial options defaults configuration) :=
    hchoose options defaults configuration _
      (standard_induct hbare fun hsound hfits _ => hchange hsound hfits)
  induction hreaches with
  | refl => exact hinitial
  | tail hbefore hmoves ih =>
      have hsound := ((sound_initial options configuration hdefaults).reaches hbefore).1
      cases hmoves with
      | evaluate depth huses =>
          exact hsound.runs_induct (fun hsound hfits _ => hchange hsound hfits)
            (hsound.runs_evaluate depth huses) ih
      | change hfits => exact hchange hsound hfits ih
      | ready => exact hchoose _ _ _ _ ih

/-- A new object model in which nothing is chosen. -/
def plain : State := initial Options.standard Encoding.Defaults.standard Config.Settings.empty

theorem reachable_plain : plain.Reachable :=
  reachable_initial Options.standard Config.Settings.empty ⟨by decide, by decide⟩

theorem inCatalog_of_name {name : String} {defaults : Encoding.Defaults}
    (hname : Encoding.Defaults.ofName name = .ok defaults) : defaults.InCatalog := by
  rw [Encoding.Defaults.ofName] at hname
  cases hcase : Encoding.named name with
  | error fault =>
      rw [hcase] at hname
      cases hname
  | ok encoding =>
      rw [hcase] at hname
      obtain rfl := Except.ok.inj hname
      exact ⟨lt_of_named hcase, by simp⟩

end State

/-! ## Sessions -/

namespace Session

/-- An operation of a session does what the expression does that performs it. -/
theorem after_runOperation (state : State) (operation : Operation Expr) (operands : List Expr)
    (target : Option String) :
    state.after (runOperation operation operands target) =
      state.after ((Expr.perform operation operands target).evaluate (runBody depth) .nil []) := by
  rw [Expr.evaluate, runOperation, State.after_bind, State.after_bind]
  cases state.result (Expr.evaluateAll (runBody depth) .nil [] operands) with
  | error halt => rfl
  | ok values =>
      dsimp only
      rw [State.after_bind]
      cases State.result _ (performInto (runBody depth) (operation.map .script) values target) <;> rfl

/-- The laws of a session: its models can be reached, and the defaults that they share are in the catalog. -/
structure Sound (session : Session) : Prop where
  models : ∀ model ∈ session.models, model.Reachable
  defaults : session.defaults.InCatalog

theorem sound_start {setup : Setup} {session : Session} (hstart : start setup = .ok session) :
    session.Sound := by
  rw [start] at hstart
  cases hdefaults : Encoding.Defaults.ofName setup.options.defaultExternal with
  | error fault =>
      rw [hdefaults] at hstart
      cases hstart
  | ok defaults =>
      rw [hdefaults] at hstart
      have hcatalog := State.inCatalog_of_name hdefaults
      cases hsource : Config.Settings.ofSource setup.configuration setup.options.policy with
      | error failure =>
          rw [hsource] at hstart
          cases hstart
      | ok configuration =>
          rw [hsource] at hstart
          obtain rfl := Except.ok.inj hstart
          refine ⟨?_, hcatalog⟩
          intro model hmodel
          rw [List.eq_of_mem_replicate hmodel]
          exact State.reachable_initial setup.options configuration hcatalog

/-- A model is reached with the defaults that it is handed over. -/
theorem Sound.ready {session : Session} (hsound : session.Sound) {position : Nat} {model : State}
    (hmodel : session.models[position]? = some model) :
    State.Reachable { model with defaults := session.defaults, warnings := [] } :=
  (hsound.models model (List.mem_of_getElem? hmodel)).reaches (.single (.ready hsound.defaults))

/-- What a model is brought to is shared with the others. -/
theorem Sound.set {session : Session} (hsound : session.Sound) (position : Nat) {state : State}
    (hreachable : state.Reachable) :
    Session.Sound { models := session.models.set position state, defaults := state.defaults } := by
  refine ⟨?_, hreachable.sound.external, hreachable.sound.internal⟩
  intro other hother
  rcases List.mem_or_eq_of_mem_set hother with hold | rfl
  · exact hsound.models other hold
  · exact hreachable

/-- A step that uses what is there keeps the laws. -/
theorem Sound.runStep {session next : Session} {step : Step} {outcome : Outcome}
    (hsound : session.Sound) (hstep : session.runStep step = some (outcome, next))
    (huses : ∀ model, session.models[step.model]? = some model →
      (Expr.perform step.operation step.operands step.target).Uses model.Has) :
    outcome.state.Reachable ∧ next.Sound := by
  -- the model is readied, and then the operation is performed
  obtain ⟨model, hmodel, hpair⟩ := Option.map_eq_some_iff.mp hstep
  obtain ⟨rfl, rfl⟩ := Prod.mk.inj hpair
  have hmoves : State.Moves { model with defaults := session.defaults, warnings := [] }
      (State.after { model with defaults := session.defaults, warnings := [] }
        (runOperation step.operation step.operands step.target)) := by
    rw [after_runOperation]
    exact .evaluate depth (huses model hmodel)
  have hreachable := (hsound.ready hmodel).reaches (.single hmoves)
  exact ⟨hreachable, hsound.set step.model hreachable⟩

end Session

end ObjectModel
