import ObjectModel.Proofs.Encoding.Resolved

/-! # Shared default encodings

The object models of a session share their default encodings. Whatever steps are run on them, in any order and even if
they overlap, what any of them reads is what the last assignment gave, no matter which of them made it.
-/

namespace ObjectModel

open Relation

namespace State

variable {state : State} {run : Runner} {value : Value}

/-- An assignment first finds out what its value stands for, where the method that converts the value may assign
defaults itself, and then makes its own assignment or is stopped. -/
theorem Sound.assigns (hsound : state.Sound) (hrun : run.Safe)
    (hvalue : state.Has value ∨ ∃ id, value = .encoding id) :
    ∃ converted resolved, state.Resolves run value converted resolved ∧
      state.defaults.Follows converted.defaults ∧
        state.AssignsInternal run value converted resolved ∧
          state.AssignsExternal run value converted resolved := by
  refine ⟨_, _, hsound.resolves hvalue run, ?_, state.assignsInternal run value,
    state.assignsExternal run value⟩
  rcases hvalue with hthere | ⟨id, rfl⟩
  · exact hsound.follows_of_runs (leads_encodingArgument hrun hthere hsound).1
  · exact .refl _

end State

/-- A step without operands. -/
def Step.plain (model : Nat) (operation : Operation Expr) : Step :=
  { model, operation, operands := [], target := none }

namespace Session

variable {session first next last : Session}

/-! ## Steps that overlap -/

/-- One move of a session. -/
inductive Acts (session : Session) : Session → Prop
  /-- A step that uses what is there is run on one of the models. -/
  | step {step : Step} {outcome : Outcome} {next : Session}
      (hstep : session.runStep step = some (outcome, next))
      (huses : ∀ model, session.models[step.model]? = some model →
        (Expr.perform step.operation step.operands step.target).Uses model.Has) :
      Acts session next
  /-- A step that is not over makes one of its changes, so that others may have come between. -/
  | change {position : Nat} {model state : State} (hmodel : session.models[position]? = some model)
      (hsteps : State.Steps { model with defaults := session.defaults } state) :
      Acts session { models := session.models.set position state, defaults := state.defaults }

/-- A session comes later than another one. -/
def Becomes : Session → Session → Prop := ReflTransGen Acts

/-- A step of a session goes from defaults to what comes of them by assignments. -/
theorem Sound.acts (hsound : session.Sound) (hacts : session.Acts next) :
    next.Sound ∧ session.defaults.Follows next.defaults ∧
      next.models.length = session.models.length := by
  cases hacts with
  | step hstep huses =>
      refine ⟨(hsound.runStep hstep huses).2, ?_⟩
      obtain ⟨model, hmodel, hpair⟩ := Option.map_eq_some_iff.mp hstep
      obtain ⟨-, rfl⟩ := Prod.mk.inj hpair
      refine ⟨?_, List.length_set ..⟩
      have hready := (hsound.ready hmodel).sound
      have hruns := hready.runs_evaluate depth (huses model hmodel)
      rw [← after_runOperation] at hruns
      exact hready.follows_of_runs hruns
  | @change position model state hmodel hsteps =>
      have hfits : (Change.assignDefaults session.defaults).Fits model := hsound.defaults
      have hready : State.Reachable { model with defaults := session.defaults } :=
        (hsound.models model (List.mem_of_getElem? hmodel)).reaches (.single (.change hfits))
      have hfollows := hready.sound.follows_of_runs (.single hsteps)
      obtain ⟨change, hchange, -, rfl⟩ := hsteps
      have hreachable := hready.reaches (.single (.change hchange))
      exact ⟨hsound.set position hreachable, hfollows, List.length_set ..⟩

theorem Sound.becomes (hsound : first.Sound) (hbecomes : first.Becomes last) :
    last.Sound ∧ first.defaults.Follows last.defaults ∧
      last.models.length = first.models.length := by
  induction hbecomes with
  | refl => exact ⟨hsound, .refl _, rfl⟩
  | tail _ hacts ih =>
      obtain ⟨hbefore, hfollows, hlength⟩ := ih
      obtain ⟨hnext, hmore, hsame⟩ := hbefore.acts hacts
      exact ⟨hnext, hfollows.trans hmore, hsame.trans hlength⟩

/-! ## Reading -/

/-- What a step answers. -/
def answer? (session : Session) (step : Step) : Option (Except Halt Answer) :=
  (session.runStep step).map fun pair => pair.1.result

theorem answer_defaultInternal {position : Nat} (hposition : position < session.models.length) :
    session.answer? (.plain position .defaultInternal) =
      some (.ok (.value (session.defaults.internal.elim .nil .encoding))) := by
  have hread (model : State) (defaults : Encoding.Defaults) :
      State.defaultInternal { model with defaults, warnings := [] } =
        defaults.internal.elim .nil .encoding := by
    rw [State.defaultInternal]
    cases defaults.internal <;> rfl
  rw [← hread session.models[position], answer?, runStep, Step.plain,
    List.getElem?_eq_getElem hposition]
  rfl

theorem answer_defaultExternal {position : Nat} (hposition : position < session.models.length) :
    session.answer? (.plain position .defaultExternal) =
      some (.ok (.value (.encoding session.defaults.external))) := by
  rw [answer?, runStep, Step.plain, List.getElem?_eq_getElem hposition]
  rfl

/-! ## The last assignment -/

theorem defaults_start {setup : Setup} (hstart : start setup = .ok first) :
    first.models.length = setup.models ∧ first.defaults.log = [] ∧
      first.defaults.internal = none ∧
        Encoding.find? setup.options.defaultExternal = some first.defaults.external := by
  rw [start, Encoding.Defaults.ofName, Encoding.named] at hstart
  cases hfind : Encoding.find? setup.options.defaultExternal with
  | none =>
      rw [hfind] at hstart
      cases hstart
  | some encoding =>
      rw [hfind] at hstart
      cases hsource : Config.Settings.ofSource setup.configuration setup.options.policy with
      | error failure =>
          rw [hsource] at hstart
          cases hstart
      | ok configuration =>
          rw [hsource] at hstart
          obtain rfl := Except.ok.inj hstart
          exact ⟨List.length_replicate, rfl, rfl, rfl⟩

/-- Whatever is done with the models of a session, and even if steps on several of them overlap, the external default is
in the catalog and all models read the same: of each default what the last assignment to it gave it. Before the
first one there is no internal default, and the external one is as it was chosen. An assignment in any sound state
first finds out what its value stands for, and then it either changes its own default and nothing else, or it is
stopped and changes nothing itself. -/
theorem reads_last_assignment {setup : Setup} (hstart : start setup = .ok first)
    (hbecomes : first.Becomes last) :
    (first.defaults.log = [] ∧ first.defaults.internal = none ∧
      Encoding.find? setup.options.defaultExternal = some first.defaults.external) ∧
    (last.Sound ∧ last.defaults.external.index < Encoding.catalog.length) ∧
    (∀ position < setup.models,
      last.answer? (.plain position .defaultInternal) = some (.ok (.value
        ((Encoding.lastInternal first.defaults.internal last.defaults.log).elim .nil .encoding))) ∧
      last.answer? (.plain position .defaultExternal) = some (.ok (.value
        (.encoding (Encoding.lastExternal first.defaults.external last.defaults.log))))) ∧
    ∀ (state : State) (run : Runner) (value : Value), state.Sound → run.Safe →
      (state.Has value ∨ ∃ id, value = .encoding id) →
        ∃ converted resolved, state.Resolves run value converted resolved ∧
          state.defaults.Follows converted.defaults ∧
            state.AssignsInternal run value converted resolved ∧
              state.AssignsExternal run value converted resolved := by
  obtain ⟨hmodels, hchosen⟩ := defaults_start hstart
  obtain ⟨hsound, hfollows, hlength⟩ := (sound_start hstart).becomes hbecomes
  obtain ⟨hinternal, hexternal⟩ := hfollows.eq_last hchosen.1
  refine ⟨hchosen, ⟨hsound, hsound.defaults.1⟩, ?_, ?_⟩
  · intro position hposition
    rw [← hmodels, ← hlength] at hposition
    rw [answer_defaultInternal hposition, answer_defaultExternal hposition, hinternal, hexternal]
    exact ⟨rfl, rfl⟩
  · exact fun state run value hstate hrun hvalue => hstate.assigns hrun hvalue

/-- The session after a step, which is the same if there is no such model. -/
def follow (session : Session) (step : Step) : Session :=
  (session.runStep step).elim session Prod.snd

/-- Steps that name no values may be run one after the other. -/
theorem becomes_foldl {steps : List Step}
    (huses : ∀ step ∈ steps, ∀ ok,
      (Expr.perform step.operation step.operands step.target).Uses ok) (session : Session) :
    session.Becomes (steps.foldl follow session) := by
  induction steps generalizing session with
  | nil => exact .refl
  | cons step rest ih =>
      have hrest := ih (fun other hother => huses other (List.mem_cons_of_mem _ hother))
      refine ReflTransGen.trans ?_ (hrest (session.follow step))
      rw [follow]
      cases hstep : session.runStep step with
      | none => exact .refl
      | some pair =>
          exact .single (.step hstep fun model _ => huses step List.mem_cons_self model.Has)

/-- A model reads what another one assigned, also what was assigned while a value was converted, and not what it
could not assign itself. -/
theorem reads_among_conversions :
    let conversion := Expr.sequence
      [.perform .setDefaultExternal [.text "UTF-7"] none, .text "Shift_JIS"]
    let steps : List Step :=
      [⟨0, .instantiate, [.classAt ["Object"]], some "label"⟩,
        ⟨0, .defineSingletonMethod "to_str" conversion, [.named "label"], none⟩,
        ⟨1, .setDefaultInternal, [.encoding "US-ASCII"], none⟩,
        ⟨0, .setDefaultInternal, [.named "label"], none⟩,
        ⟨1, .setDefaultExternal, [.text "no encoding"], none⟩]
    let first : Session := ⟨[State.plain, State.plain], .standard⟩
    let last := steps.foldl follow first
    last.defaults.log = [.internal (some ⟨2⟩), .external ⟨11⟩, .internal (some ⟨8⟩)] ∧
      last.answer? (.plain 1 .defaultInternal) = some (.ok (.value (.encoding ⟨8⟩))) ∧
      last.answer? (.plain 1 .defaultExternal) = some (.ok (.value (.encoding ⟨11⟩))) := by
  intro conversion steps first last
  have hstart : start ⟨.standard, ⟨.pairs [], false⟩, 2⟩ = .ok first := by
    have hname : Encoding.Defaults.ofName Options.standard.defaultExternal = .ok .standard := by
      decide +kernel
    rw [start, hname]
    rfl
  have hlog : last.defaults.log = [.internal (some ⟨2⟩), .external ⟨11⟩, .internal (some ⟨8⟩)] := by
    decide +kernel
  have huses : ∀ step ∈ steps, ∀ ok,
      (Expr.perform step.operation step.operands step.target).Uses ok := by
    have hone {ok : Value → Prop} {operand : Expr} (hoperand : operand.Uses ok) :
        ∀ other ∈ [operand], other.Uses ok := List.forall_mem_singleton.mpr hoperand
    have hconversion (ok : Value → Prop) : conversion.Uses ok :=
      .sequence (List.forall_mem_cons.mpr ⟨.perform none nofun (hone (.text _)), hone (.text _)⟩)
    simp only [steps, List.forall_mem_cons]
    exact ⟨fun ok => .perform _ nofun (hone (.classAt _)),
      fun ok => .perform _ (hone (hconversion ok)) (hone (.named _)),
      fun ok => .perform _ nofun (hone (.encoding _)),
      fun ok => .perform _ nofun (hone (.named _)),
      fun ok => .perform _ nofun (hone (.text _)), nofun⟩
  have hbecomes : first.Becomes last := becomes_foldl huses first
  have hread := (reads_last_assignment hstart hbecomes).2.2.1 1 Nat.one_lt_two
  rw [hlog] at hread
  exact ⟨hlog, hread⟩

end Session

end ObjectModel
