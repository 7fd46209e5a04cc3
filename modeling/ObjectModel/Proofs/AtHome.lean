import ObjectModel.Proofs.Agreement

/-! # Builtin methods run at home

While builtin methods come only from their installation, calls run them only on receivers that have the class for which
they are meant among the ancestors where the search for their methods begins. That is said of the calls themselves: they
come to the same, whatever would be done with a body that is not at home. So builtin methods can rely on their
receivers.
-/

namespace ObjectModel

/-- Runs a body if it is at home where the search for the methods of the receiver begins, and leaves it to another
way to run bodies if not. -/
def Runner.atHome (run elsewhere : Runner) : Runner := fun body receiver arguments => do
  let start ← dispatchClass receiver
  let state ← get
  if state.isAtHome start receiver body then run body receiver arguments
  else elsewhere body receiver arguments

/-- Runs bodies like `runBody`, and leaves those that are not at home to another way to run bodies. -/
def runAtHome (elsewhere : Runner) : Nat → Runner
  | 0 => fun _ _ _ => throw .exhausted
  | depth + 1 => Runner.atHome (Body.runWith (runAtHome elsewhere depth)) elsewhere

namespace State

variable {state later : State} {run elsewhere : Runner}

theorem run_atHome {start : ClassId} {body : Body} {receiver : Value} (arguments : List Value)
    (hstart : state.start receiver = (start, state)) (hhome : state.isAtHome start receiver body) :
    (run.atHome elsewhere body receiver arguments).run.run state =
      (run body receiver arguments).run.run state := by
  rw [Runner.atHome, run_dispatchClass_bind, hstart, run_get_bind, if_pos hhome]

theorem agreesWith_atHome (run elsewhere : Runner) : run.AgreesWith (run.atHome elsewhere) :=
  fun _ _ _ hstart hhome _ _ => run_atHome _ hstart hhome

/-- Leaving bodies that are not at home to another way to run them makes no difference, however deeply calls are
nested. -/
theorem agreesWith_runAtHome (elsewhere : Runner) (depth : Nat) :
    (runBody depth).AgreesWith (runAtHome elsewhere depth) := by
  induction depth with
  | zero => exact fun _ _ _ _ _ => .refl _
  | succ depth ih =>
      intro state start body receiver arguments hbody hreceiver harguments hstart hhome hsound hhoused
      rw [runAtHome, run_atHome arguments hstart hhome, runBody]
      exact agrees_runWith ih (safe_runBody depth) hbody hreceiver harguments hsound hhoused

/-! ## Genuine states -/

/-- A state to which a new object model can be brought while builtin methods come only from their installation:
of the changes that are made directly, none puts in a builtin body that the class does not have already. -/
inductive Genuine : State → Prop
  | initial (options : Options) {defaults : Encoding.Defaults} (configuration : Config.Settings)
      (hdefaults : defaults.InCatalog) : Genuine (initial options defaults configuration)
  | evaluate {state : State} (hstate : Genuine state) (depth : Nat) {expression : Expr}
      (huses : expression.Uses state.Has) :
      Genuine (state.after (expression.evaluate (runBody depth) .nil []))
  | change {state : State} (hstate : Genuine state) {change : Change} (hfits : change.Fits state)
      (hcopies : change.Copies state) : Genuine (change.apply state)
  | ready {state : State} (hstate : Genuine state) {defaults : Encoding.Defaults}
      (hdefaults : defaults.InCatalog) : Genuine { state with defaults, warnings := [] }

theorem housed_initial (options : Options) (defaults : Encoding.Defaults)
    (configuration : Config.Settings) : (initial options defaults configuration).graph.Housed := by
  rw [graph_initial]
  exact housed_standard

namespace Genuine

theorem reachable (hgenuine : state.Genuine) : state.Reachable := by
  induction hgenuine with
  | initial options configuration hdefaults => exact reachable_initial options configuration hdefaults
  | evaluate _ depth huses ih => exact ih.reaches (.single (.evaluate depth huses))
  | change _ hfits _ ih => exact ih.reaches (.single (.change hfits))
  | ready _ hdefaults ih => exact ih.reaches (.single (.ready hdefaults))

/-- In every genuine state builtin methods stand at home. -/
theorem housed (hgenuine : state.Genuine) : state.graph.Housed := by
  induction hgenuine with
  | initial options configuration => exact housed_initial options _ configuration
  | evaluate hstate depth huses ih =>
      have hsound := hstate.reachable.sound
      exact hsound.housed_runs (hsound.runs_evaluate depth huses) ih
  | change hstate hfits hcopies ih => exact hstate.reachable.sound.housed_apply ih hfits hcopies
  | ready _ _ ih => exact ih

/-- Every state on the way of a run is genuine. -/
theorem runs (hgenuine : state.Genuine) (hruns : state.Runs later) : later.Genuine := by
  induction hruns with
  | refl => exact hgenuine
  | tail _ hsteps ih =>
      obtain ⟨change, hfits, hguarded, rfl⟩ := hsteps
      exact .change ih hfits hguarded.copies

end Genuine

/-! ## Calls in genuine states -/

/-- A builtin method that is at home has its home among the ancestors, and its receiver passes the checks of the
core class for whose instances the method is meant, and of the one that its routine needs. -/
theorem passes_of_isAtHome {start : ClassId} {receiver : Value} {builtin : Builtin}
    {installation : Nat} (hhome : state.isAtHome start receiver (.builtin builtin installation)) :
    (∃ home, state.graph.home? builtin = some home ∧ home ∈ state.graph.ancestors start) ∧
      (builtin.onMetaclass = false → state.Passes receiver builtin.owner) ∧
      ∀ core, builtin.routine.needs? = some core → state.Passes receiver core := by
  rw [isAtHome, Bool.and_eq_true, Bool.or_eq_true] at hhome
  obtain ⟨hhouses, hsuits⟩ := hhome
  obtain ⟨hregistered, hancestor⟩ := Graph.houses_builtin.mp hhouses
  have howner : builtin.onMetaclass = false → state.Passes receiver builtin.owner := by
    intro hmeta
    rw [hmeta, Bool.false_eq_true, false_or] at hsuits
    exact passes_of_suits hsuits
  refine ⟨hancestor, howner, ?_⟩
  intro core hneeds
  obtain ⟨hmeta, rfl⟩ := Builtin.owner_of_needs hregistered hneeds
  exact howner hmeta

/-- In every state that can be reached while builtin methods come only from their installation, calls run only
bodies that are at home: a call by a name or a symbol, and the fallback to the hook for missing methods, come
to the same whatever is done with other bodies, and so does the evaluation of an expression through all the
calls that it makes, in states that are again of this kind. For a builtin body to be at home means that the core
class for which it is registered, or its metaclass, is among the ancestors of the class where the search for the
methods of the receiver begins. Then no check of the receiver fails, and the text of a float is asked only of
floats. -/
theorem builtins_run_at_home (hgenuine : state.Genuine) :
    (∀ (run elsewhere : Runner) (checked : Bool) (receiver : Value) (arguments : List Value),
      state.Has receiver → (∀ value ∈ arguments, state.Has value) →
        (∀ name, (dispatchName (run.atHome elsewhere) checked receiver name arguments).run.run state =
          (dispatchName run checked receiver name arguments).run.run state) ∧
        ∀ symbol, state.names.Has symbol →
          (dispatch (run.atHome elsewhere) checked receiver symbol arguments).run.run state =
            (dispatch run checked receiver symbol arguments).run.run state ∧
          (callMissing (run.atHome elsewhere) receiver symbol arguments).run.run state =
            (callMissing run receiver symbol arguments).run.run state) ∧
    (∀ (elsewhere : Runner) (depth : Nat) (expression : Expr), expression.Uses state.Has →
      (expression.evaluate (runAtHome elsewhere depth) .nil []).run.run state =
        (expression.evaluate (runBody depth) .nil []).run.run state ∧
      state.Runs (state.after (expression.evaluate (runBody depth) .nil []))) ∧
    (∀ later, state.Runs later → later.Genuine) ∧
    ∀ start receiver builtin installation,
      state.isAtHome start receiver (.builtin builtin installation) →
        (∃ home, state.graph.home? builtin = some home ∧ home ∈ state.graph.ancestors start) ∧
        (builtin.onMetaclass = false → state.Passes receiver builtin.owner) ∧
        ∀ core, builtin.routine.needs? = some core → state.Passes receiver core := by
  have hsound := hgenuine.reachable.sound
  have hhoused := hgenuine.housed
  refine ⟨?_, ?_, fun _ => hgenuine.runs, fun _ _ _ _ => passes_of_isAtHome⟩
  · intro run elsewhere checked receiver arguments hreceiver harguments
    have hagrees : run.AgreesWith (run.atHome elsewhere) := agreesWith_atHome run elsewhere
    refine ⟨?_, fun symbol hsymbol => ⟨?_, ?_⟩⟩
    · exact fun name =>
        agrees_dispatchName hagrees checked name hreceiver harguments hsound hhoused
    · exact agrees_dispatch hagrees checked hreceiver hsymbol harguments hsound hhoused
    · exact agrees_callMissing hagrees hreceiver hsymbol harguments hsound hhoused
  · intro elsewhere depth expression huses
    refine ⟨?_, hsound.runs_evaluate depth huses⟩
    have hreceiver : state.Has .nil := trivial
    exact agrees_evaluate (agreesWith_runAtHome elsewhere depth) (safe_runBody depth) huses
      (fun _ hvalue => hvalue) hreceiver (by simp) hsound hhoused

/-- A copy of the method for the text of integers is run on an integer, whatever would be done with bodies that
are not at home, and the check that it makes of the integer goes through. -/
theorem copy_runs_at_home :
    let copy := (Expr.perform (.aliasMethod "digits" "to_s") [.classAt ["Integer"]] none).evaluate
      (runBody 1) .nil []
    let state := plain.after copy
    let body := Body.builtin ⟨.integer, false, .number .integerText⟩ 0
    (∀ elsewhere, state.result (send ((runBody 1).atHome elsewhere) (.int 7) "digits" []) =
      .ok (.str ⟨0⟩)) ∧
    state.isAtHome CoreClass.integer.id (.int 7) body ∧
    ∃ number, (Builtin.expectInt (.int 7)).run.run state = (.ok number, state) := by
  intro copy state body
  have huses : (Expr.perform (.aliasMethod "digits" "to_s") [.classAt ["Integer"]] none).Uses
      plain.Has := .perform none (fun _ hbody => absurd hbody List.not_mem_nil)
        (List.forall_mem_singleton.mpr (.classAt ["Integer"]))
  have hplain : plain.Genuine :=
    .initial Options.standard Config.Settings.empty ⟨by decide, by decide⟩
  have hgenuine : state.Genuine := hplain.evaluate 1 huses
  have hrest : ∀ reached : State, reached.Genuine →
      reached.result (send (runBody 1) (.int 7) "digits" []) = .ok (.str ⟨0⟩) →
      reached.isAtHome CoreClass.integer.id (.int 7) body →
      (∀ elsewhere, reached.result (send ((runBody 1).atHome elsewhere) (.int 7) "digits" []) =
        .ok (.str ⟨0⟩)) ∧
      reached.isAtHome CoreClass.integer.id (.int 7) body ∧
      ∃ number, (Builtin.expectInt (.int 7)).run.run reached = (.ok number, reached) := by
    intro reached hgenuine hresult hhome
    obtain ⟨hcalls, _, _, hpasses⟩ := builtins_run_at_home hgenuine
    refine ⟨?_, hhome, (hpasses _ _ _ _ hhome).2.1 rfl⟩
    intro elsewhere
    obtain ⟨hnamed, _⟩ := hcalls (runBody 1) elsewhere false (.int 7) [] trivial (by simp)
    exact (congrArg Prod.fst (hnamed "digits")).trans hresult
  have hfacts : state.result (send (runBody 1) (.int 7) "digits" []) = .ok (.str ⟨0⟩) ∧
      state.isAtHome CoreClass.integer.id (.int 7) body := by decide +kernel
  exact hrest state hgenuine hfacts.1 hfacts.2

end State

end ObjectModel
