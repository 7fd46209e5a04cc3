import ObjectModel.Proofs.Graph.Enclosed
import ObjectModel.Proofs.Reachable
import ObjectModel.Proofs.State.MethodTables

/-! # Later states

What can become of a state when nothing goes around the guards of the operations: expressions are evaluated, single
allowed changes are made, as they are while an expression is evaluated, and sessions hand over defaults. A class
that may not be changed at any time on the way keeps its methods and the modules that were mixed into it, unless the
builtin methods are installed once more.
-/

namespace ObjectModel

open Relation

namespace State

/-- One move of an object model that goes around no guard. -/
inductive Acts (state : State) : State → Prop
  /-- An expression is evaluated, whether it gives a value or is stopped. -/
  | evaluate (depth : Nat) {expression : Expr} (huses : expression.Uses state.Has) :
      Acts state (state.after (expression.evaluate (runBody depth) .nil []))
  /-- An operation makes one of its changes. -/
  | step {next : State} (hsteps : state.Steps next) : Acts state next
  /-- A session hands over the defaults that it shares, and takes the warnings. -/
  | ready {defaults : Encoding.Defaults} (hdefaults : defaults.InCatalog) :
      Acts state { state with defaults, warnings := [] }

/-- A state comes later than another one. -/
def Continues : State → State → Prop := ReflTransGen Acts

variable {first state middle later : State}

theorem continues_of_runs (hruns : state.Runs later) : state.Continues later := by
  induction hruns with
  | refl => exact .refl
  | tail _ hsteps ih => exact ih.tail (.step hsteps)

theorem Sound.acts (hsound : state.Sound) (hacts : state.Acts later) :
    later.Sound ∧ state.Grows later := by
  cases hacts with
  | evaluate depth huses => exact hsound.runs (hsound.runs_evaluate depth huses)
  | step hsteps => exact hsound.steps hsteps
  | ready hdefaults => exact hsound.moves (.ready hdefaults)

theorem Sound.continues (hsound : state.Sound) (hcontinues : state.Continues later) :
    later.Sound ∧ state.Grows later := by
  induction hcontinues with
  | refl => exact ⟨hsound, .refl state⟩
  | tail _ hacts ih =>
      obtain ⟨hnext, hgrows⟩ := ih.1.acts hacts
      exact ⟨hnext, ih.2.trans hgrows⟩

/-- The count of installations grows by each of them. -/
theorem installations_installBuiltins (state : State) :
    (Change.installBuiltins.apply state).installations = state.installations + 1 := rfl

/-- What every allowed change but an installation keeps, and what does not depend on defaults and warnings, holds of
every later state that has no more installations. Each of the changes is made in a state that comes later than the
first one, and leads to one that grows into the last one. -/
theorem Sound.continues_induct {motive : State → Prop} (hsound : first.Sound)
    (hchange : ∀ {state : State} {change : Change}, first.Continues state →
      state.installations = first.installations → (change.apply state).Grows later →
        state.Sound → change.Fits state → change.Guarded state → change ≠ .installBuiltins →
          motive state → motive (change.apply state))
    (hready : ∀ {state : State} (defaults : Encoding.Defaults), motive state →
      motive { state with defaults, warnings := [] })
    (hcontinues : first.Continues later)
    (hinstalled : later.installations = first.installations) (hfirst : motive first) :
    motive later := by
  -- one change between the first and the last state cannot be an installation
  have hstep {state next : State} (hbefore : first.Continues state) (hsteps : state.Steps next)
      (hrest : next.Grows later) (hmotive : motive state) : motive next := by
    obtain ⟨change, hfits, hguarded, rfl⟩ := hsteps
    obtain ⟨hstate, hgrows⟩ := hsound.continues hbefore
    have hmore := (hstate.apply hfits).2.installations
    have hmost := hrest.installations
    have hless := hgrows.installations
    refine hchange hbefore (by omega) hrest hstate hfits hguarded ?_ hmotive
    rintro rfl
    rw [installations_installBuiltins] at hmost
    omega
  have hruns {state next : State} (hbefore : first.Continues state) (hruns : state.Runs next)
      (hrest : next.Grows later) (hmotive : motive state) : motive next := by
    induction hruns with
    | refl => exact hmotive
    | tail hpart hsteps ih =>
        have hreached := hbefore.trans (continues_of_runs hpart)
        exact hstep hreached hsteps hrest
          (ih (((hsound.continues hreached).1.steps hsteps).2.trans hrest))
  suffices hall : ∀ {next : State}, first.Continues next → next.Grows later → motive next from
    hall hcontinues (.refl later)
  intro next hnext
  induction hnext with
  | refl => exact fun _ => hfirst
  | tail hbefore hacts ih =>
      intro hrest
      have hreached := (hsound.continues hbefore).1
      have hmotive := ih ((hreached.acts hacts).2.trans hrest)
      cases hacts with
      | evaluate depth huses =>
          exact hruns hbefore (hreached.runs_evaluate depth huses) hrest hmotive
      | step hsteps => exact hstep hbefore hsteps hrest hmotive
      | ready => exact hready _ hmotive

/-! ## Choices stay -/

/-- No change touches what was chosen when the object model was set up. -/
theorem options_apply (state : State) {change : Change} (hinstall : change ≠ .installBuiltins) :
    (change.apply state).options = state.options := by
  have hsame {α : Type} (result : Except Fault (α × Graph)) :
      (state.orSame result).options = state.options := by
    cases result <;> rfl
  cases change with
  | newClass superclass => exact hsame _
  | includeModule id mixin => exact hsame _
  | prependModule id mixin => exact hsame _
  | putVariable value => cases value <;> rfl
  | freeze value => cases value <;> rfl
  | installBuiltins => exact absurd rfl hinstall
  | _ => rfl

theorem Sound.options_of_continues (hsound : first.Sound) (hcontinues : first.Continues later)
    (hinstalled : later.installations = first.installations) : later.options = first.options :=
  hsound.continues_induct (motive := fun state => state.options = first.options)
    (fun _ _ _ _ _ _ hinstall hmotive => (options_apply _ hinstall).trans hmotive)
    (fun _ hmotive => hmotive) hcontinues hinstalled rfl

/-! ## Closed classes -/

/-- The method table of a class that is there may be changed. -/
def IsOpen (state : State) (id : ClassId) : Prop := state.graph.Has id ∧ state.IsMutable id

/-- Changing one record changes the behavior of no other class. -/
theorem sameBehavior_changeClass {changed id : ClassId} (change : ClassRecord → ClassRecord)
    (hother : id ≠ changed) :
    (state.graph.record id).SameBehavior ((state.changeClass changed change).graph.record id) := by
  rw [show (state.changeClass changed change).graph.record id = state.graph.record id from
    Graph.record_update_of_ne hother change]
  exact .refl _

theorem sameBehavior_orSame {changed id : ClassId} {change : ClassRecord → ClassRecord}
    (hother : id ≠ changed) {mixin : ClassId} {result : Except Fault (Bool × Graph)}
    (hresult : ∀ added graph, result = .ok (added, graph) →
      graph = state.graph ∨ graph = state.graph.update changed change ∧
        state.graph.Mixable changed mixin) :
    (state.graph.record id).SameBehavior ((state.orSame result).graph.record id) := by
  cases hcase : result with
  | error fault => exact .refl _
  | ok pair =>
      obtain ⟨added, graph⟩ := pair
      rcases hresult added graph hcase with rfl | ⟨rfl, _⟩
      · exact .refl _
      · exact sameBehavior_changeClass change hother

/-- An allowed change keeps the behavior of a class that is not open. -/
theorem Sound.sameBehavior_apply (hsound : state.Sound) {change : Change} (hfits : change.Fits state)
    (hguarded : change.Guarded state) (hinstall : change ≠ .installBuiltins) {id : ClassId}
    (hclosed : ¬ state.IsOpen id) :
    (state.graph.record id).SameBehavior ((change.apply state).graph.record id) := by
  have hstacked := hsound.graph.stacked
  have hother {changed : ClassId} (hchanged : state.graph.Has changed)
      (hmutable : state.IsMutable changed) : id ≠ changed := by
    rintro rfl
    exact hclosed ⟨hchanged, hmutable⟩
  have hrewrite {changed : ClassId} {change : ClassRecord → ClassRecord}
      (hchange : ∀ record : ClassRecord, record.SameBehavior (change record)) :
      (state.graph.record id).SameBehavior ((state.changeClass changed change).graph.record id) :=
    state.graph.forall_record_update changed .refl hchange id
  cases change with
  | newClass superclass =>
      rw [Change.apply]
      cases hresult : state.graph.newClass superclass with
      | error fault => exact .refl _
      | ok pair => exact (hstacked.extends_newClass hfits hresult).1.sameBehavior id
  | newModule => exact hstacked.extends_newModule.1.sameBehavior id
  | metaclassOf changed => exact (hstacked.synthesizes hfits).path.extends_graph.sameBehavior id
  | newSingleton value object => exact (state.graph.extends_add _ _ _ _).sameBehavior id
  -- the guards of these four ask for an open class
  | includeModule changed mixin =>
      exact sameBehavior_orSame (hother hfits.1 hguarded)
        fun _ _ hresult => Graph.includeModule_cases hresult
  | prependModule changed mixin =>
      exact sameBehavior_orSame (hother hfits.1 hguarded)
        fun _ _ hresult => Graph.prependModule_cases hresult
  | putMethod changed => exact sameBehavior_changeClass _ (hother hfits.1 hguarded.1)
  | eraseMethod changed => exact sameBehavior_changeClass _ (hother hfits hguarded)
  | putConstant | flagConstant | eraseConstant | nameClass =>
      exact hrewrite fun _ => ⟨rfl, rfl, rfl⟩
  | putVariable value name content =>
      cases value with
      | cls changed => exact hrewrite fun _ => ⟨rfl, rfl, rfl⟩
      | _ => exact .refl _
  | freeze value =>
      cases value with
      | cls changed => exact hrewrite fun _ => ⟨rfl, rfl, rfl⟩
      | _ => exact .refl _
  | installBuiltins => exact absurd rfl hinstall
  | _ => exact .refl _

/-- A class that is never open between two states behaves in the later one as it did in the earlier one. -/
theorem Sound.sameBehavior_of_continues (hsound : first.Sound) {id : ClassId}
    (hclosed : ∀ {state : State}, first.Continues state → state.installations = first.installations →
      state.Grows later → ¬ state.IsOpen id)
    (hcontinues : first.Continues later)
    (hinstalled : later.installations = first.installations) :
    (first.graph.record id).SameBehavior (later.graph.record id) := by
  refine hsound.continues_induct
    (motive := fun state => (first.graph.record id).SameBehavior (state.graph.record id)) ?_
    (fun _ hsame => hsame) hcontinues hinstalled (.refl _)
  intro state change hbefore hcount hrest hstate hfits hguarded hinstall hsame
  have hshut := hclosed hbefore hcount ((hstate.apply hfits).2.trans hrest)
  exact hsame.trans (hstate.sameBehavior_apply hfits hguarded hinstall hshut)

end State

end ObjectModel
