import Mathlib.Logic.Relation
import ObjectModel.Proofs.State.Preservation

/-! # Runs and what actions lead to

A run is a sequence of changes each of which is allowed where it is made. An action leads to a property of its result if
it does nothing but such a run, whether it ends or is stopped, and if its result has the property whenever it
ends. The rules follow the way in which actions are put together.
-/

namespace ObjectModel

open Relation

namespace State

/-- One change whose parts are there and whose guards allow it. -/
def Steps (first second : State) : Prop :=
  ∃ change : Change, change.Fits first ∧ change.Guarded first ∧ second = change.apply first

/-- Any number of changes, one after the other. -/
def Runs : State → State → Prop := ReflTransGen Steps

theorem Sound.steps {first second : State} (hsound : first.Sound) (hsteps : first.Steps second) :
    second.Sound ∧ first.Grows second := by
  obtain ⟨change, hfits, _, rfl⟩ := hsteps
  exact hsound.apply hfits

/-- A run keeps the laws. -/
theorem Sound.runs {first second : State} (hsound : first.Sound) (hruns : first.Runs second) :
    second.Sound ∧ first.Grows second := by
  induction hruns with
  | refl => exact ⟨hsound, .refl first⟩
  | tail _ hsteps ih =>
      obtain ⟨hnext, hgrows⟩ := ih.1.steps hsteps
      exact ⟨hnext, ih.2.trans hgrows⟩

/-- What every allowed change keeps is kept by a run. -/
theorem Sound.runs_induct {first second : State} {motive : State → Prop} (hsound : first.Sound)
    (hchange : ∀ {state : State} {change : Change}, state.Sound → change.Fits state →
      change.Guarded state → motive state → motive (change.apply state))
    (hruns : first.Runs second) (hfirst : motive first) : motive second := by
  induction hruns with
  | refl => exact hfirst
  | tail hbefore hsteps ih =>
      obtain ⟨change, hfits, hguarded, rfl⟩ := hsteps
      exact hchange (hsound.runs hbefore).1 hfits hguarded ih

/-! ## Outcomes -/

section

variable {α β : Type}

/-- The result of an action, or why it was stopped. -/
def result (state : State) (act : Action α) : Except Halt α := (act.run.run state).1

/-- The state after an action, however it ended. -/
def after (state : State) (act : Action α) : State := (act.run.run state).2

theorem run_bind (state : State) (act : Action α) (next : α → Action β) :
    (act >>= next).run.run state =
      match act.run.run state with
      | (.ok value, middle) => (next value).run.run middle
      | (.error halt, middle) => (.error halt, middle) := by
  change (ExceptT.bindCont next (act.run.run state).1).run (act.run.run state).2 = _
  cases act.run.run state with
  | mk result middle => cases result <;> rfl

theorem run_bind_of_ok {state middle : State} {act : Action α} {value : α}
    (hact : act.run.run state = (.ok value, middle)) (next : α → Action β) :
    (act >>= next).run.run state = (next value).run.run middle := by
  rw [run_bind, hact]

theorem run_ask_bind (state : State) (read : State → α) (next : α → Action β) :
    (ask read >>= next).run.run state = (next (read state)).run.run state := rfl

theorem run_get_bind (state : State) (next : State → Action β) :
    (get >>= next).run.run state = (next state).run.run state := rfl

theorem after_bind (state : State) (act : Action α) (next : α → Action β) :
    state.after (act >>= next) =
      match state.result act with
      | .ok value => (state.after act).after (next value)
      | .error _ => state.after act := by
  rw [after, run_bind, result, after]
  cases act.run.run state with
  | mk outcome middle => cases outcome <;> rfl

/-- An action that ends with a result is made of parts that do. -/
theorem result_bind {state : State} {act : Action α} {next : α → Action β} {value : β}
    (hresult : state.result (act >>= next) = .ok value) :
    ∃ middle, state.result act = .ok middle ∧ (state.after act).result (next middle) = .ok value ∧
      state.after (act >>= next) = (state.after act).after (next middle) := by
  rw [after_bind]
  rw [result, run_bind] at hresult
  rw [result, after]
  cases hcase : act.run.run state with
  | mk outcome reached =>
      rw [hcase] at hresult
      cases outcome with
      | error halt => cases hresult
      | ok middle => exact ⟨middle, rfl, hresult, rfl⟩

/-- What an action leads to: a run, and a property of its result where it has one. -/
def Leads (state : State) (act : Action α) (post : State → α → Prop) : Prop :=
  state.Sound → state.Runs (state.after act) ∧
    ∀ value, state.result act = .ok value → post (state.after act) value

/-- What an action leads to that leaves the state as it is. -/
abbrev Looks (state : State) (act : Action α) (post : α → Prop) : Prop :=
  state.Leads act fun reached value => reached = state ∧ post value

namespace Leads

variable {state : State} {act : Action α} {next : α → Action β}
  {post middle : State → α → Prop} {last : State → β → Prop}

/-- The laws may be used to show what an action leads to. -/
theorem ofSound (hleads : state.Sound → state.Leads act post) : state.Leads act post :=
  fun hsound => hleads hsound hsound

theorem pure {value : α} (hpost : post state value) : state.Leads (pure value) post := by
  intro _
  refine ⟨.refl, ?_⟩
  intro other hresult
  obtain rfl := Except.ok.inj hresult
  exact hpost

theorem throw (halt : Halt) : state.Leads (throw halt : Action α) post := by
  intro _
  refine ⟨.refl, ?_⟩
  intro value hresult
  cases hresult

theorem refuse (fault : Fault) : state.Leads (ObjectModel.refuse fault : Action α) post :=
  throw (.fault fault)

theorem bind (hact : state.Leads act middle)
    (hnext : ∀ reached value, state.Grows reached → middle reached value →
      reached.Leads (next value) last) : state.Leads (act >>= next) last := by
  -- the laws hold again where the second action begins, so what it leads to can be used
  intro hsound
  obtain ⟨hruns, hmiddle⟩ := hact hsound
  have hreached := hsound.runs hruns
  rw [after, result, run_bind]
  cases hcase : act.run.run state with
  | mk outcome reached =>
      have hafter : state.after act = reached := congrArg Prod.snd hcase
      have hresult : state.result act = outcome := congrArg Prod.fst hcase
      rw [hafter] at hruns hmiddle hreached
      cases outcome with
      | error halt => exact ⟨hruns, fun value herror => by cases herror⟩
      | ok value =>
          have hrest := hnext reached value hreached.2 (hmiddle value hresult) hreached.1
          exact ⟨hruns.trans hrest.1, hrest.2⟩

theorem look_bind {found : α → Prop} (hact : state.Looks act found)
    (hnext : ∀ value, found value → state.Leads (next value) last) :
    state.Leads (act >>= next) last := by
  apply hact.bind
  rintro reached value - ⟨hsame, hfound⟩
  exact hsame ▸ hnext value hfound

theorem mono (hact : state.Leads act middle)
    (himp : ∀ reached value, state.Grows reached → middle reached value → post reached value) :
    state.Leads act post := by
  intro hsound
  obtain ⟨hruns, hmiddle⟩ := hact hsound
  exact ⟨hruns, fun value hresult =>
    himp _ value (hsound.runs hruns).2 (hmiddle value hresult)⟩

/-- An action that makes one change. -/
theorem change (change : Change) (hafter : state.after act = change.apply state)
    (hfits : state.Sound → change.Fits state) (hguarded : change.Guarded state)
    (hpost : ∀ value, state.result act = .ok value → post (change.apply state) value) :
    state.Leads act post := by
  intro hsound
  rw [hafter]
  exact ⟨.single ⟨change, hfits hsound, hguarded, rfl⟩, hpost⟩

theorem get_bind {next : State → Action β} (hnext : state.Leads (next state) last) :
    state.Leads (get >>= next) last := hnext

theorem ask {read : State → α} (hpost : post state (read state)) :
    state.Leads (ObjectModel.ask read) post := pure hpost

theorem ask_bind {read : State → α} (hnext : state.Leads (next (read state)) last) :
    state.Leads (ObjectModel.ask read >>= next) last := hnext

/-- Nothing comes after an action that always stops. -/
theorem stop_bind (hact : state.Leads act fun _ _ => False) :
    state.Leads (act >>= next) last :=
  hact.bind fun _ _ _ hfalse => hfalse.elim

theorem refuse_bind (fault : Fault) : state.Leads (ObjectModel.refuse fault >>= next) last := by
  intro _
  refine ⟨.refl, ?_⟩
  intro value hresult
  cases hresult

theorem pure_bind {value : α} (hnext : state.Leads (next value) last) :
    state.Leads (Pure.pure value >>= next) last := hnext

theorem settle_bind {outcome : Except Fault α}
    (hnext : ∀ value, outcome = .ok value → state.Leads (next value) last) :
    state.Leads (settle outcome >>= next) last := by
  cases outcome with
  | error fault => exact refuse_bind fault
  | ok value => exact hnext value rfl

theorem ite {condition : Prop} [Decidable condition] {yes no : Action α}
    (hyes : condition → state.Leads yes post) (hno : ¬ condition → state.Leads no post) :
    state.Leads (if condition then yes else no) post := by
  split
  next hcondition => exact hyes hcondition
  next hcondition => exact hno hcondition

end Leads

end

end State

end ObjectModel
