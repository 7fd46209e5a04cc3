import ObjectModel.Proofs.Renumber.State
import ObjectModel.Proofs.State.Run

/-! # Actions side by side

Two actions run side by side, the second one with other installation numbers in the state. They are parallel if
they end with the same result and in the same state but for the numbers. They may part only if a later
installation gets the number of the first one, and only where the second action is stopped because a value has
no method of a name that was never interned. What is put together of parallel actions is parallel; that is found
by looking for instances.
-/

namespace ObjectModel

/-- Other numbers for installations: the first one keeps its number, and from a count on the numbers go up one
by one. -/
structure Renumbering (number : Nat → Nat) (count : Nat) : Prop where
  first : number 0 = 0
  next : ∀ {later}, count ≤ later → number (later + 1) = number later + 1

/-- A later installation gets the number of the first one. -/
def HidesFirst (number : Nat → Nat) : Prop := ∃ later, later ≠ 0 ∧ number later = 0

theorem Renumbering.later {number : Nat → Nat} {count later : Nat} (hnumber : Renumbering number count)
    (hlater : count ≤ later) : Renumbering number later :=
  ⟨hnumber.first, fun hmore => hnumber.next (hlater.trans hmore)⟩

namespace State

variable {α β : Type}

/-- An action is stopped because a value has no method of a name, and the name is unknown. -/
def LacksName (state : State) (act : Action α) : Prop :=
  ∃ name receiver, state.result act = .error (.fault (.noMethod name receiver)) ∧
    (state.after act).names.find? name = none

/-- Another action does the same with other installation numbers, and no installation is taken back. -/
structure RunsAlike (state : State) (number : Nat → Nat) (act other : Action α) : Prop where
  result : (state.renumber number).result other = state.result act
  after : (state.renumber number).after other = (state.after act).renumber number
  installations : state.installations ≤ (state.after act).installations

variable {state : State} {number : Nat → Nat} {act other : Action α} {next last : α → Action β}

theorem result_bind_eq (state : State) (act : Action α) (next : α → Action β) :
    state.result (act >>= next) =
      match state.result act with
      | .ok value => (state.after act).result (next value)
      | .error halt => .error halt := by
  rw [result, run_bind, result, after]
  cases act.run.run state with
  | mk outcome middle => cases outcome <;> rfl

/-- Changing the state in ways that differ at most in the numbers. -/
theorem RunsAlike.modify {change otherChange : State → State}
    (hchange : otherChange (state.renumber number) = (change state).renumber number)
    (hcount : state.installations ≤ (change state).installations) :
    state.RunsAlike number (modify change : Action Unit) (modify otherChange) :=
  ⟨rfl, hchange, hcount⟩

/-- Actions run alike if others do that come to the same. -/
theorem runs_of_eq {way otherWay : Action α} (hact : act.run.run state = way.run.run state)
    (hother : other.run.run (state.renumber number) = otherWay.run.run (state.renumber number))
    (hruns : state.RunsAlike number way otherWay ∨
      HidesFirst number ∧ (state.renumber number).LacksName otherWay) :
    state.RunsAlike number act other ∨ HidesFirst number ∧ (state.renumber number).LacksName other := by
  rcases hruns with ⟨hresult, hafter, hcount⟩ | ⟨hhides, hlacks⟩
  · refine .inl ⟨?_, ?_, ?_⟩
    · rwa [State.result, State.result, hact, hother]
    · rwa [State.after, State.after, hact, hother]
    · rwa [State.after, hact]
  · refine .inr ⟨hhides, ?_⟩
    rwa [LacksName, State.result, State.after, hother]

theorem result_map (state : State) (change : α → β) (act : Action α) :
    state.result (change <$> act) = (state.result act).map change := by
  rw [map_eq_pure_bind, result_bind_eq]
  cases state.result act <;> rfl

theorem after_map (state : State) (change : α → β) (act : Action α) :
    state.after (change <$> act) = state.after act := by
  rw [map_eq_pure_bind, after_bind]
  cases state.result act <;> rfl

/-- What stops an action stops all that comes after it. -/
theorem LacksName.bind (hlacks : state.LacksName act) (next : α → Action β) :
    state.LacksName (act >>= next) := by
  obtain ⟨name, receiver, hresult, hname⟩ := hlacks
  refine ⟨name, receiver, ?_, ?_⟩
  · rw [result_bind_eq, hresult]
  · rwa [after_bind, hresult]

/-- What lacks a name after an action that ended lacks it together with that action. -/
theorem LacksName.after {value : α} (hresult : state.result act = .ok value)
    (hlacks : (state.after act).LacksName (next value)) : state.LacksName (act >>= next) := by
  obtain ⟨name, receiver, hstopped, hname⟩ := hlacks
  refine ⟨name, receiver, ?_, ?_⟩
  · rwa [result_bind_eq, hresult]
  · rwa [after_bind, hresult]

/-- Actions that are stopped in the same way, whatever was to come after them. -/
theorem RunsAlike.stop {halt : Halt} (hresult : state.result act = .error halt)
    (hother : (state.renumber number).result other = .error halt)
    (hafter : (state.renumber number).after other = (state.after act).renumber number)
    (hcount : state.installations ≤ (state.after act).installations) :
    state.RunsAlike number (act >>= next) (other >>= last) := by
  refine ⟨?_, ?_, ?_⟩
  · rw [result_bind_eq, hother, result_bind_eq, hresult]
  · rw [after_bind, hother, after_bind, hresult]
    exact hafter
  · rw [after_bind, hresult]
    exact hcount

/-- Actions that run alike up to their values, and what comes after them with these values. -/
theorem RunsAlike.go_on {value otherValue : α} (hresult : state.result act = .ok value)
    (hother : (state.renumber number).result other = .ok otherValue)
    (hafter : (state.renumber number).after other = (state.after act).renumber number)
    (hcount : state.installations ≤ (state.after act).installations)
    (hrest : (state.after act).RunsAlike number (next value) (last otherValue)) :
    state.RunsAlike number (act >>= next) (other >>= last) := by
  refine ⟨?_, ?_, ?_⟩
  · rw [result_bind_eq, hother, result_bind_eq, hresult, hafter]
    exact hrest.result
  · rw [after_bind, hother, after_bind, hresult, hafter]
    exact hrest.after
  · rw [after_bind, hresult]
    exact hcount.trans hrest.installations

end State

/-- With other installation numbers in the state, the second action does what the first one does, unless it
lacks the method of an unknown name and the numbers hide the first installation. -/
class Parallel {α : Type} (number : Nat → Nat) (act other : Action α) : Prop where
  runs : ∀ {state : State}, Renumbering number state.installations →
    state.RunsAlike number act other ∨ HidesFirst number ∧ (state.renumber number).LacksName other

/-- The action does the same with other installation numbers in the state, unless it lacks the method of an unknown
name. -/
abbrev Steady {α : Type} (number : Nat → Nat) (act : Action α) : Prop := Parallel number act act

namespace Parallel

variable {α β : Type} {number : Nat → Nat} {act other : Action α} {next last : α → Action β}

/-- Actions that always do the same, and install nothing. -/
theorem of_run (hrun : ∀ state : State, other.run.run (state.renumber number) =
    (state.result act, (state.after act).renumber number))
    (hcount : ∀ state : State, (state.after act).installations = state.installations) :
    Parallel number act other where
  runs {state} _ := by
    have hresult := congrArg Prod.fst (hrun state)
    have hafter := congrArg Prod.snd (hrun state)
    exact .inl ⟨hresult, hafter, (hcount state).ge⟩

/-- What comes after an action whose value depends on the numbers. -/
theorem map_bind {change : α → α} (hact : Parallel number (change <$> act) other)
    (hnext : ∀ value, Parallel number (next value) (last (change value))) :
    Parallel number (act >>= next) (other >>= last) where
  runs {state} hnumber := by
    rcases hact.runs hnumber with ⟨hsame, hafter, hcount⟩ | ⟨hhides, hlacks⟩
    · rw [State.after_map] at hafter hcount
      rw [State.result_map] at hsame
      cases hresult : state.result act with
      | error halt =>
          rw [hresult] at hsame
          exact .inl (.stop hresult hsame hafter hcount)
      | ok value =>
          rw [hresult] at hsame
          rcases (hnext value).runs (hnumber.later hcount) with hrest | ⟨hhides, hlacks⟩
          · exact .inl (.go_on hresult hsame hafter hcount hrest)
          · exact .inr ⟨hhides, .after hsame (hafter ▸ hlacks)⟩
    · exact .inr ⟨hhides, hlacks.bind last⟩

instance pure (value : α) : Steady number (Pure.pure value : Action α) := .of_run (fun _ => rfl) fun _ => rfl

instance throw (halt : Halt) : Steady number (throw halt : Action α) := .of_run (fun _ => rfl) fun _ => rfl

instance refuse (fault : Fault) : Steady number (ObjectModel.refuse fault : Action α) :=
  .of_run (fun _ => rfl) fun _ => rfl

instance settle (outcome : Except Fault α) : Steady number (ObjectModel.settle outcome) := by
  cases outcome with
  | error fault => exact .refuse fault
  | ok value => exact .pure value

instance bind [hact : Parallel number act other] [hnext : ∀ value, Parallel number (next value) (last value)] :
    Parallel number (act >>= next) (other >>= last) := by
  have hsame : Parallel number (id <$> act) other := by rwa [id_map]
  exact map_bind hsame hnext

/-- What is parallel whatever value it is given may come after parallel actions. -/
theorem andThen [Parallel number act other] (hnext : ∀ value, Parallel number (next value) (last value)) :
    Parallel number (act >>= next) (other >>= last) :=
  bind

instance ite {condition : Prop} [Decidable condition] {yes no otherYes otherNo : Action α}
    [hyes : Parallel number yes otherYes] [hno : Parallel number no otherNo] :
    Parallel number (if condition then yes else no) (if condition then otherYes else otherNo) := by
  by_cases hcondition : condition
  · rwa [if_pos hcondition, if_pos hcondition]
  · rwa [if_neg hcondition, if_neg hcondition]

theorem ask {read other : State → α} (hread : ∀ state : State, other (state.renumber number) = read state) :
    Parallel number (ObjectModel.ask read) (ObjectModel.ask other) := by
  refine of_run (fun state => ?_) fun _ => rfl
  exact congrArg (fun value => (Except.ok value, state.renumber number)) (hread state)

theorem get_bind {next last : State → Action β}
    (hnext : ∀ state : State, Parallel number (next state) (last (state.renumber number))) :
    Parallel number (get >>= next) (get >>= last) where
  runs {state} hnumber := by
    rcases (hnext state).runs hnumber with ⟨hresult, hafter, hcount⟩ | hlacks
    · exact .inl ⟨hresult, hafter, hcount⟩
    · exact .inr hlacks

/-- What is read from a state may be used in different ways. -/
theorem ask_bind {read : State → α} (hnext : ∀ state : State,
    Parallel number (next (read state)) (last (read (state.renumber number)))) :
    Parallel number (ObjectModel.ask read >>= next) (ObjectModel.ask read >>= last) :=
  get_bind hnext

/-- What is done with a state depends on what is read from it. -/
theorem get_same {next : State → Action β}
    (hread : ∀ state : State, next (state.renumber number) = next state)
    (hnext : ∀ state, Steady number (next state)) : Steady number (get >>= next) :=
  get_bind fun state => (hread state).symm ▸ hnext state

theorem modify {change other : State → State}
    (hchange : ∀ state : State, other (state.renumber number) = (change state).renumber number)
    (hcount : ∀ state, (change state).installations = state.installations) :
    Parallel number (modify change : Action Unit) (modify other) :=
  ⟨fun {state} _ => .inl (.modify (hchange state) (hcount state).ge)⟩

end Parallel

/-- Running a body does the same with other installation numbers, also in the body, unless it lacks the method
of an unknown name. -/
class Runner.IsSteady (number : Nat → Nat) (run : Runner) : Prop where
  steady : ∀ body receiver arguments,
    Parallel number (run body receiver arguments) (run (body.renumber number) receiver arguments)

end ObjectModel
