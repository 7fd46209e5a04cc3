import ObjectModel.Proofs.State.Run

/-! # What an assignment does

Assigning a constant puts it into the table of its scope under a name that is interned, warns if it was there
already, and then gives a class that has no name its name. Each of the two is described for itself. Reading a constant
only adds a warning.
-/

namespace ObjectModel

namespace State

/-- How many of the warnings are of a constant that was assigned again. -/
def reassignments (state : State) : Nat :=
  state.warnings.countP fun warning => warning.message = "already initialized constant"

/-- The state with a constant put into the table of a scope, and a warning if it was there already. -/
def withConstant (state : State) (scope : ClassId) (name : String) (value : Value) : State :=
  let symbol := (state.names.intern name).1
  let assigned := ((Change.intern name).apply state).changeClass scope (.putConstant symbol value)
  if (state.graph.record scope).constants.contains symbol then
    (Change.warn ⟨"already initialized constant", state.graph.displayName scope, name⟩).apply assigned
  else assigned

variable (state : State) (scope : ClassId) (name : String) (value : Value)

theorem graph_withConstant : (state.withConstant scope name value).graph =
    state.graph.update scope (.putConstant (state.names.intern name).1 value) := by
  rw [withConstant]
  split <;> rfl

theorem names_withConstant :
    (state.withConstant scope name value).names = (state.names.intern name).2 := by
  rw [withConstant]
  split <;> rfl

/-- A constant is assigned again if its table has it. -/
theorem reassignments_withConstant : (state.withConstant scope name value).reassignments =
    state.reassignments +
      if (state.graph.record scope).constants.contains (state.names.intern name).1 then 1 else 0 := by
  rw [withConstant]
  split
  · exact List.countP_append
  · rfl

theorem after_assignConstant_of_not {name : String} (hname : ¬ Name.isConstant name) :
    state.after (assignConstant scope name value) = state := by
  rw [assignConstant, after_bind, result, checkConstantName, if_neg hname]
  rfl

theorem after_assignConstant {name : String} (hname : Name.isConstant name) :
    state.after (assignConstant scope name value) =
      (state.withConstant scope name value).after (nameClass scope name value) := by
  have hchecked : (checkConstantName name).run.run state = (.ok (), state) := by
    rw [checkConstantName, if_pos hname]
    rfl
  have hnamed : (intern name).run.run state =
      (.ok (state.names.intern name).1, { state with names := (state.names.intern name).2 }) := rfl
  rw [after, assignConstant, run_bind_of_ok hchecked, run_bind_of_ok hnamed, run_get_bind, withConstant]
  dsimp only
  split <;> rfl

/-- Naming leaves the state as it is, or gives a class without a name the name of a constant of the scope. -/
theorem after_nameClass : state.after (nameClass scope name value) = state ∨
    ∃ id, value = .cls id ∧ (state.graph.record id).name = none ∧
      state.after (nameClass scope name value) =
        (Change.nameClass scope id (state.qualifiedName scope name)).apply state := by
  cases value with
  | cls id =>
      rw [after, nameClass, run_get_bind]
      dsimp only
      split
      next hfresh =>
        rw [Bool.and_eq_true, Option.isNone_iff_eq_none] at hfresh
        exact .inr ⟨id, rfl, hfresh.1, rfl⟩
      · exact .inl rfl
  | _ => exact .inl rfl

/-! ## Reading -/

/-- Reading a constant gives the value of a public one, or is refused; it adds at most a warning. -/
theorem run_constantGet :
    (∃ owner entry warnings, (constantGet scope name).run.run state =
        (.ok entry.value, { state with warnings }) ∧ Name.isConstant name ∧
      state.resolveConstant? scope name false = some (owner, entry) ∧ ¬ entry.isPrivate) ∨
    ∃ fault, (constantGet scope name).run.run state = (.error (.fault fault), state) ∧
      ∀ owner entry, Name.isConstant name →
        state.resolveConstant? scope name false = some (owner, entry) → entry.isPrivate := by
  have hchecked : (checkConstantName name).run.run state =
      (if Name.isConstant name then .ok () else .error (.fault (.constantName name)), state) := by
    rw [checkConstantName]
    split <;> rfl
  rw [constantGet, run_bind, hchecked]
  by_cases hname : Name.isConstant name
  · rw [if_pos hname]
    dsimp only
    rw [run_get_bind]
    cases hresolve : state.resolveConstant? scope name false with
    | none =>
        refine .inr ⟨_, rfl, ?_⟩
        rintro _ _ - hother
        cases hother
    | some pair =>
        obtain ⟨owner, entry⟩ := pair
        dsimp only
        by_cases hprivate : entry.isPrivate
        · rw [if_pos hprivate]
          refine .inr ⟨_, rfl, ?_⟩
          rintro _ _ - hother
          obtain ⟨-, rfl⟩ := Prod.mk.inj (Option.some.inj hother)
          exact hprivate
        · rw [if_neg hprivate]
          left
          by_cases hdeprecated : entry.isDeprecated
          · rw [if_pos hdeprecated]
            exact ⟨owner, entry, _, rfl, hname, rfl, hprivate⟩
          · rw [if_neg hdeprecated]
            exact ⟨owner, entry, state.warnings, rfl, hname, rfl, hprivate⟩
  · rw [if_neg hname]
    exact .inr ⟨_, rfl, fun _ _ hother _ => absurd hother hname⟩

end State

end ObjectModel
