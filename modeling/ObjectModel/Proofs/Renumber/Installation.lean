import ObjectModel.Proofs.Renumber.Runs
import ObjectModel.Proofs.State.Intact

/-! # Another installation

Where the builtin methods are intact, another installation changes nothing but numbers: the methods that it puts
in have its own number.
-/

namespace ObjectModel

/-- Other numbers that are the same where there are bodies. -/
theorem Graph.renumber_of_same {number : Nat → Nat} {graph : Graph}
    (hsame : ∀ id, ∀ pair ∈ (graph.record id).methods.entries,
      pair.2.body.renumber number = pair.2.body) : graph.renumber number = graph := by
  obtain ⟨records⟩ := graph
  apply congrArg Graph.mk
  apply List.ext_getElem?
  intro position
  rw [List.getElem?_map]
  cases hrecord : records[position]? with
  | none => rfl
  | some found =>
      have hfound : Graph.record ⟨records⟩ ⟨position⟩ = found := by
        rw [record, hrecord]
        rfl
      have hentries : found.methods.map (MethodEntry.renumber number) = found.methods := by
        apply congrArg Table.mk
        refine (List.map_congr_left fun pair hpair => ?_).trans (List.map_id _)
        have hbody := hsame ⟨position⟩ pair (hfound ▸ hpair)
        exact congrArg (fun body => (pair.1, { pair.2 with body })) hbody
      exact congrArg (fun methods => some { found with methods }) hentries

namespace State

variable {state : State}

/-- Where builtin methods stand, they were installed. -/
theorem Sound.installations_pos (hsound : state.Sound) (hintact : state.Intact) :
    0 < state.installations := by
  obtain ⟨home, name, _, hentry⟩ := hintact (.hidden .basicObject missingName (.basic .missing)) (by decide)
  have hbody : state.installations - 1 < state.installations :=
    ((hsound.record home).methods _ (Table.mem_of_find hentry)).2.2
  omega

/-- The installation numbers with the one of a count not told apart from the one before. -/
def mergeLast (count : Nat) (installation : Nat) : Nat :=
  if installation < count then installation else installation - 1

theorem renumbering_mergeLast {count : Nat} (hcount : 0 < count) : Renumbering (mergeLast count) count where
  first := by simp [mergeLast]
  next {later} hlater := by
    rw [mergeLast, mergeLast, if_neg (by omega), if_neg (by omega)]
    omega

/-- The number of the first installation is given to another one only if that is the second one. -/
theorem eq_one_of_hidesFirst {count : Nat} (hcount : 0 < count) (hhides : HidesFirst (mergeLast count)) :
    count = 1 := by
  obtain ⟨later, hlater, hzero⟩ := hhides
  rw [mergeLast] at hzero
  split at hzero <;> omega

/-- Where the builtin methods are intact, another installation changes nothing but numbers. -/
theorem Sound.renumber_installBuiltins (hsound : state.Sound) (hintact : state.Intact) :
    state.installBuiltins.renumber (mergeLast state.installations) = state := by
  have hcount := hsound.installations_pos hintact
  have hlast : mergeLast state.installations state.installations = state.installations - 1 :=
    if_neg (Nat.lt_irrefl _)
  have hgraph : state.graph.renumber (mergeLast state.installations) = state.graph := by
    apply Graph.renumber_of_same
    intro id pair hpair
    have hbody := ((hsound.record id).methods pair hpair).2.2
    cases hcase : pair.2.body with
    | builtin builtin installation =>
        rw [hcase] at hbody
        exact congrArg (Body.builtin builtin) (if_pos hbody)
    | _ => rfl
  -- before the count goes up again, everything is as it was
  have hbefore : state.renumber (mergeLast state.installations) =
      { state with installations := state.installations - 1 } := by
    rw [renumber, hgraph, hlast]
  have hstill : ∀ registration ∈ Builtin.registrations,
      ({ state with installations := state.installations - 1 } : State).Installed
        (state.installations - 1) registration := hintact
  rw [← State.installBuiltins_renumber (renumbering_mergeLast hcount), hbefore, State.installBuiltins]
  dsimp only
  rw [Installed.foldl hstill, Nat.sub_add_cancel hcount]

end State

end ObjectModel
