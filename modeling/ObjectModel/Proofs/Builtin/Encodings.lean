import ObjectModel.Proofs.Builtin.Arguments

/-! # Builtin methods of encodings are safe

What encodings and their class do does nothing but allowed changes and gives values that are there.
-/

namespace ObjectModel.State

variable {state : State} {run : Runner} {receiver : Value} {arguments : List Value}

theorem leads_newStrings (contents : List String) :
    state.Leads (Builtin.newStrings contents) fun reached values =>
      ∀ value ∈ values, reached.Has value := by
  induction contents generalizing state with
  | nil => exact .pure (by simp)
  | cons content rest ih =>
      apply Leads.bind (gives_newString content)
      intro reached value _ hvalue
      apply Leads.bind ih
      intro last values hlast hvalues
      apply Leads.pure
      intro other hother
      rcases List.mem_cons.mp hother with rfl | hother
      · exact hlast.has hvalue
      · exact hvalues other hother

theorem gives_findEncoding {value : Value} (hvalue : state.Has value) :
    state.Gives (Builtin.findEncoding value) := by
  have hnamed : state.Gives (do
      let name ← Builtin.expectText value
      return .encoding (← settle (Encoding.named name))) :=
    .text_bind fun _ => .settle_bind fun _ hid => .pure (lt_of_named hid)
  cases value with
  | encoding id => exact .pure hvalue
  | _ => exact hnamed

theorem has_encoding {value : Value} (hvalue : value ∈ Encoding.all.map Value.encoding) :
    state.Has value := by
  obtain ⟨id, hid, rfl⟩ := List.mem_map.mp hvalue
  obtain ⟨index, hindex, rfl⟩ := List.mem_map.mp hid
  exact List.mem_range.mp hindex

theorem gives_runEncoding (routine : EncodingRoutine) (hrun : run.Safe)
    (harguments : ∀ value ∈ arguments, state.Has value) :
    state.Gives (Builtin.runEncoding run routine receiver arguments) := by
  have hargument := has_argument harguments 0
  cases routine with
  | nameText => exact .arity_bind (.encoding_bind fun _ => gives_newString _)
  | inspect => exact .arity_bind (.encoding_bind fun _ => gives_newString _)
  | names =>
      apply Leads.arity_bind
      apply Leads.encoding_bind
      intro id
      exact (leads_newStrings _).bind fun _ _ _ hvalues => gives_newArray hvalues
  | asciiCompatible => exact .arity_bind (.encoding_bind fun _ => .pure trivial)
  | isDummy => exact .arity_bind (.encoding_bind fun _ => .pure trivial)
  | validCode => exact .arity_bind (.encoding_bind fun _ => .int_bind fun _ => .pure trivial)
  | defaultInternal => exact .arity_bind gives_defaultInternal
  | setDefaultInternal => exact .arity_bind (gives_setDefaultInternal hrun hargument)
  | defaultExternal => exact .arity_bind gives_defaultExternal
  | setDefaultExternal => exact .arity_bind (gives_setDefaultExternal hrun hargument)
  | find => exact .arity_bind (gives_findEncoding hargument)
  | list => exact .arity_bind (gives_newArray fun _ hvalue => has_encoding hvalue)
  | nameList =>
      apply Leads.arity_bind
      exact (leads_newStrings _).bind fun _ _ _ hvalues => gives_newArray hvalues

end ObjectModel.State
