import ObjectModel.DefaultEncoding
import ObjectModel.Proofs.State.Methods

/-! # What calls lead to

A way to run bodies is safe if it does nothing but allowed changes and gives values that are there. Calls by a safe
way are safe, for a call runs only bodies that stand in some table.
-/

namespace ObjectModel

/-- Running a body on what is there gives what is there. -/
def Runner.Safe (run : Runner) : Prop :=
  ∀ {state : State} {body : Body} {receiver : Value} {arguments : List Value},
    state.FitsBody body → state.Has receiver → (∀ value ∈ arguments, state.Has value) →
      state.Gives (run body receiver arguments)

namespace State

variable {state : State} {run : Runner} {receiver : Value} {arguments : List Value}

theorem leads_findMethod (name : String) (hreceiver : state.Has receiver) :
    state.Leads (findMethod receiver name) fun reached found =>
      ∀ entry, found = some entry → reached.FitsBody entry.body := by
  apply Leads.ask_bind
  split
  · exact .pure (by simp)
  next symbol _ =>
    apply Leads.bind (leads_dispatchClass hreceiver)
    intro reached start _ _
    apply Leads.ofSound
    intro hsound
    exact .ask fun _ hfind => hsound.fitsBody_of_find hfind

theorem leads_respondTo (name : String) (includePrivate : Bool) (hreceiver : state.Has receiver) :
    state.Leads (respondTo receiver name includePrivate) fun _ _ => True :=
  (leads_findMethod name hreceiver).bind fun _ _ _ _ => .pure trivial

theorem leads_refuseMissing {α : Type} (name : String) {post : State → α → Prop} :
    state.Leads (refuseMissing receiver name) post :=
  .ask_bind (.refuse _)

theorem gives_callMissing {name : Symbol} (hrun : run.Safe) (hreceiver : state.Has receiver)
    (hname : state.names.Has name) (harguments : ∀ value ∈ arguments, state.Has value) :
    state.Gives (callMissing run receiver name arguments) := by
  apply Leads.bind (leads_intern missingName)
  rintro named missing hnamed -
  apply Leads.bind (leads_dispatchClass (hnamed.has hreceiver))
  intro reached start hreached _
  have hgrown := hnamed.trans hreached
  apply Leads.ofSound
  intro hsound
  apply Leads.get_bind
  split
  next hook hfind =>
    -- the hook is not looked up for its own name
    have hbody : reached.FitsBody hook.body := by
      split at hfind
      · simp at hfind
      · exact hsound.fitsBody_of_find hfind
    apply hrun hbody (hgrown.has hreceiver)
    intro value hvalue
    rcases List.mem_cons.mp hvalue with rfl | hvalue
    · exact hgrown.names.has hname
    · exact hgrown.has (harguments value hvalue)
  · exact leads_refuseMissing _

theorem gives_dispatch {name : Symbol} (checked : Bool) (hrun : run.Safe)
    (hreceiver : state.Has receiver) (hname : state.names.Has name)
    (harguments : ∀ value ∈ arguments, state.Has value) :
    state.Gives (dispatch run checked receiver name arguments) := by
  apply Leads.bind (leads_dispatchClass hreceiver)
  intro reached start hgrows _
  apply Leads.ofSound
  intro hsound
  apply Leads.get_bind
  split
  · exact gives_callMissing hrun (hgrows.has hreceiver) (hgrows.names.has hname)
      (hgrows.hasAll harguments)
  next entry hfind =>
    apply Leads.ite
    · exact fun _ => .refuse _
    · intro _
      exact hrun (hsound.fitsBody_of_find hfind) (hgrows.has hreceiver) (hgrows.hasAll harguments)

theorem gives_dispatchName (checked : Bool) (name : String) (hrun : run.Safe)
    (hreceiver : state.Has receiver) (harguments : ∀ value ∈ arguments, state.Has value) :
    state.Gives (dispatchName run checked receiver name arguments) := by
  apply Leads.ask_bind
  split
  next symbol hfind =>
    exact gives_dispatch checked hrun hreceiver (Interner.has_of_find hfind) harguments
  · have hcustom : state.Leads (hasCustomMissing receiver) fun _ _ => True :=
      (leads_findMethod missingName hreceiver).bind fun _ _ _ _ => .pure trivial
    apply Leads.bind hcustom
    intro reached custom hgrows _
    apply Leads.ite
    · intro _
      apply Leads.bind (leads_intern name)
      rintro named symbol hnamed ⟨_, hsymbol⟩
      have hgrown := hgrows.trans hnamed
      exact gives_callMissing hrun (hgrown.has hreceiver) hsymbol (hgrown.hasAll harguments)
    · exact fun _ => leads_refuseMissing name

theorem gives_invoke (name : String) (hrun : run.Safe) (hreceiver : state.Has receiver)
    (harguments : ∀ value ∈ arguments, state.Has value) :
    state.Gives (invoke run receiver name arguments) :=
  gives_dispatchName true name hrun hreceiver harguments

theorem gives_send (name : String) (hrun : run.Safe) (hreceiver : state.Has receiver)
    (harguments : ∀ value ∈ arguments, state.Has value) :
    state.Gives (send run receiver name arguments) :=
  gives_dispatchName false name hrun hreceiver harguments

/-! ## Default encodings -/

theorem lt_of_named {name : String} {id : EncodingId} (hnamed : Encoding.named name = .ok id) :
    id.index < Encoding.catalog.length := by
  rw [Encoding.named] at hnamed
  split at hnamed
  next found hfind =>
    obtain rfl := Except.ok.inj hnamed
    obtain ⟨index, hindex, rfl⟩ := Option.map_eq_some_iff.mp hfind
    exact (List.findIdx?_eq_some_iff_getElem.mp hindex).1
  · cases hnamed

theorem lt_of_map_named {name : String} {id : EncodingId}
    (hnamed : (Encoding.named name).map some = .ok (some id)) :
    id.index < Encoding.catalog.length := by
  cases hcase : Encoding.named name with
  | error fault =>
      rw [hcase] at hnamed
      cases hnamed
  | ok found =>
      rw [hcase] at hnamed
      obtain rfl := Option.some.inj (Except.ok.inj hnamed)
      exact lt_of_named hcase

/-- Whatever an argument stands for is in the catalog. -/
theorem lt_of_resolve {argument : Encoding.Argument} {id : EncodingId}
    (hresolve : argument.resolve = .ok (some id)) : id.index < Encoding.catalog.length := by
  cases argument with
  | nil => cases hresolve
  | encoding other =>
      rw [Encoding.Argument.resolve] at hresolve
      split at hresolve
      next hlt => exact Option.some.inj (Except.ok.inj hresolve) ▸ hlt
      · cases hresolve
  | name content => exact lt_of_map_named hresolve
  | convertible className outcome =>
      cases outcome with
      | error fault => cases hresolve
      | ok converted =>
          cases converted with
          | text content => exact lt_of_map_named hresolve
          | other given => cases hresolve
  | inconvertible className => cases hresolve

/-- An assignment of a default encoding leads from defaults of the catalog to such defaults, and changes them by one
assignment. -/
def Assigns (assign : Encoding.Defaults → Encoding.Argument → Except Fault Encoding.Defaults) :
    Prop :=
  ∀ {state : State} {argument : Encoding.Argument} {defaults : Encoding.Defaults}, state.Sound →
    assign state.defaults argument = .ok defaults →
      (Change.assignDefaults defaults).Fits state ∧ (Change.assignDefaults defaults).Guarded state

theorem assigns_internal : Assigns Encoding.Defaults.assignInternal := by
  intro state argument defaults hsound hassign
  rw [Encoding.Defaults.assignInternal] at hassign
  cases hresolve : argument.resolve with
  | error fault =>
      rw [hresolve] at hassign
      cases hassign
  | ok encoding =>
      rw [hresolve] at hassign
      obtain rfl := Except.ok.inj hassign
      refine ⟨⟨hsound.external, ?_⟩, .internal encoding, rfl⟩
      intro id hid
      obtain rfl : encoding = some id := hid
      exact lt_of_resolve hresolve

theorem assigns_external : Assigns Encoding.Defaults.assignExternal := by
  intro state argument defaults hsound hassign
  rw [Encoding.Defaults.assignExternal] at hassign
  cases hresolve : argument.resolve with
  | error fault =>
      rw [hresolve] at hassign
      cases hassign
  | ok encoding =>
      rw [hresolve] at hassign
      cases encoding with
      | none => cases hassign
      | some id =>
          obtain rfl := Except.ok.inj hassign
          exact ⟨⟨lt_of_resolve hresolve, hsound.internal⟩, .external id, rfl⟩

theorem leads_encodingArgument {value : Value} (hrun : run.Safe) (hvalue : state.Has value) :
    state.Leads (encodingArgument run value) fun _ _ => True := by
  -- whatever is neither nil, an encoding nor a string is asked to convert itself
  have hother : state.Leads (do
      if ← respondTo value "to_str" true then
        let converted ← convertToText run value
        ask fun state => Encoding.Argument.convertible (state.className value) (.ok converted)
      else ask fun state => Encoding.Argument.inconvertible (state.className value))
      fun _ _ => True := by
    apply Leads.bind (leads_respondTo "to_str" true hvalue)
    intro reached responds hgrows _
    apply Leads.ite
    · intro _
      have hconvert : reached.Leads (convertToText run value) fun _ _ => True :=
        (gives_send "to_str" hrun (hgrows.has hvalue) (by simp)).bind fun _ _ _ _ => .ask trivial
      exact hconvert.bind fun _ _ _ _ => .ask trivial
    · exact fun _ => .ask trivial
  cases value with
  | nil => exact .pure trivial
  | encoding id => exact .pure trivial
  | str id => exact .ask trivial
  | _ => exact hother

theorem leads_assignDefault {value : Value}
    {assign : Encoding.Defaults → Encoding.Argument → Except Fault Encoding.Defaults}
    (hrun : run.Safe) (hvalue : state.Has value) (hassigns : Assigns assign) :
    state.Leads (assignDefault run value assign) fun _ _ => True := by
  apply Leads.bind (leads_encodingArgument hrun hvalue)
  intro reached argument _ _
  apply Leads.get_bind
  apply Leads.settle_bind
  intro defaults hassign
  apply Leads.ofSound
  intro hsound
  obtain ⟨hfits, hguarded⟩ := hassigns hsound hassign
  exact .change (.assignDefaults defaults) rfl (fun _ => hfits) hguarded fun _ _ => trivial

theorem Sound.has_defaultInternal (hsound : state.Sound) : state.Has state.defaultInternal := by
  rw [defaultInternal]
  split
  next id hid => exact hsound.internal id hid
  · trivial

theorem Sound.has_defaultExternal (hsound : state.Sound) : state.Has state.defaultExternal :=
  hsound.external

theorem gives_defaultInternal : state.Gives (ask State.defaultInternal) :=
  .ofSound fun hsound => .ask hsound.has_defaultInternal

theorem gives_defaultExternal : state.Gives (ask State.defaultExternal) :=
  .ofSound fun hsound => .ask hsound.has_defaultExternal

theorem gives_setDefaultInternal {value : Value} (hrun : run.Safe) (hvalue : state.Has value) :
    state.Gives (setDefaultInternal run value) :=
  (leads_assignDefault hrun hvalue assigns_internal).bind fun _ _ _ _ => gives_defaultInternal

theorem gives_setDefaultExternal {value : Value} (hrun : run.Safe) (hvalue : state.Has value) :
    state.Gives (setDefaultExternal run value) :=
  (leads_assignDefault hrun hvalue assigns_external).bind fun _ _ _ _ => gives_defaultExternal

end State

end ObjectModel
