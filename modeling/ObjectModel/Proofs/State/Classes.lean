import ObjectModel.Proofs.Graph.Lookup
import ObjectModel.Proofs.State.Objects

/-! # What actions on classes lead to

Constants, definitions of classes and modules, singleton classes and method tables: every action changes only what its
guards allow, and what it gives is there.
-/

namespace ObjectModel.State

variable {state : State}

/-! ## Constants -/

theorem looks_checkNotFrozen (id : ClassId) :
    state.Looks (checkNotFrozen id) fun _ => (state.graph.record id).isFrozen = false := by
  apply Leads.get_bind
  apply Leads.ite
  · exact fun _ => .refuse _
  · intro hopen
    exact .pure ⟨rfl, Bool.eq_false_of_not_eq_true hopen⟩

theorem looks_checkConstantName (name : String) :
    state.Looks (checkConstantName name) fun _ => True :=
  .ite (fun _ => .pure ⟨rfl, trivial⟩) fun _ => .refuse _

/-- An entry that is found from a class stands in some table, so its value is there. -/
theorem Sound.has_resolveConstant (hsound : state.Sound) {scope owner : ClassId} {name : String}
    {ownOnly : Bool} {entry : ConstantEntry}
    (hresolve : state.resolveConstant? scope name ownOnly = some (owner, entry)) :
    state.Has entry.value := by
  obtain ⟨symbol, _, hfound⟩ := Option.bind_eq_some_iff.mp hresolve
  split at hfound
  · exact ((hsound.record owner).constants _ (Graph.mem_of_ownConstant hfound).2).2
  · exact ((hsound.record owner).constants _ (Graph.mem_of_resolveConstant hfound)).2

theorem Sound.has_ownConstant (hsound : state.Sound) {scope : ClassId} {name : String} {value : Value}
    (hown : state.ownConstant? scope name = some value) : state.Has value := by
  obtain ⟨symbol, _, hfound⟩ := Option.bind_eq_some_iff.mp hown
  obtain ⟨entry, hfind, hvalue⟩ := Option.bind_eq_some_iff.mp hfound
  obtain rfl := Option.some.inj hvalue
  exact ((hsound.record scope).constants _ (Table.mem_of_find hfind)).2

theorem gives_constantGet (scope : ClassId) (name : String) :
    state.Gives (constantGet scope name) := by
  apply Leads.look_bind (looks_checkConstantName name)
  rintro _ -
  apply Leads.ofSound
  intro hsound
  apply Leads.get_bind
  split
  · exact .refuse _
  next owner entry hresolve =>
    have hvalue := hsound.has_resolveConstant hresolve
    apply Leads.ite
    · exact fun _ => .refuse_bind _
    intro _
    apply Leads.ite
    · intro _
      apply Leads.bind (leads_warn _ _ _)
      rintro _ _ hgrows -
      exact .pure (hgrows.has hvalue)
    · exact fun _ => .pure hvalue

theorem leads_constantDefined (scope : ClassId) (name : String) (inherited : Bool) :
    state.Leads (constantDefined scope name inherited) fun _ _ => True := by
  apply Leads.look_bind (looks_checkConstantName name)
  exact fun _ _ => .ask trivial

theorem leads_nameClass {scope : ClassId} (name : String) {value : Value}
    (hscope : state.graph.Has scope) (hvalue : state.Has value) :
    state.Leads (nameClass scope name value) fun _ _ => True := by
  cases value with
  | cls id =>
      apply Leads.get_bind
      apply Leads.ite
      · intro hfresh
        rw [Bool.and_eq_true, Option.isNone_iff_eq_none, Bool.not_eq_true'] at hfresh
        exact .change (.nameClass scope id (state.qualifiedName scope name)) rfl
          (fun _ => ⟨hscope, hvalue⟩) hfresh fun _ _ => trivial
      · exact fun _ => .pure trivial
  | _ => exact .pure trivial

theorem leads_assignConstant {scope : ClassId} (name : String) {value : Value}
    (hscope : state.graph.Has scope) (hvalue : state.Has value)
    (hopen : (state.graph.record scope).isFrozen = false) :
    state.Leads (assignConstant scope name value) fun _ _ => True := by
  apply Leads.look_bind (looks_checkConstantName name)
  rintro _ -
  -- interning leaves the graph as it was, so the scope is still open
  apply Leads.bind (leads_intern name)
  rintro named symbol hnamed ⟨rfl, hsymbol⟩
  apply Leads.get_bind
  have hput : ((Change.intern name).apply state).Leads
      (ObjectModel.changeClass scope (.putConstant symbol value)) fun _ _ => True :=
    .change (.putConstant scope symbol value) rfl
      (fun _ => ⟨hnamed.graph.has hscope, hsymbol, hnamed.has hvalue⟩) hopen fun _ _ => trivial
  apply Leads.bind hput
  rintro reached _ hgrows -
  have hgrown := hnamed.trans hgrows
  apply Leads.ite
  · intro _
    apply Leads.bind (leads_warn _ _ _)
    rintro _ _ hlast -
    exact leads_nameClass name ((hgrown.trans hlast).graph.has hscope)
      ((hgrown.trans hlast).has hvalue)
  · intro _
    exact leads_nameClass name (hgrown.graph.has hscope) (hgrown.has hvalue)

theorem gives_constantSet {scope : ClassId} (name : String) {value : Value}
    (hscope : state.graph.Has scope) (hvalue : state.Has value) :
    state.Gives (constantSet scope name value) := by
  apply Leads.look_bind (looks_checkNotFrozen scope)
  intro _ hopen
  apply Leads.bind (leads_assignConstant name hscope hvalue hopen)
  rintro _ _ hgrows -
  exact .pure (hgrows.has hvalue)

theorem leads_flagConstant {scope : ClassId} (name : String)
    {change : ConstantEntry → ConstantEntry} (hscope : state.graph.Has scope)
    (hchange : ∀ entry : ConstantEntry, (change entry).value = entry.value) :
    state.Leads (flagConstant scope name change) fun _ _ => True := by
  apply Leads.look_bind (looks_checkNotFrozen scope)
  intro _ hopen
  apply Leads.get_bind
  dsimp only
  split
  next symbol _ =>
    exact .change (.flagConstant scope symbol change) rfl (fun _ => ⟨hscope, hchange⟩) hopen
      fun _ _ => trivial
  · exact .refuse _

theorem leads_setConstantPrivate {scope : ClassId} (isPrivate : Bool) (name : String)
    (hscope : state.graph.Has scope) :
    state.Leads (setConstantPrivate isPrivate scope name) fun _ _ => True :=
  leads_flagConstant name hscope fun _ => rfl

theorem leads_deprecateConstant {scope : ClassId} (name : String)
    (hscope : state.graph.Has scope) :
    state.Leads (deprecateConstant scope name) fun _ _ => True :=
  leads_flagConstant name hscope fun _ => rfl

theorem leads_constantRemove {scope : ClassId} (name : String) (hscope : state.graph.Has scope) :
    state.Leads (constantRemove scope name) fun reached value => reached.Has (value.getD .nil) := by
  apply Leads.ofSound
  intro hsound
  apply Leads.get_bind
  split
  · exact .pure trivial
  next symbol _ =>
    have herase : state.Leads (ObjectModel.changeClass scope (.eraseConstant symbol))
        fun _ _ => True :=
      .change (.eraseConstant scope symbol) rfl (fun _ => hscope) trivial fun _ _ => trivial
    apply Leads.bind herase
    rintro reached _ hgrows -
    apply Leads.pure
    cases hfind : (state.graph.record scope).constants.find? symbol with
    | none => trivial
    | some entry =>
        have hentry := (hsound.record scope).constants _ (Table.mem_of_find hfind)
        exact hgrows.has hentry.2

end ObjectModel.State
