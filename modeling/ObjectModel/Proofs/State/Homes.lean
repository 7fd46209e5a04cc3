import ObjectModel.Proofs.Graph.Search
import ObjectModel.Proofs.State.MethodTables
import ObjectModel.Proofs.State.Run

/-! # Homes of builtin methods

A builtin method is meant for a core class, or for the class itself and so for its metaclass; that is its home. The
installation puts builtin methods into their homes, and whatever else puts one into a table copies one that the class
has. Since no change takes an ancestor away, builtin methods stand only in the tables of classes that have the
home among their ancestors.
-/

namespace ObjectModel

open Relation

namespace Graph

variable {graph first second : Graph} {id : ClassId} {body : Body}

/-! ## Links that stay -/

/-- What was mixed in stays mixed in. -/
theorem Develops.mixes (hdevelops : first.Develops second) {outer inner : ClassId}
    (hmixes : first.Mixes outer inner) : second.Mixes outer inner := by
  cases hdevelops with
  | extension hextends =>
      obtain ⟨slot, _, hrecord⟩ := hextends.record (has_of_mixes_left hmixes)
      rwa [Mixes, hrecord]
  | @mix changed mixin change hchange =>
      rcases first.record_update changed outer change with hsame | ⟨rfl, _, hmixed⟩
      · rwa [Mixes, hsame]
      · rw [Mixes, hmixed]
        rcases hchange with rfl | rfl
        · exact hmixes.imp_right (List.mem_cons_of_mem _)
        · exact hmixes.imp_left (List.mem_cons_of_mem _)
  | @rewrite changed change hframe _ =>
      have hsame := (first.sameFrame_update changed hframe).record outer
      rwa [Mixes, hsame.prepends, hsame.includes]

/-- A stacked graph that came from another one without losing what was mixed in. -/
structure Widens (first second : Graph) : Prop where
  before : first.Stacked
  after : second.Stacked
  grows : first.Grows second
  mixes : ∀ {outer inner}, first.Mixes outer inner → second.Mixes outer inner

namespace Widens

variable (hwidens : first.Widens second)

include hwidens

theorem links {next : ClassId} (hlinks : first.Links id next) : second.Links id next := by
  rcases hlinks with hsuper | hmixes
  · have hkeeps := hwidens.grows.record (has_of_superclass hsuper)
    exact .inl (hkeeps.superclass.trans hsuper)
  · exact .inr (hwidens.mixes hmixes)

/-- No ancestor is ever lost. -/
theorem mem_ancestors {other : ClassId} (hid : first.Has id) (hother : other ∈ first.ancestors id) :
    other ∈ second.ancestors id := by
  rw [hwidens.after.mem_ancestors (hwidens.grows.has hid)]
  exact ReflTransGen.mono (fun _ _ => hwidens.links) _ _ ((hwidens.before.mem_ancestors hid).mp hother)

end Widens

/-! ## Homes -/

/-- The class for which a builtin method is meant. -/
def home? (graph : Graph) (builtin : Builtin) : Option ClassId :=
  if builtin.onMetaclass then (graph.record builtin.owner.id).metaclass else some builtin.owner.id

/-- Whether a class may have a method with a body: a builtin one is registered, and its home is among the
ancestors of the class. -/
def houses (graph : Graph) (id : ClassId) : Body → Bool
  | .builtin builtin _ =>
      Builtin.registrations.any (fun registration => registration.builtin = builtin) &&
        (graph.home? builtin).any fun home => home ∈ graph.ancestors id
  | _ => true

theorem houses_builtin {builtin : Builtin} {installation : Nat} :
    graph.houses id (.builtin builtin installation) ↔
      (∃ registration ∈ Builtin.registrations, registration.builtin = builtin) ∧
        ∃ home, graph.home? builtin = some home ∧ home ∈ graph.ancestors id := by
  rw [houses, Bool.and_eq_true, List.any_eq_true, Option.any_eq_true]
  simp only [decide_eq_true_eq]

theorem Stacked.has_home (hstacked : graph.Stacked) {builtin : Builtin} {home : ClassId}
    (hhome : graph.home? builtin = some home) : graph.Has home := by
  rw [home?] at hhome
  split at hhome
  · exact hstacked.has_metaclass hhome
  · exact Option.some.inj hhome ▸ hstacked.has_core builtin.owner

/-- A home is never lost. -/
theorem Widens.home (hwidens : first.Widens second) {builtin : Builtin} {home : ClassId}
    (hhome : first.home? builtin = some home) : second.home? builtin = some home := by
  rw [home?] at hhome ⊢
  split at hhome
  next hmeta =>
    rw [if_pos hmeta]
    exact (hwidens.grows.record (hwidens.before.has_core builtin.owner)).metaclass hhome
  next hmeta => rwa [if_neg hmeta]

/-- What a class may have, it may have when its ancestors have become more. -/
theorem Widens.houses (hwidens : first.Widens second) (hid : first.Has id)
    (hhouses : first.houses id body) : second.houses id body := by
  cases body with
  | builtin builtin installation =>
      obtain ⟨hregistered, home, hhome, hmem⟩ := houses_builtin.mp hhouses
      exact houses_builtin.mpr ⟨hregistered, home, hwidens.home hhome, hwidens.mem_ancestors hid hmem⟩
  | _ => rfl

/-- What an ancestor may have, the class may have. -/
theorem Stacked.houses_of_ancestor (hstacked : graph.Stacked) {other : ClassId} (hid : graph.Has id)
    (hother : other ∈ graph.ancestors id) (hhouses : graph.houses other body) :
    graph.houses id body := by
  cases body with
  | builtin builtin installation =>
      obtain ⟨hregistered, home, hhome, hmem⟩ := houses_builtin.mp hhouses
      have hup := (hstacked.mem_ancestors hid).mp hother
      have habove := (hstacked.mem_ancestors (hstacked.has_of_mem_ancestors hid hother)).mp hmem
      exact houses_builtin.mpr
        ⟨hregistered, home, hhome, (hstacked.mem_ancestors hid).mpr (hup.trans habove)⟩
  | _ => rfl

/-- The builtin methods that stand in the tables have their homes above them. -/
def Housed (graph : Graph) : Prop :=
  ∀ id, ∀ pair ∈ (graph.record id).methods.entries, graph.houses id pair.2.body

/-- What a class finds is at home in it. -/
theorem Housed.houses_of_find (hhoused : graph.Housed) (hstacked : graph.Stacked) (hid : graph.Has id)
    {name : Symbol} {entry : MethodEntry} (hfind : graph.findMethod? id name = some entry) :
    graph.houses id entry.body := by
  obtain ⟨hfirst, _⟩ := findMethod_eq_some.mp hfind
  obtain ⟨ancestor, hancestor, hentry⟩ := exists_of_firstEntry hfirst
  exact hstacked.houses_of_ancestor hid hancestor (hhoused ancestor _ hentry)

/-- Only methods that are new in a table have to be looked at. -/
theorem Housed.of_widens (hhoused : first.Housed) (hwidens : first.Widens second)
    (hentries : ∀ id, ∀ pair ∈ (second.record id).methods.entries,
      pair ∈ (first.record id).methods.entries ∨ first.Has id ∧ first.houses id pair.2.body) :
    second.Housed := by
  intro id pair hpair
  rcases hentries id pair hpair with hold | ⟨hid, hnew⟩
  · exact hwidens.houses (has_of_method hold) (hhoused id pair hold)
  · exact hwidens.houses hid hnew

theorem Stacked.widens_of_sameFrame (hstacked : first.Stacked) (hsame : first.SameFrame second) :
    first.Widens second := by
  refine ⟨hstacked, hstacked.of_sameFrame hsame, hsame.sameSlots.grows, ?_⟩
  intro outer inner hmixes
  rwa [Mixes, (hsame.record outer).prepends, (hsame.record outer).includes]

theorem Housed.putMethod (hhoused : graph.Housed) (hstacked : graph.Stacked) (hid : graph.Has id)
    (name : Symbol) {entry : MethodEntry} (hbody : graph.houses id entry.body) :
    (graph.update id (.putMethod name entry)).Housed := by
  apply hhoused.of_widens (hstacked.widens_of_sameFrame (graph.sameFrame_putMethod id name entry))
  intro other pair hpair
  rcases mem_putMethod hpair with ⟨rfl, rfl⟩ | hold
  · exact .inr ⟨hid, hbody⟩
  · exact .inl hold

end Graph

namespace State

variable {state : State}

/-! ## Changes keep builtin methods at home -/

theorem Sound.widens (hsound : state.Sound) {change : Change} (hfits : change.Fits state)
    (hdevelops : state.graph.Develops (change.apply state).graph) :
    state.graph.Widens (change.apply state).graph := by
  obtain ⟨hnext, hgrows⟩ := hsound.apply hfits
  exact ⟨hsound.graph.stacked, hnext.graph.stacked, hgrows.graph, hdevelops.mixes⟩

/-- The class into which a builtin method is installed is its home. -/
theorem Sound.home_builtinOwner (hsound : state.Sound) (builtin : Builtin) :
    (state.builtinOwner builtin).2.graph.home? builtin = some (state.builtinOwner builtin).1 := by
  rw [State.builtinOwner, Graph.home?]
  split
  · exact (hsound.graph.stacked.synthesizes (hsound.graph.stacked.has_core builtin.owner)).slot
  · rfl

theorem Sound.housed_installOne (hsound : state.Sound) (hhoused : state.graph.Housed)
    (installation : Nat) {registration : Registration}
    (hregistered : registration ∈ Builtin.registrations) :
    (state.installOne installation registration).graph.Housed := by
  have hready := (hsound.builtinOwner registration.builtin)
  have hdevelops := hsound.develops_builtinOwner registration.builtin
  have hhome := hsound.home_builtinOwner registration.builtin
  rw [installOne_eq]
  generalize state.builtinOwner registration.builtin = found at hready hdevelops hhome
  obtain ⟨owner, ready⟩ := found
  have hstacked := hready.1.graph.stacked
  have howner := hstacked.has_home hhome
  have hstill : ready.graph.Housed :=
    hhoused.of_widens ⟨hsound.graph.stacked, hstacked, hready.2.1.graph, hdevelops.mixes⟩
      fun id pair hpair => .inl (hdevelops.keepsMethods.mem hpair)
  apply hstill.putMethod hstacked howner
  exact Graph.houses_builtin.mpr
    ⟨⟨registration, hregistered, rfl⟩, owner, hhome, hstacked.self_mem_ancestors howner⟩

/-- Every change that only copies single builtin methods keeps them at home. -/
theorem Sound.housed_apply (hsound : state.Sound) (hhoused : state.graph.Housed) {change : Change}
    (hfits : change.Fits state) (hcopies : change.Copies state) :
    (change.apply state).graph.Housed := by
  by_cases hwrites : change.WritesMethods
  · cases change with
    | putMethod id name body visibility =>
        apply hhoused.putMethod hsound.graph.stacked hfits.1
        cases body with
        | builtin builtin installation =>
            obtain ⟨other, entry, hfind, hbody⟩ := hcopies rfl
            have hhouses := hhoused.houses_of_find hsound.graph.stacked hfits.1 hfind
            rwa [hbody] at hhouses
        | _ => rfl
    | eraseMethod id name =>
        have hsame : state.graph.SameFrame (state.graph.update id (.eraseMethod name)) :=
          state.graph.sameFrame_update id fun record => record.sameFrame_with _ _ _ _ _ _
        exact hhoused.of_widens (hsound.graph.stacked.widens_of_sameFrame hsame)
          fun other pair hpair => .inl (Graph.mem_eraseMethod hpair)
    | installBuiltins =>
        exact hsound.graph_installBuiltins hhoused fun hstill hregistered hhoused =>
          hstill.housed_installOne hhoused _ hregistered
    | _ => exact hwrites.elim
  · have hdevelops := hsound.develops hfits hwrites
    exact hhoused.of_widens (hsound.widens hfits hdevelops)
      fun id pair hpair => .inl (hdevelops.keepsMethods.mem hpair)

/-- Builtin methods are at home at the start. -/
theorem housed_standard : standard.graph.Housed := by
  apply @standard_induct fun state => state.graph.Housed
  · intro id pair hpair
    rw [empty_methods_bare] at hpair
    exact absurd hpair List.not_mem_nil
  · intro state change hsound hfits hsingle hhoused
    apply hsound.housed_apply hhoused hfits
    cases change with
    | putMethod id name body visibility => exact absurd rfl (hsingle id name body visibility)
    | _ => trivial

/-- Runs keep builtin methods at home. -/
theorem Sound.housed_runs {later : State} (hsound : state.Sound) (hruns : state.Runs later)
    (hhoused : state.graph.Housed) : later.graph.Housed :=
  hsound.runs_induct (fun hsound hfits hguarded hhoused =>
    hsound.housed_apply hhoused hfits hguarded.copies) hruns hhoused

end State

end ObjectModel
