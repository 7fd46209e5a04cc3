import ObjectModel.Proofs.Graph.Core
import ObjectModel.Proofs.Graph.Search

/-! # The core is enclosed

Nothing that is searched for the methods of a core class lies outside of the core: the superclass of a core class, the
modules mixed into it and its metaclass belong to the core themselves. So what a search of a core class finds depends
on the records of the core alone.
-/

namespace ObjectModel

/-- Two records that give the same to instances: the same methods, and the same modules in the same order. -/
structure ClassRecord.SameBehavior (first second : ClassRecord) : Prop where
  methods : second.methods = first.methods
  includes : second.includes = first.includes
  prepends : second.prepends = first.prepends

namespace ClassRecord.SameBehavior

variable {first second third : ClassRecord}

theorem refl (record : ClassRecord) : record.SameBehavior record := ⟨rfl, rfl, rfl⟩

theorem trans (hfirst : first.SameBehavior second) (hsecond : second.SameBehavior third) :
    first.SameBehavior third where
  methods := hsecond.methods.trans hfirst.methods
  includes := hsecond.includes.trans hfirst.includes
  prepends := hsecond.prepends.trans hfirst.prepends

theorem of_fills (hfills : first.Fills second) : first.SameBehavior second := by
  obtain ⟨slot, _, rfl⟩ := hfills
  exact ⟨rfl, rfl, rfl⟩

theorem of_isBlank (hblank : first.IsBlank) : Graph.missing.SameBehavior first := by
  obtain ⟨kind, superclass, attached, isCore, slot, rfl⟩ := hblank
  exact ⟨rfl, rfl, rfl⟩

end ClassRecord.SameBehavior

namespace Graph

variable {graph first second : Graph}

/-- A record that was added is one of a class without methods and modules. -/
theorem Extends.sameBehavior (hextends : first.Extends second) (id : ClassId) :
    (first.record id).SameBehavior (second.record id) := by
  by_cases hid : first.Has id
  · exact .of_fills (hextends.record hid)
  · rw [record_of_not_has hid]
    by_cases hnew : second.Has id
    · exact .of_isBlank (hextends.blank hnew hid)
    · rw [record_of_not_has hnew]
      exact .refl _

/-- Whether a class belongs to the core. -/
def isCore (graph : Graph) (id : ClassId) : Bool := (graph.record id).isCore

/-- The core is closed under what a search goes over, and under metaclasses in both directions. -/
structure Enclosed (graph : Graph) : Prop where
  core : ∀ core : CoreClass, graph.isCore core.id
  superclass : ∀ {id superclass}, graph.isCore id → graph.superclass? id = some superclass →
    graph.isCore superclass
  mixes : ∀ {outer inner}, graph.isCore outer → graph.Mixes outer inner → graph.isCore inner
  metaclass : ∀ {id metaclass}, (graph.record id).metaclass = some metaclass →
    graph.isCore metaclass = graph.isCore id

theorem has_of_isCore {id : ClassId} (hcore : graph.isCore id) : graph.Has id := by
  by_contra hid
  simp [isCore, record_of_not_has hid, missing, ClassRecord.fresh] at hcore

theorem Grows.isCore (hgrows : first.Grows second) {id : ClassId} (hid : first.Has id) :
    second.isCore id = first.isCore id :=
  (hgrows.record hid).isCore

namespace Enclosed

/-- A grown graph is enclosed, if what is new in it keeps to that. -/
theorem of_grows (henclosed : first.Enclosed) (hstacked : first.Stacked) (hgrows : first.Grows second)
    (hsuper : ∀ {id superclass}, ¬ first.Has id → second.isCore id →
      second.superclass? id = some superclass → second.isCore superclass)
    (hmixes : ∀ {outer inner}, second.isCore outer → second.Mixes outer inner →
      first.Mixes outer inner)
    (hslots : ∀ {id metaclass}, (second.record id).metaclass = some metaclass →
      (first.record id).metaclass = some metaclass ∨ second.isCore metaclass = second.isCore id) :
    second.Enclosed := by
  refine ⟨?_, ?_, ?_, ?_⟩
  · intro core
    rw [hgrows.isCore (hstacked.has_core core)]
    exact henclosed.core core
  · intro id superclass hcore habove
    by_cases hid : first.Has id
    · rw [superclass?, (hgrows.record hid).superclass] at habove
      have hlt := hstacked.superclass_lt habove
      rw [hgrows.isCore (Nat.lt_trans hlt hid)]
      exact henclosed.superclass (hgrows.isCore hid ▸ hcore) habove
    · exact hsuper hid hcore habove
  · intro outer inner hcore hinner
    have hold := hmixes hcore hinner
    rw [hgrows.isCore (has_of_isModule (hstacked.isModule_of_mixes hold))]
    exact henclosed.mixes (hgrows.isCore (has_of_mixes_left hold) ▸ hcore) hold
  · intro id metaclass hslot
    rcases hslots hslot with hold | hnew
    · rw [hgrows.isCore (hstacked.has_metaclass hold), hgrows.isCore (has_of_metaclass hold)]
      exact henclosed.metaclass hold
    · exact hnew

theorem of_sameFrame (henclosed : first.Enclosed) (hstacked : first.Stacked)
    (hsame : first.SameFrame second) : second.Enclosed := by
  apply henclosed.of_grows hstacked hsame.sameSlots.grows
  · intro id superclass hid hcore
    exact absurd (Nat.lt_of_lt_of_eq (has_of_isCore hcore) hsame.size) hid
  · intro outer inner _ hmixes
    rwa [Mixes, (hsame.record outer).prepends, (hsame.record outer).includes] at hmixes
  · intro id metaclass hslot
    exact .inl ((hsame.record id).metaclass ▸ hslot)

/-- Adding a class that does not belong to the core. -/
theorem add_fresh (henclosed : graph.Enclosed) (hstacked : graph.Stacked) (kind : ClassKind)
    (superclass : Option ClassId) (attached : Option Value) :
    (graph.add (.fresh kind superclass attached false)).2.Enclosed := by
  apply henclosed.of_grows hstacked (graph.extends_add _ _ _ _).grows
  · intro id above hid hcore
    obtain rfl := (has_add.mp (has_of_isCore hcore)).resolve_left hid
    rw [isCore, record_add_next] at hcore
    simp [ClassRecord.fresh] at hcore
  · intro outer inner hcore hmixes
    by_cases heq : outer = graph.next
    · subst heq
      simp [Mixes, record_add_next, ClassRecord.fresh] at hmixes
    · rwa [Mixes, record_add_of_ne heq] at hmixes
  · intro id metaclass hslot
    by_cases heq : id = graph.next
    · subst heq
      simp [record_add_next, ClassRecord.fresh] at hslot
    · exact .inl (record_add_of_ne heq _ ▸ hslot)

/-- What the metaclass of a core class inherits from belongs to the core. -/
theorem metaclassParent (henclosed : graph.Enclosed) {id parent : ClassId} (hcore : graph.isCore id)
    (hparent : graph.metaclassParent? id = some parent) : graph.isCore parent := by
  rw [metaclassParent?] at hparent
  split at hparent
  · exact Option.some.inj hparent ▸ henclosed.core .moduleClass
  next superclass hsuper _ =>
    rw [henclosed.metaclass hparent]
    exact henclosed.superclass hcore hsuper
  · exact Option.some.inj hparent ▸ henclosed.core .classClass

theorem attachMetaclass (henclosed : graph.Enclosed) (hstacked : graph.Stacked) {id parent : ClassId}
    (hid : graph.Has id) (hmissing : (graph.record id).metaclass = none)
    (hparent : graph.metaclassParent? id = some parent) :
    (graph.attachMetaclass id parent).Enclosed := by
  have hgrows := (extends_attachMetaclass hid hmissing parent).grows
  have hnew : (graph.attachMetaclass id parent).isCore graph.next = graph.isCore id := by
    rw [isCore, record_attachMetaclass_next hid]
    rfl
  have hself := hgrows.isCore hid
  apply henclosed.of_grows hstacked hgrows
  · intro other above hother hcore habove
    obtain rfl := (has_attachMetaclass.mp (has_of_isCore hcore)).resolve_left hother
    rw [superclass?, record_attachMetaclass_next hid] at habove
    obtain rfl : parent = above := Option.some.inj habove
    have hinside := henclosed.metaclassParent (hnew ▸ hcore) hparent
    rwa [hgrows.isCore (has_of_isCore hinside)]
  · intro outer inner _ hmixes
    by_cases hnext : outer = graph.next
    · subst hnext
      simp [Mixes, record_attachMetaclass_next hid, ClassRecord.fresh] at hmixes
    · by_cases heq : outer = id
      · subst heq
        rwa [Mixes, record_attachMetaclass_self hid] at hmixes
      · rwa [Mixes, record_attachMetaclass_of_ne heq hnext] at hmixes
  · intro other metaclass hslot
    by_cases hsame : other = id
    · right
      subst hsame
      rw [record_attachMetaclass_self hid] at hslot
      obtain rfl : graph.next = metaclass := Option.some.inj hslot
      exact hnew.trans hself.symm
    · left
      by_cases hnext : other = graph.next
      · subst hnext
        simp [record_attachMetaclass_next hid, ClassRecord.fresh] at hslot
      · rwa [record_attachMetaclass_of_ne hsame hnext] at hslot

theorem synthesis (henclosed : graph.Enclosed) (hstacked : graph.Stacked) {next : Graph}
    (hpath : Synthesis graph next) : next.Enclosed := by
  induction hpath with
  | refl => exact henclosed
  | attach hpath hid hmissing hparent ih =>
      exact ih.attachMetaclass (hstacked.synthesis hpath) hid hmissing hparent

theorem newClass (henclosed : graph.Enclosed) (hstacked : graph.Stacked) {superclass id : ClassId}
    {next : Graph} (hsuper : graph.Has superclass)
    (hresult : graph.newClass superclass = .ok (id, next)) : next.Enclosed := by
  obtain ⟨_, rfl, rfl⟩ := newClass_cases hresult
  have hadded := hstacked.add_class hsuper
  exact (henclosed.add_fresh hstacked _ _ _).synthesis hadded
    (hadded.synthesizes (has_add_next _ _)).path

theorem newModule (henclosed : graph.Enclosed) (hstacked : graph.Stacked) :
    graph.newModule.2.Enclosed := by
  have hadded := hstacked.add_module
  exact (henclosed.add_fresh hstacked _ _ _).synthesis hadded
    (hadded.synthesizes (has_add_next _ _)).path

/-- Mixing a module into a class that does not belong to the core. -/
theorem mix (henclosed : graph.Enclosed) (hstacked : graph.Stacked) {id mixin : ClassId}
    {change : ClassRecord → ClassRecord} (hchange : MixesIn mixin change) (houter : ¬ graph.isCore id) :
    (graph.update id change).Enclosed := by
  have hsame := graph.sameSlots_update id hchange.sameSlot
  apply henclosed.of_grows hstacked hsame.grows
  · intro other above hother hcore
    exact absurd (has_update.mp (has_of_isCore hcore)) hother
  · intro outer inner hcore hmixes
    rcases mixes_update hchange hmixes with hold | ⟨rfl, _⟩
    · exact hold
    · rw [isCore, (hsame.record outer).isCore] at hcore
      exact absurd hcore houter
  · intro other metaclass hslot
    exact .inl ((hsame.record other).metaclass ▸ hslot)

end Enclosed

/-! ## The core graph -/

/-- A record of the core graph refers to records of the core only. -/
def isEnclosed (graph : Graph) (record : ClassRecord) : Bool :=
  record.isCore && record.superclass.all graph.isCore && record.prepends.all graph.isCore &&
    record.includes.all graph.isCore && record.metaclass.all graph.isCore

theorem isEnclosed_core : ∀ index < core.size, core.isEnclosed (core.record ⟨index⟩) := by
  decide +kernel

theorem enclosed_core : Graph.core.Enclosed := by
  have hevery {id : ClassId} (hid : Graph.core.Has id) :
      Graph.core.isCore id ∧ (∀ superclass, Graph.core.superclass? id = some superclass →
        Graph.core.isCore superclass) ∧ (∀ inner, Graph.core.Mixes id inner →
          Graph.core.isCore inner) ∧ ∀ metaclass, (Graph.core.record id).metaclass = some metaclass →
            Graph.core.isCore metaclass := by
    have hrecord := isEnclosed_core id.index hid
    simp only [isEnclosed, Bool.and_eq_true, Option.all_eq_true, List.all_eq_true] at hrecord
    obtain ⟨⟨⟨⟨hcore, hsuper⟩, hprepends⟩, hincludes⟩, hmetaclass⟩ := hrecord
    exact ⟨hcore, hsuper, fun inner hmixes => hmixes.elim (hprepends inner) (hincludes inner),
      hmetaclass⟩
  refine ⟨?_, ?_, ?_, ?_⟩
  · exact fun core => (hevery (sound_core.stacked.has_core core)).1
  · exact fun hcore habove => (hevery (has_of_isCore hcore)).2.1 _ habove
  · exact fun hcore hmixes => (hevery (has_of_isCore hcore)).2.2.1 _ hmixes
  · intro id metaclass hslot
    have hid := hevery (has_of_metaclass hslot)
    rw [hid.1, hid.2.2.2 metaclass hslot]

/-! ## Searches of the core -/

section

variable (henclosed : first.Enclosed) (hfirst : first.Stacked) (hsecond : second.Stacked)
  (hgrows : first.Grows second)
  (hsame : ∀ id, first.isCore id → (first.record id).SameBehavior (second.record id)) {id : ClassId}
  (hcore : first.isCore id)

include henclosed hfirst hcore

theorem isCore_of_mem_chain {other : ClassId} (hother : other ∈ first.superclassChain id) :
    first.isCore other := by
  have hup := hfirst.mem_superclassChain.mp hother
  induction hup with
  | refl => exact hcore
  | tail hbefore hsuper ih =>
      exact henclosed.superclass (ih (hfirst.mem_superclassChain.mpr hbefore)) hsuper

theorem isCore_of_mem_ancestors {other : ClassId} (hother : other ∈ first.ancestors id) :
    first.isCore other := by
  rw [hfirst.mem_ancestors (has_of_isCore hcore)] at hother
  induction hother with
  | refl => exact hcore
  | tail _ hlink ih => exact hlink.elim (henclosed.superclass ih) (henclosed.mixes ih)

include hsecond hgrows hsame

theorem localPart_of_isCore : second.localPart id = first.localPart id := by
  induction id using hfirst.wellFounded_mixes.induction with
  | _ id ih =>
      have hid := has_of_isCore hcore
      rw [hfirst.localPart_eq hid, hsecond.localPart_eq (hgrows.has hid), (hsame id hcore).prepends,
        (hsame id hcore).includes]
      have hinner : ∀ inner, first.Mixes id inner → second.localPart inner = first.localPart inner :=
        fun inner hmixes => ih inner hmixes (henclosed.mixes hcore hmixes)
      congr 1
      · exact List.flatMap_congr fun inner hmem => hinner inner (.inl hmem)
      · congr 1
        exact List.flatMap_congr fun inner hmem => hinner inner (.inr hmem)

/-- The ancestors of a core class stay the same when the records of the core do. -/
theorem ancestors_of_isCore : second.ancestors id = first.ancestors id := by
  rw [ancestors, ancestors, hgrows.superclassChain hfirst hsecond (has_of_isCore hcore)]
  congr 1
  apply List.flatMap_congr
  intro other hother
  exact localPart_of_isCore henclosed hfirst hsecond hgrows hsame
    (isCore_of_mem_chain henclosed hfirst hcore hother)

/-- The methods of a core class stay the same when the records of the core do. -/
theorem findMethod_of_isCore (name : Symbol) : second.findMethod? id name = first.findMethod? id name := by
  have hancestors := ancestors_of_isCore henclosed hfirst hsecond hgrows hsame hcore
  rw [findMethod?, findMethod?, firstEntry?, firstEntry?, hancestors]
  congr 1
  apply findSome?_congr
  intro other hother
  rw [(hsame other (isCore_of_mem_ancestors henclosed hfirst hcore hother)).methods]

end

end Graph

end ObjectModel
