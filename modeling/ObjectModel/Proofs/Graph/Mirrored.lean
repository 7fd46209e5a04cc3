import ObjectModel.Graph.Core
import ObjectModel.Proofs.Graph.Growth

/-! # Metaclasses mirror classes

Where a class inherits from another one, its metaclass inherits from the metaclass of that one. The law holds from
the start and whatever is made later and in whatever order: a metaclass is made only after that of the superclass,
and a slot that was filled is never filled again.
-/

namespace ObjectModel.Graph

/-- The laws for the places of records: proper classes inherit from proper classes up to the root, and
singleton classes are those that are attached to something. -/
structure Placed (graph : Graph) : Prop where
  core_kind : ∀ core : CoreClass, (graph.record core.id).kind = core.kind
  core_superclass : ∀ core : CoreClass,
    (graph.record core.id).superclass = core.superclass?.map CoreClass.id
  superclass_kind : ∀ {id superclass}, (graph.record id).kind = .cls →
    (graph.record id).superclass = some superclass → (graph.record superclass).kind = .cls
  root : ∀ {id}, graph.Has id → (graph.record id).kind ≠ .mixin →
    (graph.record id).superclass = none → id = CoreClass.basicObject.id
  attached_iff : ∀ {id}, (graph.record id).attached.isSome ↔ (graph.record id).kind = .singleton

/-- A metaclass stands in the right place: it is attached to its class, and inherits from what the metaclass
of its class has to inherit from. -/
def MirrorsAt (graph : Graph) (id metaclass : ClassId) : Prop :=
  (graph.record metaclass).attached = some (.cls id) ∧
    ∃ parent, graph.metaclassParent? id = some parent ∧
      (graph.record metaclass).superclass = some parent

/-- The laws for the places of records, and those for metaclasses: what is kept with a class stands in the right
place, and what is attached to a class is kept with it. -/
structure Mirrored (graph : Graph) : Prop extends Placed graph where
  mirrors : ∀ {id metaclass}, (graph.record id).metaclass = some metaclass →
    graph.MirrorsAt id metaclass
  metaclass_of_attached : ∀ {id owner}, (graph.record id).attached = some (.cls owner) →
    (graph.record owner).metaclass = some id

/-- Nothing inherits from a module. -/
def Proper (graph : Graph) : Prop :=
  ∀ id superclass, graph.superclass? id = some superclass → ¬ graph.isModule superclass

/-- Every class and every module has its metaclass. -/
def Filled (graph : Graph) : Prop :=
  ∀ id, graph.Has id → (graph.record id).kind ≠ .singleton → (graph.record id).metaclass.isSome

/-! ## Places -/

namespace Placed

variable {graph : Graph}

theorem kind_of_attached (hplaced : graph.Placed) {id : ClassId} {value : Value}
    (hattached : (graph.record id).attached = some value) : (graph.record id).kind = .singleton :=
  hplaced.attached_iff.mp (by rw [hattached]; rfl)

/-- Records that are in the same places keep the laws for places. -/
theorem of_samePlace {first second : Graph} (hplaced : first.Placed) (hsize : second.size = first.size)
    (hsame : ∀ id, (first.record id).SamePlace (second.record id)) : second.Placed := by
  refine ⟨?_, ?_, ?_, ?_, ?_⟩
  · exact fun core => (hsame core.id).kind.trans (hplaced.core_kind core)
  · exact fun core => (hsame core.id).superclass.trans (hplaced.core_superclass core)
  · intro id superclass hkind hsuper
    rw [(hsame id).kind] at hkind
    rw [(hsame id).superclass] at hsuper
    rw [(hsame superclass).kind]
    exact hplaced.superclass_kind hkind hsuper
  · intro id hid hkind hsuper
    rw [Has, hsize] at hid
    rw [(hsame id).kind] at hkind
    rw [(hsame id).superclass] at hsuper
    exact hplaced.root hid hkind hsuper
  · intro id
    rw [(hsame id).attached, (hsame id).kind]
    exact hplaced.attached_iff

/-- Adding a record: one that is no module needs a superclass, a proper class one that is proper, and
just the singleton classes are attached to something. -/
theorem add_fresh (hplaced : graph.Placed) (hstacked : graph.Stacked)
    {kind : ClassKind} {superclass : Option ClassId} {attached : Option Value} {isCore : Bool}
    (hsuper : kind ≠ .mixin → superclass ≠ none)
    (hproper : kind = .cls → ∀ above, superclass = some above →
      graph.Has above ∧ (graph.record above).kind = .cls)
    (hattached : attached.isSome ↔ kind = .singleton) :
    (graph.add (.fresh kind superclass attached isCore)).2.Placed := by
  have hkeeps : ∀ {id}, graph.Has id → (graph.add (.fresh kind superclass attached isCore)).2.record id =
      graph.record id := fun hid => record_add_of_ne (ne_next_of_has hid) _
  refine ⟨?_, ?_, ?_, ?_, ?_⟩
  · intro core
    rw [hkeeps (hstacked.has_core core)]
    exact hplaced.core_kind core
  · intro core
    rw [hkeeps (hstacked.has_core core)]
    exact hplaced.core_superclass core
  · intro id above hkind habove
    by_cases heq : id = graph.next
    · subst heq
      rw [record_add_next] at hkind habove
      obtain ⟨hhas, hcls⟩ := hproper hkind above habove
      rwa [hkeeps hhas]
    · rw [record_add_of_ne heq] at hkind habove
      -- the new record is above no other one, since superclasses are older
      have hcls := hplaced.superclass_kind hkind habove
      have hlt := hstacked.superclass_lt habove
      rwa [hkeeps (Nat.lt_trans hlt (has_of_superclass habove))]
  · intro id hid hkind hnone
    by_cases heq : id = graph.next
    · subst heq
      rw [record_add_next] at hkind hnone
      exact absurd hnone (hsuper hkind)
    · rw [record_add_of_ne heq] at hkind hnone
      exact hplaced.root ((has_add.mp hid).resolve_right heq) hkind hnone
  · intro id
    by_cases heq : id = graph.next
    · subst heq
      rw [record_add_next]
      exact hattached
    · rw [record_add_of_ne heq]
      exact hplaced.attached_iff

end Placed

/-! ## Metaclasses -/

theorem Grows.metaclassParent {first second : Graph} (hgrows : first.Grows second) {id : ClassId}
    (hid : first.Has id) {parent : ClassId} (hparent : first.metaclassParent? id = some parent) :
    second.metaclassParent? id = some parent := by
  have hkeeps := hgrows.record hid
  rw [metaclassParent?, hkeeps.kind, hkeeps.superclass]
  rw [metaclassParent?] at hparent
  split
  next hkind => rwa [hkind] at hparent
  next superclass hsuper hkind =>
    rw [hsuper] at hparent
    have hslot : (first.record superclass).metaclass = some parent := by
      rw [← hparent]
      cases hcase : (first.record id).kind with
      | mixin => exact absurd hcase hkind
      | cls => rfl
      | singleton => rfl
    have habove := has_of_metaclass hslot
    exact (hgrows.record habove).metaclass hslot
  next hsuper hkind =>
    rw [hsuper] at hparent
    rw [← hparent]
    cases hcase : (first.record id).kind with
    | mixin => exact absurd hcase hkind
    | cls => rfl
    | singleton => rfl

/-- A metaclass in the right place stays there. -/
theorem Grows.mirrorsAt {first second : Graph} (hgrows : first.Grows second)
    (hstacked : first.Stacked) {id metaclass : ClassId}
    (hslot : (first.record id).metaclass = some metaclass) (hmirrors : first.MirrorsAt id metaclass) :
    second.MirrorsAt id metaclass := by
  have hkeeps := hgrows.record (hstacked.has_metaclass hslot)
  obtain ⟨hattached, parent, hparent, hsuper⟩ := hmirrors
  exact ⟨hkeeps.attached.trans hattached, parent,
    hgrows.metaclassParent (has_of_metaclass hslot) hparent, hkeeps.superclass.trans hsuper⟩

namespace Mirrored

variable {graph : Graph}

/-- A grown graph keeps the laws, if what is new in it keeps them. -/
theorem of_grows {first second : Graph} (hmirrored : first.Mirrored) (hstacked : first.Stacked)
    (hgrows : first.Grows second) (hplaced : second.Placed)
    (hslots : ∀ {id metaclass}, (second.record id).metaclass = some metaclass →
      (first.record id).metaclass = some metaclass ∨ second.MirrorsAt id metaclass)
    (hattached : ∀ {id owner}, (second.record id).attached = some (.cls owner) →
      (first.record id).attached = some (.cls owner) ∨
        (second.record owner).metaclass = some id) : second.Mirrored := by
  refine ⟨hplaced, ?_, ?_⟩
  · intro id metaclass hslot
    rcases hslots hslot with hold | hnew
    · exact hgrows.mirrorsAt hstacked hold (hmirrored.mirrors hold)
    · exact hnew
  · intro id owner howner
    rcases hattached howner with hold | hnew
    · have hslot := hmirrored.metaclass_of_attached hold
      exact (hgrows.record (has_of_metaclass hslot)).metaclass hslot
    · exact hnew

theorem of_sameSlots {first second : Graph} (hmirrored : first.Mirrored) (hstacked : first.Stacked)
    (hsame : first.SameSlots second) : second.Mirrored := by
  apply hmirrored.of_grows hstacked hsame.grows
  · exact hmirrored.toPlaced.of_samePlace hsame.size fun id => (hsame.record id).toSamePlace
  · intro id metaclass hslot
    exact .inl ((hsame.record id).metaclass ▸ hslot)
  · intro id owner howner
    exact .inl ((hsame.record id).attached ▸ howner)

/-- Adding a record that is attached to no class. -/
theorem add_fresh (hmirrored : graph.Mirrored) (hstacked : graph.Stacked) {kind : ClassKind}
    {superclass : Option ClassId} {attached : Option Value} {isCore : Bool}
    (hsuper : kind ≠ .mixin → superclass ≠ none)
    (hproper : kind = .cls → ∀ above, superclass = some above →
      graph.Has above ∧ (graph.record above).kind = .cls)
    (hattached : attached.isSome ↔ kind = .singleton)
    (hfree : ∀ owner, attached ≠ some (.cls owner)) :
    (graph.add (.fresh kind superclass attached isCore)).2.Mirrored := by
  apply hmirrored.of_grows hstacked (graph.extends_add _ _ _ _).grows
  · exact hmirrored.toPlaced.add_fresh hstacked hsuper hproper hattached
  · intro id metaclass hslot
    by_cases heq : id = graph.next
    · subst heq
      simp [record_add_next, ClassRecord.fresh] at hslot
    · exact .inl (record_add_of_ne heq _ ▸ hslot)
  · intro id owner howner
    by_cases heq : id = graph.next
    · subst heq
      rw [record_add_next] at howner
      exact absurd howner (hfree owner)
    · exact .inl (record_add_of_ne heq _ ▸ howner)

theorem attachMetaclass (hmirrored : graph.Mirrored) (hstacked : graph.Stacked) {id parent : ClassId}
    (hid : graph.Has id) (hmissing : (graph.record id).metaclass = none)
    (hparent : graph.metaclassParent? id = some parent) :
    (graph.attachMetaclass id parent).Mirrored := by
  have hgrows := (extends_attachMetaclass hid hmissing parent).grows
  -- new are the record of the metaclass and what stands in the slot of the class
  apply hmirrored.of_grows hstacked hgrows
  · have hadded : (graph.add (.fresh .singleton (some parent) (some (.cls id))
        (graph.record id).isCore)).2.Placed :=
      hmirrored.toPlaced.add_fresh hstacked (by simp) (by simp) (by simp)
    apply hadded.of_samePlace (size_update _ _ _)
    exact forall_record_update _ id .refl fun record => ⟨rfl, rfl, rfl, rfl⟩
  · intro other metaclass hslot
    by_cases hself : other = id
    · subst hself
      right
      rw [record_attachMetaclass_self hid] at hslot
      obtain rfl := Option.some.inj hslot
      have hnew := record_attachMetaclass_next hid parent
      exact ⟨by rw [hnew]; rfl, parent, hgrows.metaclassParent hid hparent, by rw [hnew]; rfl⟩
    · left
      by_cases hnext : other = graph.next
      · subst hnext
        simp [record_attachMetaclass_next hid, ClassRecord.fresh] at hslot
      · rwa [record_attachMetaclass_of_ne hself hnext] at hslot
  · intro other owner howner
    rcases has_attachMetaclass.mp (has_of_attached howner) with hold | rfl
    · exact .inl ((hgrows.record hold).attached.symm.trans howner)
    · right
      rw [record_attachMetaclass_next hid] at howner
      obtain rfl : id = owner := by simpa [ClassRecord.fresh] using howner
      rw [record_attachMetaclass_self hid]

theorem synthesis (hmirrored : graph.Mirrored) (hstacked : graph.Stacked) {next : Graph}
    (hpath : Synthesis graph next) : next.Mirrored := by
  induction hpath with
  | refl => exact hmirrored
  | attach hpath hid hmissing hparent ih =>
      exact ih.attachMetaclass (hstacked.synthesis hpath) hid hmissing hparent

theorem isModule_core (hmirrored : graph.Mirrored) {core : CoreClass}
    (hcore : core.kind = .cls) : ¬ graph.isModule core.id := by
  rw [isModule_iff, hmirrored.core_kind, hcore]
  decide

theorem kind_metaclass (hmirrored : graph.Mirrored) {id metaclass : ClassId}
    (hslot : (graph.record id).metaclass = some metaclass) :
    (graph.record metaclass).kind = .singleton :=
  hmirrored.toPlaced.kind_of_attached (hmirrored.mirrors hslot).1

/-- No metaclass inherits from a module. -/
theorem not_isModule_parent (hmirrored : graph.Mirrored) {id parent : ClassId}
    (hparent : graph.metaclassParent? id = some parent) : ¬ graph.isModule parent := by
  rw [metaclassParent?] at hparent
  split at hparent
  · obtain rfl := Option.some.inj hparent
    exact hmirrored.isModule_core rfl
  · rw [isModule_iff, hmirrored.kind_metaclass hparent]
    decide
  · obtain rfl := Option.some.inj hparent
    exact hmirrored.isModule_core rfl

end Mirrored

/-! ## Filled slots -/

/-- What is new after missing metaclasses were attached is singleton classes. -/
theorem Synthesis.kind_of_new {graph next : Graph} (hpath : Synthesis graph next) {id : ClassId}
    (hid : next.Has id) (hnew : ¬ graph.Has id) : (next.record id).kind = .singleton := by
  induction hpath with
  | refl => exact absurd hid hnew
  | @attach middle owner parent _ howner hmissing _ ih =>
      rcases has_attachMetaclass.mp hid with hold | rfl
      · have hkeeps := (extends_attachMetaclass howner hmissing parent).grows.record hold
        exact hkeeps.kind.trans (ih hold)
      · rw [record_attachMetaclass_next howner]
        rfl

/-- What is attached to something after that is attached to a class, or was attached before. -/
theorem Synthesis.attached_cases {graph next : Graph} (hpath : Synthesis graph next) {id : ClassId}
    {value : Value} (hattached : (next.record id).attached = some value) :
    (graph.record id).attached = some value ∨ ∃ owner, value = .cls owner := by
  induction hpath with
  | refl => exact .inl hattached
  | @attach middle owner parent _ howner hmissing _ ih =>
      rcases has_attachMetaclass.mp (has_of_attached hattached) with hold | rfl
      · have hkeeps := (extends_attachMetaclass howner hmissing parent).grows.record hold
        exact ih (hkeeps.attached.symm.trans hattached)
      · rw [record_attachMetaclass_next howner] at hattached
        exact .inr ⟨owner, (Option.some.inj hattached).symm⟩

theorem attached_of_add {graph : Graph} {kind : ClassKind} {superclass : Option ClassId}
    {isCore : Bool} {id : ClassId} {value : Value}
    (hattached : ((graph.add (.fresh kind superclass none isCore)).2.record id).attached =
      some value) : (graph.record id).attached = some value := by
  by_cases heq : id = graph.next
  · subst heq
    simp [record_add_next, ClassRecord.fresh] at hattached
  · rwa [record_add_of_ne heq] at hattached

/-- A grown graph is filled, if what is new in it is. -/
theorem Filled.of_grows {first second : Graph} (hfilled : first.Filled) (hgrows : first.Grows second)
    (hnew : ∀ id, second.Has id → ¬ first.Has id → (second.record id).kind ≠ .singleton →
      (second.record id).metaclass.isSome) : second.Filled := by
  intro id hid hkind
  by_cases hold : first.Has id
  · have hkeeps := hgrows.record hold
    obtain ⟨metaclass, hslot⟩ := Option.isSome_iff_exists.mp (hfilled id hold (hkeeps.kind ▸ hkind))
    rw [hkeeps.metaclass hslot]
    rfl
  · exact hnew id hid hold hkind

theorem Filled.synthesis {graph next : Graph} (hfilled : graph.Filled)
    (hpath : Synthesis graph next) : next.Filled :=
  hfilled.of_grows hpath.grows fun _ hid hnew hkind => absurd (hpath.kind_of_new hid hnew) hkind

theorem Filled.of_sameSlots {first second : Graph} (hfilled : first.Filled)
    (hsame : first.SameSlots second) : second.Filled :=
  hfilled.of_grows hsame.grows fun _ hid hnew => absurd (by rwa [Has, hsame.size] at hid) hnew

/-- A record that was added gets its metaclass, while those before it have theirs. -/
theorem Filled.add_metaclassOf {graph : Graph} (hfilled : graph.Filled) {kind : ClassKind}
    {superclass : Option ClassId} {attached : Option Value} {isCore : Bool}
    (hstacked : (graph.add (.fresh kind superclass attached isCore)).2.Stacked) :
    ((graph.add (.fresh kind superclass attached isCore)).2.metaclassOf graph.next).2.Filled := by
  have hadded := hstacked.synthesizes (has_add_next _ _)
  have hextends := graph.extends_add kind superclass attached isCore
  apply hfilled.of_grows (hextends.grows.trans hadded.path.grows)
  intro id hid hnew hkind
  by_cases heq : id = graph.next
  · subst heq
    rw [hadded.slot]
    rfl
  · have hold : ¬ (graph.add (.fresh kind superclass attached isCore)).2.Has id := by
      rw [has_add]
      exact fun hhas => hhas.elim hnew heq
    exact absurd (hadded.path.kind_of_new hid hold) hkind

/-! ## Sound graphs -/

/-- The laws that every graph obeys which was built from the core graph. -/
structure Sound (graph : Graph) : Prop where
  stacked : graph.Stacked
  mirrored : graph.Mirrored
  filled : graph.Filled

namespace Sound

variable {graph next : Graph}

theorem of_sameFrame {first second : Graph} (hsound : first.Sound) (hsame : first.SameFrame second) :
    second.Sound :=
  ⟨hsound.stacked.of_sameFrame hsame, hsound.mirrored.of_sameSlots hsound.stacked hsame.sameSlots,
    hsound.filled.of_sameSlots hsame.sameSlots⟩

theorem synthesis (hsound : graph.Sound) (hpath : Synthesis graph next) : next.Sound :=
  ⟨hsound.stacked.synthesis hpath, hsound.mirrored.synthesis hsound.stacked hpath,
    hsound.filled.synthesis hpath⟩

theorem metaclassOf (hsound : graph.Sound) {id : ClassId} (hid : graph.Has id) :
    (graph.metaclassOf id).2.Sound :=
  hsound.synthesis (hsound.stacked.synthesizes hid).path

theorem newClass (hsound : graph.Sound) {superclass id : ClassId} (hsuper : graph.Has superclass)
    (hresult : graph.newClass superclass = .ok (id, next)) : next.Sound := by
  obtain ⟨hkind, rfl, rfl⟩ := newClass_cases hresult
  have hstacked := hsound.stacked.add_class hsuper
  have hmirrored : (graph.add (.fresh .cls (some superclass) none false)).2.Mirrored := by
    apply hsound.mirrored.add_fresh hsound.stacked
    · simp
    · rintro _ above habove
      obtain rfl := Option.some.inj habove
      exact ⟨hsuper, hkind⟩
    · simp
    · simp
  have hpath := (hstacked.synthesizes (has_add_next _ _)).path
  exact ⟨hstacked.synthesis hpath, hmirrored.synthesis hstacked hpath,
    hsound.filled.add_metaclassOf hstacked⟩

theorem newModule (hsound : graph.Sound) : graph.newModule.2.Sound := by
  have hstacked := hsound.stacked.add_module
  have hmirrored : (graph.add (.fresh .mixin none none false)).2.Mirrored :=
    hsound.mirrored.add_fresh hsound.stacked (by simp) (by simp) (by simp) (by simp)
  have hpath := (hstacked.synthesizes (has_add_next _ _)).path
  exact ⟨hstacked.synthesis hpath, hmirrored.synthesis hstacked hpath,
    hsound.filled.add_metaclassOf hstacked⟩

/-- The singleton class of a value that is no class. -/
theorem newObjectSingleton (hsound : graph.Sound) {object : Value} {cls : ClassId}
    (hobject : ∀ owner, object ≠ .cls owner) (hcls : graph.Has cls) :
    (graph.newObjectSingleton object cls).2.Sound := by
  refine ⟨?_, ?_, ?_⟩
  · apply hsound.stacked.add_fresh
    · rintro above habove
      obtain rfl := Option.some.inj habove
      exact hcls
    · simp
  · apply hsound.mirrored.add_fresh hsound.stacked
    · simp
    · simp
    · simp
    · intro owner howner
      exact hobject owner (Option.some.inj howner)
  · apply hsound.filled.of_grows (graph.extends_add _ _ _ _).grows
    intro id hid hnew hkind
    have heq := (has_add.mp hid).resolve_left hnew
    subst heq
    rw [record_add_next] at hkind
    exact absurd rfl hkind

theorem mix (hsound : graph.Sound) {id mixin : ClassId} (hmixable : graph.Mixable id mixin)
    {change : ClassRecord → ClassRecord} (hchange : MixesIn mixin change) :
    (graph.update id change).Sound :=
  have hsame := graph.sameSlots_update id hchange.sameSlot
  ⟨hsound.stacked.mix hmixable hchange, hsound.mirrored.of_sameSlots hsound.stacked hsame,
    hsound.filled.of_sameSlots hsame⟩

theorem includeModule (hsound : graph.Sound) {id mixin : ClassId} {added : Bool}
    (hresult : graph.includeModule id mixin = .ok (added, next)) : next.Sound := by
  rcases includeModule_cases hresult with rfl | ⟨rfl, hmixable⟩
  · exact hsound
  · exact hsound.mix hmixable (.inl rfl)

theorem prependModule (hsound : graph.Sound) {id mixin : ClassId} {added : Bool}
    (hresult : graph.prependModule id mixin = .ok (added, next)) : next.Sound := by
  rcases prependModule_cases hresult with rfl | ⟨rfl, hmixable⟩
  · exact hsound
  · exact hsound.mix hmixable (.inr rfl)

end Sound

end ObjectModel.Graph
