import ObjectModel.Proofs.Graph.Stacked

/-! # How metaclasses come about

Asking for the metaclass of a class attaches missing metaclasses one by one, from the top of the superclass chain
down to the class. Each of them is attached where nothing was attached before, and inherits from what is already
there. The search for the top never comes back to a class that it has left.
-/

namespace ObjectModel.Graph

/-- What the metaclass of a class inherits from: `Module` for a module, `Class` for a class without a
superclass, and else the metaclass of the superclass, if that is there. -/
def metaclassParent? (graph : Graph) (id : ClassId) : Option ClassId :=
  match (graph.record id).kind, (graph.record id).superclass with
  | .mixin, _ => some CoreClass.moduleClass.id
  | _, some superclass => (graph.record superclass).metaclass
  | _, none => some CoreClass.classClass.id

/-- Adds a metaclass under a parent and keeps it with the class whose metaclass it is. -/
def attachMetaclass (graph : Graph) (id parent : ClassId) : Graph :=
  (graph.add (.fresh .singleton (some parent) (some (.cls id)) (graph.record id).isCore)).2.update id
    fun record => { record with metaclass := some graph.next }

/-- A graph goes over into another one by attaching missing metaclasses. -/
inductive Synthesis (graph : Graph) : Graph → Prop
  | refl : Synthesis graph graph
  | attach {middle : Graph} {id parent : ClassId} (hpath : Synthesis graph middle)
      (hid : middle.Has id) (hmissing : (middle.record id).metaclass = none)
      (hparent : middle.metaclassParent? id = some parent) :
      Synthesis graph (middle.attachMetaclass id parent)

/-! ## Records after a metaclass was attached -/

theorem has_attachMetaclass {graph : Graph} {id parent other : ClassId} :
    (graph.attachMetaclass id parent).Has other ↔ graph.Has other ∨ other = graph.next := by
  rw [attachMetaclass, has_update, has_add]

theorem record_attachMetaclass_self {graph : Graph} {id : ClassId} (hid : graph.Has id)
    (parent : ClassId) :
    (graph.attachMetaclass id parent).record id =
      { graph.record id with metaclass := some graph.next } := by
  have hne : id ≠ graph.next := fun heq => not_has_next graph (heq ▸ hid)
  rw [attachMetaclass, record_update_self (has_add.mpr (.inl hid)), record_add_of_ne hne]

theorem record_attachMetaclass_next {graph : Graph} {id : ClassId} (hid : graph.Has id)
    (parent : ClassId) :
    (graph.attachMetaclass id parent).record graph.next =
      .fresh .singleton (some parent) (some (.cls id)) (graph.record id).isCore := by
  have hne : graph.next ≠ id := fun heq => not_has_next graph (heq ▸ hid)
  rw [attachMetaclass, record_update_of_ne hne, record_add_next]

theorem record_attachMetaclass_of_ne {graph : Graph} {id other : ClassId} (hself : other ≠ id)
    (hnext : other ≠ graph.next) (parent : ClassId) :
    (graph.attachMetaclass id parent).record other = graph.record other := by
  rw [attachMetaclass, record_update_of_ne hself, record_add_of_ne hnext]

/-! ## The metaclass of a class -/

/-- The parent of a metaclass that is to be made, with the graph in which it is found. -/
def parentWithin (graph : Graph) (bound : Nat) (id : ClassId) : ClassId × Graph :=
  match (graph.record id).kind, (graph.record id).superclass with
  | .mixin, _ => (CoreClass.moduleClass.id, graph)
  | _, some superclass => metaclassWithin bound superclass graph
  | _, none => (CoreClass.classClass.id, graph)

theorem metaclassWithin_eq_match (graph : Graph) (bound : Nat) (id : ClassId) :
    metaclassWithin (bound + 1) id graph =
      match (graph.record id).metaclass with
      | some metaclass => (metaclass, graph)
      | none =>
          let found := graph.parentWithin bound id
          (found.2.next, (found.2.add (.fresh .singleton (some found.1) (some (.cls id))
            (graph.record id).isCore)).2.update id
              fun record => { record with metaclass := some found.2.next }) := rfl

theorem metaclassWithin_of_some {graph : Graph} {id metaclass : ClassId} (bound : Nat)
    (hslot : (graph.record id).metaclass = some metaclass) :
    metaclassWithin (bound + 1) id graph = (metaclass, graph) := by
  rw [metaclassWithin_eq_match, hslot]

theorem metaclassWithin_of_none {graph above : Graph} {id parent : ClassId} {bound : Nat}
    (hmissing : (graph.record id).metaclass = none)
    (hparent : graph.parentWithin bound id = (parent, above))
    (hrecord : above.record id = graph.record id) :
    metaclassWithin (bound + 1) id graph = (above.next, above.attachMetaclass id parent) := by
  rw [metaclassWithin_eq_match, hmissing, hparent, attachMetaclass, hrecord]

namespace Stacked

variable {graph : Graph}

theorem metaclassWithin_succ (hstacked : graph.Stacked) {bound : Nat} {id : ClassId}
    (hbound : id.index < bound) :
    metaclassWithin (bound + 1) id graph = metaclassWithin bound id graph := by
  induction bound generalizing id with
  | zero => omega
  | succ bound ih =>
      have hparent : graph.parentWithin (bound + 1) id = graph.parentWithin bound id := by
        rw [parentWithin, parentWithin]
        split
        · rfl
        next superclass hsuper _ =>
          have hlt := hstacked.superclass_lt hsuper
          exact ih (by omega)
        · rfl
      rw [metaclassWithin_eq_match, metaclassWithin_eq_match, hparent]

/-- Any bound beyond the position of a class gives its metaclass: the way up goes to older classes
only, so it never comes back to a class that waits for its own metaclass. -/
theorem metaclassWithin_eq (hstacked : graph.Stacked) {bound : Nat} {id : ClassId}
    (hbound : id.index < bound) : metaclassWithin bound id graph = graph.metaclassOf id :=
  eq_of_stable (fun bound => metaclassWithin bound id graph)
    (fun _ hlt => hstacked.metaclassWithin_succ hlt) hbound

end Stacked

theorem Synthesis.has {graph next : Graph} (hpath : Synthesis graph next) {id : ClassId}
    (hid : graph.Has id) : next.Has id := by
  induction hpath with
  | refl => exact hid
  | attach _ _ _ _ ih => exact has_attachMetaclass.mpr (.inl ih)

theorem metaclassParent?_of_module {graph : Graph} {id : ClassId}
    (hkind : (graph.record id).kind = .mixin) :
    graph.metaclassParent? id = some CoreClass.moduleClass.id := by
  rw [metaclassParent?, hkind]

theorem metaclassParent?_of_some {graph : Graph} {id superclass : ClassId}
    (hkind : (graph.record id).kind ≠ .mixin)
    (hsuper : (graph.record id).superclass = some superclass) :
    graph.metaclassParent? id = (graph.record superclass).metaclass := by
  rw [metaclassParent?, hsuper]
  cases hcase : (graph.record id).kind with
  | mixin => exact absurd hcase hkind
  | cls => rfl
  | singleton => rfl

theorem metaclassParent?_of_none {graph : Graph} {id : ClassId}
    (hkind : (graph.record id).kind ≠ .mixin) (hsuper : (graph.record id).superclass = none) :
    graph.metaclassParent? id = some CoreClass.classClass.id := by
  rw [metaclassParent?, hsuper]
  cases hcase : (graph.record id).kind with
  | mixin => exact absurd hcase hkind
  | cls => rfl
  | singleton => rfl

/-- What making a metaclass leads to: missing metaclasses are attached, at the end that of the class,
and the records of younger classes stay as they are. -/
structure Synthesizes (graph : Graph) (id : ClassId) (result : ClassId × Graph) : Prop where
  path : Synthesis graph result.2
  slot : (result.2.record id).metaclass = some result.1
  younger : ∀ other, graph.Has other → id.index < other.index →
    result.2.record other = graph.record other

/-- What finding the parent of a metaclass leads to. -/
structure FindsParent (graph : Graph) (id : ClassId) (result : ClassId × Graph) : Prop where
  path : Synthesis graph result.2
  parent : result.2.metaclassParent? id = some result.1
  younger : ∀ other, graph.Has other → id.index ≤ other.index →
    result.2.record other = graph.record other

theorem findsParent_self {graph : Graph} {id parent : ClassId}
    (hparent : graph.metaclassParent? id = some parent) : graph.FindsParent id (parent, graph) :=
  ⟨.refl, hparent, fun _ _ _ => rfl⟩

/-- With the metaclass of the superclass the parent is found. -/
theorem Synthesizes.findsParent {graph : Graph} {id superclass : ClassId} {result : ClassId × Graph}
    (hresult : graph.Synthesizes superclass result) (hid : graph.Has id)
    (hkind : (graph.record id).kind ≠ .mixin)
    (hsuper : (graph.record id).superclass = some superclass)
    (hlt : superclass.index < id.index) : graph.FindsParent id result := by
  have hrecord := hresult.younger id hid hlt
  refine ⟨hresult.path, ?_, ?_⟩
  · rw [metaclassParent?_of_some (hrecord ▸ hkind) (hrecord ▸ hsuper), hresult.slot]
  · intro other hother hle
    exact hresult.younger other hother (Nat.lt_of_lt_of_le hlt hle)

/-- With the parent of a missing metaclass the metaclass is made. -/
theorem FindsParent.synthesizes {graph : Graph} {id : ClassId} {result : ClassId × Graph}
    (hresult : graph.FindsParent id result) (hid : graph.Has id)
    (hmissing : (graph.record id).metaclass = none) :
    graph.Synthesizes id (result.2.next, result.2.attachMetaclass id result.1) := by
  have hrecord := hresult.younger id hid (Nat.le_refl _)
  have hhas := hresult.path.has hid
  refine ⟨hresult.path.attach hhas (hrecord ▸ hmissing) hresult.parent, ?_, ?_⟩
  · rw [record_attachMetaclass_self hhas]
  · intro other hother hlt
    -- a younger class is neither the one that gets the metaclass nor the metaclass itself
    have hself : other ≠ id := by
      rintro rfl
      omega
    have hnext : other ≠ result.2.next := by
      rintro rfl
      exact not_has_next _ (hresult.path.has hother)
    rw [record_attachMetaclass_of_ne hself hnext]
    exact hresult.younger other hother (Nat.le_of_lt hlt)

theorem Stacked.synthesizes_within {graph : Graph} (hstacked : graph.Stacked) {bound : Nat}
    {id : ClassId} (hid : graph.Has id) (hbound : id.index < bound) :
    graph.Synthesizes id (metaclassWithin bound id graph) := by
  induction bound generalizing id with
  | zero => omega
  | succ bound ih =>
      cases hslot : (graph.record id).metaclass with
      | some metaclass =>
          rw [metaclassWithin_of_some bound hslot]
          exact ⟨.refl, hslot, fun _ _ _ => rfl⟩
      | none =>
          have hparent : graph.FindsParent id (graph.parentWithin bound id) := by
            rw [parentWithin]
            split
            next hkind => exact findsParent_self (metaclassParent?_of_module hkind)
            next superclass hsuper hkind =>
              have hlt := hstacked.superclass_lt hsuper
              have habove := ih (Nat.lt_trans hlt hid) (by omega)
              exact habove.findsParent hid hkind hsuper hlt
            next hsuper hkind => exact findsParent_self (metaclassParent?_of_none hkind hsuper)
          -- finding the parent left the record of the class as it was
          rw [metaclassWithin_of_none hslot rfl (hparent.younger id hid (Nat.le_refl _))]
          exact hparent.synthesizes hid hslot

/-- Asking for the metaclass of a class makes those that are missing on the way to it. -/
theorem Stacked.synthesizes {graph : Graph} (hstacked : graph.Stacked) {id : ClassId}
    (hid : graph.Has id) : graph.Synthesizes id (graph.metaclassOf id) :=
  hstacked.synthesizes_within hid (Nat.lt_succ_self _)

theorem metaclassOf_of_some {graph : Graph} {id metaclass : ClassId}
    (hslot : (graph.record id).metaclass = some metaclass) :
    graph.metaclassOf id = (metaclass, graph) :=
  metaclassWithin_of_some _ hslot

end ObjectModel.Graph
