import ObjectModel.Proofs.Graph.Mirrored

/-! # The core graph is sound

The records of the core classes refer only to each other, and from them the core graph comes about by making
metaclasses and by putting in names and constants.
-/

namespace ObjectModel

namespace CoreClass

theorem map_id_all : all.map id = (List.range all.length).map ClassId.mk := by decide

theorem exists_of_index {position : ClassId} (hposition : position.index < all.length) :
    ∃ core : CoreClass, position = core.id := by
  have hmem : position ∈ all.map id := by
    rw [map_id_all]
    exact List.mem_map_of_mem (List.mem_range.mpr hposition)
  obtain ⟨core, _, hcore⟩ := List.mem_map.mp hmem
  exact ⟨core, hcore.symm⟩

theorem id_injective : Function.Injective id := by
  intro first second
  cases first <;> cases second <;> decide

theorem superclass_cases {core above : CoreClass} (habove : core.superclass? = some above) :
    above.id.index < core.id.index ∧ core.kind = .cls ∧ above.kind = .cls := by
  revert habove
  cases core <;> cases above <;> decide

theorem includes_cases {core mixin : CoreClass} (hmixin : mixin ∈ core.includes) :
    mixin.kind = .mixin ∧ mixin.includes = [] := by
  revert hmixin
  cases core <;> cases mixin <;> decide

theorem eq_basicObject {core : CoreClass} (hkind : core.kind ≠ .mixin)
    (hroot : core.superclass? = none) : core = basicObject := by
  revert hkind hroot
  cases core <;> decide

end CoreClass

namespace Graph

open Relation

/-! ## The bare records -/

/-- The records of the core classes before they have names and metaclasses. -/
def bareCore : Graph := ⟨CoreClass.all.map CoreClass.record⟩

theorem has_bareCore (core : CoreClass) : bareCore.Has core.id := by
  cases core <;> decide

theorem record_bareCore (core : CoreClass) : bareCore.record core.id = core.record := by
  cases core <;> rfl

theorem record_bareCore_cases (id : ClassId) :
    (∃ core : CoreClass, id = core.id ∧ bareCore.record id = core.record) ∨
      bareCore.record id = missing := by
  by_cases hid : bareCore.Has id
  · obtain ⟨core, rfl⟩ := CoreClass.exists_of_index hid
    exact .inl ⟨core, rfl, record_bareCore core⟩
  · exact .inr (record_of_not_has hid)

theorem superclass_bareCore {id superclass : ClassId}
    (hsuper : (bareCore.record id).superclass = some superclass) :
    ∃ core above : CoreClass, id = core.id ∧ superclass = above.id ∧
      core.superclass? = some above := by
  rcases record_bareCore_cases id with ⟨core, rfl, heq⟩ | heq
  · rw [heq] at hsuper
    obtain ⟨above, habove, rfl⟩ := Option.map_eq_some_iff.mp hsuper
    exact ⟨core, above, rfl, rfl, habove⟩
  · simp [heq, missing, ClassRecord.fresh] at hsuper

theorem mixes_bareCore {outer inner : ClassId} (hmixes : bareCore.Mixes outer inner) :
    ∃ core mixin : CoreClass, outer = core.id ∧ inner = mixin.id ∧ mixin ∈ core.includes := by
  rcases record_bareCore_cases outer with ⟨core, rfl, heq⟩ | heq
  · rw [Mixes, heq] at hmixes
    rcases hmixes with hprepend | hinclude
    · simp [CoreClass.record, ClassRecord.fresh] at hprepend
    · obtain ⟨mixin, hmixin, rfl⟩ := List.mem_map.mp hinclude
      exact ⟨core, mixin, rfl, rfl, hmixin⟩
  · simp [Mixes, heq, missing, ClassRecord.fresh] at hmixes

theorem metaclass_bareCore (id : ClassId) : (bareCore.record id).metaclass = none := by
  rcases record_bareCore_cases id with ⟨core, _, heq⟩ | heq <;> rw [heq] <;> rfl

theorem attached_bareCore (id : ClassId) : (bareCore.record id).attached = none := by
  rcases record_bareCore_cases id with ⟨core, _, heq⟩ | heq <;> rw [heq] <;> rfl

theorem kind_bareCore (id : ClassId) : (bareCore.record id).kind ≠ .singleton := by
  rcases record_bareCore_cases id with ⟨core, _, heq⟩ | heq
  · rw [heq]
    cases core <;> decide
  · rw [heq]
    decide

/-- A core module has nothing mixed in, so a way from a class to a module that was mixed in ends there. -/
theorem acyclic_bareCore (id : ClassId) : ¬ TransGen bareCore.Mixes id id := by
  intro hcycle
  -- the last step of a cycle comes to a module, from which its first step starts
  obtain ⟨_, _, hlast⟩ := TransGen.tail'_iff.mp hcycle
  obtain ⟨_, hfirst, _⟩ := TransGen.head'_iff.mp hcycle
  obtain ⟨_, mixin, _, rfl, hmixin⟩ := mixes_bareCore hlast
  obtain ⟨core, inner, hcore, _, hinner⟩ := mixes_bareCore hfirst
  obtain rfl := CoreClass.id_injective hcore
  rw [(CoreClass.includes_cases hmixin).2] at hinner
  simp at hinner

theorem stacked_bareCore : bareCore.Stacked := by
  refine ⟨?_, ?_, ?_, acyclic_bareCore, ?_, has_bareCore⟩
  · intro id superclass hsuper
    obtain ⟨core, above, rfl, rfl, habove⟩ := superclass_bareCore hsuper
    exact (CoreClass.superclass_cases habove).1
  · intro id hmodule
    by_contra hsome
    obtain ⟨superclass, hsuper⟩ := Option.ne_none_iff_exists'.mp hsome
    obtain ⟨core, above, rfl, rfl, habove⟩ := superclass_bareCore hsuper
    have hkind := (CoreClass.superclass_cases habove).2.1
    rw [isModule_iff, record_bareCore] at hmodule
    exact absurd (hkind.symm.trans hmodule) (by decide)
  · intro outer inner hmixes
    obtain ⟨core, mixin, rfl, rfl, hmixin⟩ := mixes_bareCore hmixes
    rw [isModule_iff, record_bareCore]
    exact (CoreClass.includes_cases hmixin).1
  · intro id metaclass hslot
    simp [metaclass_bareCore] at hslot

theorem mirrored_bareCore : bareCore.Mirrored := by
  refine ⟨⟨?_, ?_, ?_, ?_, ?_⟩, ?_, ?_⟩
  · intro core
    rw [record_bareCore]
    rfl
  · intro core
    rw [record_bareCore]
    rfl
  · intro id superclass _ hsuper
    obtain ⟨core, above, rfl, rfl, habove⟩ := superclass_bareCore hsuper
    rw [record_bareCore]
    exact (CoreClass.superclass_cases habove).2.2
  · intro id hid hkind hsuper
    obtain ⟨core, rfl⟩ := CoreClass.exists_of_index hid
    rw [record_bareCore] at hkind hsuper
    rw [CoreClass.eq_basicObject hkind (Option.map_eq_none_iff.mp hsuper)]
  · intro id
    simp [attached_bareCore, kind_bareCore]
  · intro id metaclass hslot
    simp [metaclass_bareCore] at hslot
  · intro id owner hattached
    simp [attached_bareCore] at hattached

/-! ## Names and metaclasses -/

/-- What holds while the core classes get their names and metaclasses one after the other: the laws
hold, and those that had their turn have a metaclass. -/
structure Naming (done : List CoreClass) (graph : Graph) : Prop where
  stacked : graph.Stacked
  mirrored : graph.Mirrored
  isCore : ∀ id, graph.Has id → (graph.record id).kind ≠ .singleton → ∃ core : CoreClass, id = core.id
  filled : ∀ core ∈ done, (graph.record core.id).metaclass.isSome

theorem naming_bareCore : Naming [] bareCore :=
  ⟨stacked_bareCore, mirrored_bareCore, fun _ hid _ => CoreClass.exists_of_index hid, by simp⟩

theorem Naming.of_sameFrame {done : List CoreClass} {first second : Graph}
    (hnaming : Naming done first) (hsame : first.SameFrame second) : Naming done second := by
  refine ⟨hnaming.stacked.of_sameFrame hsame,
    hnaming.mirrored.of_sameSlots hnaming.stacked hsame.sameSlots, ?_, ?_⟩
  · intro id hid hkind
    rw [Has, hsame.size] at hid
    rw [(hsame.record id).kind] at hkind
    exact hnaming.isCore id hid hkind
  · intro core hcore
    rw [(hsame.record core.id).metaclass]
    exact hnaming.filled core hcore

theorem Naming.metaclassOf {done : List CoreClass} {graph : Graph} (hnaming : Naming done graph)
    (core : CoreClass) : Naming (core :: done) (graph.metaclassOf core.id).2 := by
  have hmade := hnaming.stacked.synthesizes (hnaming.stacked.has_core core)
  have hgrows := hmade.path.grows
  refine ⟨hnaming.stacked.synthesis hmade.path,
    hnaming.mirrored.synthesis hnaming.stacked hmade.path, ?_, ?_⟩
  · intro id hid hkind
    by_cases hold : graph.Has id
    · rw [(hgrows.record hold).kind] at hkind
      exact hnaming.isCore id hold hkind
    · exact absurd (hmade.path.kind_of_new hid hold) hkind
  · intro other hother
    rcases List.mem_cons.mp hother with rfl | hother
    · rw [hmade.slot]
      rfl
    · obtain ⟨metaclass, hslot⟩ := Option.isSome_iff_exists.mp (hnaming.filled other hother)
      rw [(hgrows.record (hnaming.stacked.has_core other)).metaclass hslot]
      rfl

theorem Naming.nameCore {done : List CoreClass} {graph : Graph} (hnaming : Naming done graph)
    (core : CoreClass) : Naming (core :: done) (graph.nameCore core) := by
  have hmade := hnaming.metaclassOf core
  rw [Graph.nameCore]
  apply Naming.of_sameFrame _ (sameFrame_update _ _ _)
  · apply hmade.of_sameFrame (sameFrame_update _ _ _)
    exact fun record => record.sameFrame_with _ _ _ _ _ _
  · exact fun record => record.sameFrame_with _ _ _ _ _ _

theorem Naming.foldl {done : List CoreClass} {graph : Graph} (hnaming : Naming done graph)
    (cores : List CoreClass) : Naming (cores.reverse ++ done) (cores.foldl Graph.nameCore graph) := by
  induction cores generalizing done graph with
  | nil => exact hnaming
  | cons core rest ih =>
      rw [List.foldl_cons, List.reverse_cons, List.append_assoc]
      exact ih (hnaming.nameCore core)

/-- The core graph obeys the laws. -/
theorem sound_core : Graph.core.Sound := by
  have hnaming := naming_bareCore.foldl CoreClass.all
  have hcore : Naming (CoreClass.all.reverse ++ []) Graph.core := by
    apply hnaming.of_sameFrame (sameFrame_update _ _ _)
    exact fun record => record.sameFrame_with _ _ _ _ _ _
  refine ⟨hcore.stacked, hcore.mirrored, ?_⟩
  intro id hid hkind
  obtain ⟨core, rfl⟩ := hcore.isCore id hid hkind
  apply hcore.filled
  cases core <;> decide

end Graph

end ObjectModel
