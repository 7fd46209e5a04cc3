import ObjectModel.Graph.Mixin
import ObjectModel.Proofs.Graph.Ancestry
import ObjectModel.Proofs.Graph.Synthesis

/-! # Growing graphs

What every operation on a class graph keeps. Records are added at the end, with an older superclass, and what
fixes the place of a record never changes; an empty slot for a metaclass is filled at most once. So a stacked
graph stays stacked.
-/

namespace ObjectModel.Graph

open Relation

/-! ## Growth -/

/-- A graph that came from another one: the records are there still and have kept their places. -/
structure Grows (first second : Graph) : Prop where
  size : first.size ≤ second.size
  record : ∀ {id}, first.Has id → (first.record id).Keeps (second.record id)

namespace Grows

variable {first second third : Graph}

theorem refl (graph : Graph) : graph.Grows graph := ⟨Nat.le_refl _, fun _ => .refl _⟩

theorem has (hgrows : first.Grows second) {id : ClassId} (hid : first.Has id) : second.Has id :=
  Nat.lt_of_lt_of_le hid hgrows.size

theorem trans (hfirst : first.Grows second) (hsecond : second.Grows third) : first.Grows third :=
  ⟨Nat.le_trans hfirst.size hsecond.size,
    fun hid => (hfirst.record hid).trans (hsecond.record (hfirst.has hid))⟩

end Grows

theorem ne_next_of_has {graph : Graph} {id : ClassId} (hid : graph.Has id) : id ≠ graph.next :=
  fun heq => not_has_next graph (heq ▸ hid)

theorem has_of_metaclass {graph : Graph} {id metaclass : ClassId}
    (hslot : (graph.record id).metaclass = some metaclass) : graph.Has id := by
  by_contra hid
  simp [record_of_not_has hid, missing, ClassRecord.fresh] at hslot

theorem has_of_attached {graph : Graph} {id : ClassId} {value : Value}
    (hattached : (graph.record id).attached = some value) : graph.Has id := by
  by_contra hid
  simp [record_of_not_has hid, missing, ClassRecord.fresh] at hattached

theorem has_of_method {graph : Graph} {id : ClassId} {pair : Symbol × MethodEntry}
    (hpair : pair ∈ (graph.record id).methods.entries) : graph.Has id := by
  by_contra hid
  rw [record_of_not_has hid] at hpair
  exact List.not_mem_nil hpair

theorem has_of_mixes_left {graph : Graph} {outer inner : ClassId}
    (hmixes : graph.Mixes outer inner) : graph.Has outer := by
  by_contra hid
  simp [Mixes, record_of_not_has hid, missing, ClassRecord.fresh] at hmixes

theorem SameSlots.grows {first second : Graph} (hsame : first.SameSlots second) :
    first.Grows second :=
  ⟨Nat.le_of_eq hsame.size.symm, fun {id} _ => (hsame.record id).keeps⟩

/-- A graph that came from another one by adding blank records and filling empty slots. -/
structure Extends (first second : Graph) : Prop where
  size : first.size ≤ second.size
  record : ∀ {id}, first.Has id → (first.record id).Fills (second.record id)
  blank : ∀ {id}, second.Has id → ¬ first.Has id → (second.record id).IsBlank

namespace Extends

variable {first second third : Graph}

theorem refl (graph : Graph) : graph.Extends graph :=
  ⟨Nat.le_refl _, fun _ => .refl _, fun hid hnew => absurd hid hnew⟩

theorem grows (hextends : first.Extends second) : first.Grows second :=
  ⟨hextends.size, fun hid => (hextends.record hid).keeps⟩

theorem trans (hfirst : first.Extends second) (hsecond : second.Extends third) :
    first.Extends third := by
  refine ⟨Nat.le_trans hfirst.size hsecond.size, ?_, ?_⟩
  · exact fun hid => (hfirst.record hid).trans (hsecond.record (hfirst.grows.has hid))
  · intro id hid hnew
    by_cases hmiddle : second.Has id
    · exact (hsecond.record hmiddle).isBlank (hfirst.blank hmiddle hnew)
    · exact hsecond.blank hid hmiddle

end Extends

theorem extends_add (graph : Graph) (kind : ClassKind) (superclass : Option ClassId)
    (attached : Option Value) (isCore : Bool) :
    graph.Extends (graph.add (.fresh kind superclass attached isCore)).2 := by
  refine ⟨by simp, ?_, ?_⟩
  · intro id hid
    rw [record_add_of_ne (ne_next_of_has hid)]
    exact .refl _
  · intro id hid hnew
    obtain rfl := (has_add.mp hid).resolve_left hnew
    rw [record_add_next]
    exact ⟨kind, superclass, attached, isCore, none, rfl⟩

theorem extends_attachMetaclass {graph : Graph} {id : ClassId} (hid : graph.Has id)
    (hmissing : (graph.record id).metaclass = none) (parent : ClassId) :
    graph.Extends (graph.attachMetaclass id parent) := by
  refine ⟨by simp [attachMetaclass], ?_, ?_⟩
  · intro other hother
    by_cases heq : other = id
    · subst heq
      rw [record_attachMetaclass_self hid]
      exact ⟨_, .inl hmissing, rfl⟩
    · rw [record_attachMetaclass_of_ne heq (ne_next_of_has hother)]
      exact .refl _
  · intro other hother hnew
    obtain rfl := (has_attachMetaclass.mp hother).resolve_left hnew
    rw [record_attachMetaclass_next hid]
    exact ⟨_, _, _, _, none, rfl⟩

theorem Synthesis.extends_graph {graph next : Graph} (hpath : Synthesis graph next) :
    graph.Extends next := by
  induction hpath with
  | refl => exact .refl graph
  | attach _ hid hmissing _ ih => exact ih.trans (extends_attachMetaclass hid hmissing _)

theorem Synthesis.grows {graph next : Graph} (hpath : Synthesis graph next) : graph.Grows next :=
  hpath.extends_graph.grows

/-! ## Stacked graphs stay stacked -/

namespace Stacked

variable {graph : Graph}

/-- Records that are in the same places keep the laws, if what is mixed in and what stands in the slots does. -/
theorem of_samePlace {first second : Graph} (hstacked : first.Stacked)
    (hsize : second.size = first.size)
    (hsame : ∀ id, (first.record id).SamePlace (second.record id))
    (hmixes : ∀ {outer inner}, second.Mixes outer inner → first.isModule inner)
    (hacyclic : ∀ id, ¬ TransGen second.Mixes id id)
    (hmetaclass : ∀ {id metaclass}, (second.record id).metaclass = some metaclass →
      first.Has metaclass) : second.Stacked := by
  have hmodule : ∀ id, second.isModule id = first.isModule id := by
    intro id
    rw [isModule, isModule, ClassRecord.isModule, ClassRecord.isModule, (hsame id).kind]
  have hhas : ∀ id, first.Has id → second.Has id := by
    intro id hid
    rwa [Has, hsize]
  refine ⟨?_, ?_, ?_, hacyclic, ?_, ?_⟩
  · intro id superclass habove
    rw [superclass?, (hsame id).superclass] at habove
    exact hstacked.superclass_lt habove
  · intro id hid
    rw [hmodule] at hid
    rw [superclass?, (hsame id).superclass]
    exact hstacked.superclass_module hid
  · intro outer inner hinner
    rw [hmodule]
    exact hmixes hinner
  · exact fun hslot => hhas _ (hmetaclass hslot)
  · exact fun core => hhas _ (hstacked.has_core core)

theorem of_sameFrame {first second : Graph} (hstacked : first.Stacked)
    (hsame : first.SameFrame second) : second.Stacked := by
  have hmixes : ∀ {outer inner}, second.Mixes outer inner → first.Mixes outer inner := by
    intro outer inner hmixes
    rwa [Mixes, (hsame.record outer).prepends, (hsame.record outer).includes] at hmixes
  apply hstacked.of_samePlace hsame.size (fun id => (hsame.record id).toSamePlace)
  · exact fun hinner => hstacked.isModule_of_mixes (hmixes hinner)
  · intro id hcycle
    exact hstacked.acyclic id (TransGen.mono (fun _ _ => hmixes) _ _ hcycle)
  · intro id metaclass hslot
    rw [(hsame.record id).metaclass] at hslot
    exact hstacked.has_metaclass hslot

/-- Adding a record that has nothing mixed in, under a superclass that is there. -/
theorem add_fresh (hstacked : graph.Stacked) {kind : ClassKind} {superclass : Option ClassId}
    {attached : Option Value} {isCore : Bool}
    (hsuper : ∀ above, superclass = some above → graph.Has above)
    (hmodule : kind = .mixin → superclass = none) :
    (graph.add (.fresh kind superclass attached isCore)).2.Stacked := by
  have hgrows := (graph.extends_add kind superclass attached isCore).grows
  have hmixes : ∀ {outer inner},
      (graph.add (.fresh kind superclass attached isCore)).2.Mixes outer inner →
        graph.Mixes outer inner := by
    intro outer inner hmixes
    by_cases heq : outer = graph.next
    · subst heq
      simp [Mixes, record_add_next, ClassRecord.fresh] at hmixes
    · rwa [Mixes, record_add_of_ne heq] at hmixes
  refine ⟨?_, ?_, ?_, ?_, ?_, ?_⟩
  · intro id above habove
    by_cases heq : id = graph.next
    · subst heq
      rw [superclass?, record_add_next] at habove
      exact hsuper above habove
    · rw [superclass?, record_add_of_ne heq] at habove
      exact hstacked.superclass_lt habove
  · intro id hid
    by_cases heq : id = graph.next
    · subst heq
      rw [isModule_iff, record_add_next] at hid
      rw [superclass?, record_add_next]
      exact hmodule hid
    · rw [isModule, record_add_of_ne heq] at hid
      rw [superclass?, record_add_of_ne heq]
      exact hstacked.superclass_module hid
  · intro outer inner hinner
    have hold := hstacked.isModule_of_mixes (hmixes hinner)
    rwa [isModule, record_add_of_ne (ne_next_of_has (has_of_isModule hold))]
  · intro id hcycle
    exact hstacked.acyclic id (TransGen.mono (fun _ _ => hmixes) _ _ hcycle)
  · intro id metaclass hslot
    by_cases heq : id = graph.next
    · subst heq
      simp [record_add_next, ClassRecord.fresh] at hslot
    · rw [record_add_of_ne heq] at hslot
      exact hgrows.has (hstacked.has_metaclass hslot)
  · exact fun core => hgrows.has (hstacked.has_core core)

theorem add_class (hstacked : graph.Stacked) {superclass : ClassId} (hsuper : graph.Has superclass) :
    (graph.add (.fresh .cls (some superclass) none false)).2.Stacked := by
  apply hstacked.add_fresh
  · rintro above habove
    obtain rfl := Option.some.inj habove
    exact hsuper
  · simp

theorem add_module (hstacked : graph.Stacked) :
    (graph.add (.fresh .mixin none none false)).2.Stacked :=
  hstacked.add_fresh (by simp) (by simp)

/-- Keeping with a class a metaclass that is there. -/
theorem fill (hstacked : graph.Stacked) {id metaclass : ClassId} (hmetaclass : graph.Has metaclass) :
    (graph.update id fun record => { record with metaclass := some metaclass }).Stacked := by
  have hmixes : ∀ {outer inner},
      (graph.update id fun record => { record with metaclass := some metaclass }).Mixes outer inner →
        graph.Mixes outer inner := by
    intro outer inner hmixes
    rcases graph.record_update id outer fun record => { record with metaclass := some metaclass } with
      heq | ⟨rfl, _, heq⟩
    · rwa [Mixes, heq] at hmixes
    · rwa [Mixes, heq] at hmixes
  apply hstacked.of_samePlace (size_update _ _ _)
  · exact graph.forall_record_update id .refl fun _ => ⟨rfl, rfl, rfl, rfl⟩
  · exact fun hinner => hstacked.isModule_of_mixes (hmixes hinner)
  · intro other hcycle
    exact hstacked.acyclic other (TransGen.mono (fun _ _ => hmixes) _ _ hcycle)
  · intro other found hslot
    rcases graph.record_update id other fun record => { record with metaclass := some metaclass } with
      heq | ⟨rfl, _, heq⟩
    · rw [heq] at hslot
      exact hstacked.has_metaclass hslot
    · rw [heq] at hslot
      obtain rfl := Option.some.inj hslot
      exact hmetaclass

theorem has_metaclassParent (hstacked : graph.Stacked) {id parent : ClassId}
    (hparent : graph.metaclassParent? id = some parent) : graph.Has parent := by
  rw [metaclassParent?] at hparent
  split at hparent
  · obtain rfl := Option.some.inj hparent
    exact hstacked.has_core .moduleClass
  · exact hstacked.has_metaclass hparent
  · obtain rfl := Option.some.inj hparent
    exact hstacked.has_core .classClass

theorem attachMetaclass (hstacked : graph.Stacked) {id parent : ClassId}
    (hparent : graph.metaclassParent? id = some parent) :
    (graph.attachMetaclass id parent).Stacked := by
  apply fill
  · apply hstacked.add_fresh
    · rintro above habove
      obtain rfl := Option.some.inj habove
      exact hstacked.has_metaclassParent hparent
    · intro hkind
      simp at hkind
  · exact has_add_next _ _

theorem synthesis (hstacked : graph.Stacked) {next : Graph} (hpath : Synthesis graph next) :
    next.Stacked := by
  induction hpath with
  | refl => exact hstacked
  | attach _ _ _ hparent ih => exact ih.attachMetaclass hparent

theorem metaclassOf (hstacked : graph.Stacked) {id : ClassId} (hid : graph.Has id) :
    (graph.metaclassOf id).2.Stacked :=
  hstacked.synthesis (hstacked.synthesizes hid).path

/-- A class does not become a module by getting a metaclass. -/
theorem isModule_metaclassOf (hstacked : graph.Stacked) {id : ClassId} (hid : graph.Has id) :
    (graph.metaclassOf id).2.isModule id = graph.isModule id := by
  have hkind := ((hstacked.synthesizes hid).path.grows.record hid).kind
  rw [isModule, ClassRecord.isModule, hkind]
  rfl

theorem has_metaclassOf (hstacked : graph.Stacked) {id : ClassId} (hid : graph.Has id) :
    (graph.metaclassOf id).2.Has (graph.metaclassOf id).1 :=
  (hstacked.metaclassOf hid).has_metaclass (hstacked.synthesizes hid).slot

end Stacked

/-- The superclass chain of a class that was there stays what it was. -/
theorem Grows.superclassChain {first second : Graph} (hgrows : first.Grows second)
    (hfirst : first.Stacked) (hsecond : second.Stacked) {id : ClassId} (hid : first.Has id) :
    second.superclassChain id = first.superclassChain id := by
  induction id using hfirst.superclassInduction with
  | hroot id hsuper =>
      have hkept : second.superclass? id = none := (hgrows.record hid).superclass.trans hsuper
      rw [hfirst.superclassChain_of_none hsuper, hsecond.superclassChain_of_none hkept]
  | hstep id superclass hsuper ih =>
      have hkept : second.superclass? id = some superclass :=
        (hgrows.record hid).superclass.trans hsuper
      have hlt := hfirst.superclass_lt hsuper
      rw [hfirst.superclassChain_of_some hsuper, hsecond.superclassChain_of_some hkept,
        ih (Nat.lt_trans hlt hid)]

/-! ## Mixing in -/

/-- With one more edge, a path that was not there before goes over that edge. -/
theorem transGen_or_edge {α : Type} {relation : α → α → Prop} {source target start goal : α}
    (hpath : TransGen (fun first second => relation first second ∨ first = source ∧ second = target)
      start goal) :
    TransGen relation start goal ∨
      ReflTransGen relation start source ∧ ReflTransGen relation target goal := by
  induction hpath with
  | single hedge =>
      rcases hedge with hedge | ⟨rfl, rfl⟩
      · exact .inl (.single hedge)
      · exact .inr ⟨.refl, .refl⟩
  | tail _ hedge ih =>
      rcases hedge with hedge | ⟨rfl, rfl⟩
      · rcases ih with hpath | ⟨hsource, htarget⟩
        · exact .inl (hpath.tail hedge)
        · exact .inr ⟨hsource, htarget.tail hedge⟩
      · rcases ih with hpath | ⟨hsource, _⟩
        · exact .inr ⟨hpath.to_reflTransGen, .refl⟩
        · exact .inr ⟨hsource, .refl⟩

/-- With one more edge, what can be reached is what could be reached before, and over that edge what can be
reached from its target. -/
theorem reflTransGen_with_edge {α : Type} {relation : α → α → Prop} {source target start goal : α} :
    ReflTransGen (fun first second => relation first second ∨ first = source ∧ second = target)
        start goal ↔
      ReflTransGen relation start goal ∨
        ReflTransGen relation start source ∧ ReflTransGen relation target goal := by
  constructor
  · intro hpath
    rcases reflTransGen_iff_eq_or_transGen.mp hpath with rfl | hpath
    · exact .inl .refl
    · exact (transGen_or_edge hpath).imp_left TransGen.to_reflTransGen
  · have hold : ∀ {first second}, ReflTransGen relation first second → ReflTransGen
        (fun first second => relation first second ∨ first = source ∧ second = target) first second :=
      fun hpath => ReflTransGen.mono (fun _ _ => Or.inl) _ _ hpath
    rintro (hpath | ⟨hsource, htarget⟩)
    · exact hold hpath
    · exact ((hold hsource).tail (.inr ⟨rfl, rfl⟩)).trans (hold htarget)

/-- The change of a record that mixes a module in, on either side. -/
def MixesIn (mixin : ClassId) (change : ClassRecord → ClassRecord) : Prop :=
  change = .addInclude mixin ∨ change = .addPrepend mixin

theorem MixesIn.sameSlot {mixin : ClassId} {change : ClassRecord → ClassRecord}
    (hchange : MixesIn mixin change) (record : ClassRecord) : record.SameSlot (change record) := by
  rcases hchange with rfl | rfl <;> exact ⟨⟨rfl, rfl, rfl, rfl⟩, rfl⟩

theorem mixes_update {graph : Graph} {id mixin outer inner : ClassId}
    {change : ClassRecord → ClassRecord} (hchange : MixesIn mixin change)
    (hmixes : (graph.update id change).Mixes outer inner) :
    graph.Mixes outer inner ∨ outer = id ∧ inner = mixin := by
  rcases graph.record_update id outer change with heq | ⟨rfl, _, heq⟩
  · left
    rwa [Mixes, heq] at hmixes
  · rw [Mixes, heq] at hmixes
    rcases hchange with rfl | rfl
    · rcases hmixes with hprepend | hinclude
      · exact .inl (.inl hprepend)
      · rcases List.mem_cons.mp hinclude with rfl | hinclude
        · exact .inr ⟨rfl, rfl⟩
        · exact .inl (.inr hinclude)
    · rcases hmixes with hprepend | hinclude
      · rcases List.mem_cons.mp hprepend with rfl | hprepend
        · exact .inr ⟨rfl, rfl⟩
        · exact .inl (.inl hprepend)
      · exact .inl (.inr hinclude)

/-- A module can be mixed into a class in which it is new and which it does not have itself. -/
structure Mixable (graph : Graph) (id mixin : ClassId) : Prop where
  isModule : graph.isModule mixin
  isNew : mixin ∉ graph.ancestors id
  acyclic : id ∉ graph.ancestors mixin

theorem Stacked.mix {graph : Graph} (hstacked : graph.Stacked) {id mixin : ClassId}
    (hmixable : graph.Mixable id mixin) {change : ClassRecord → ClassRecord}
    (hchange : MixesIn mixin change) : (graph.update id change).Stacked := by
  have hsame := (graph.sameSlots_update id hchange.sameSlot).record
  apply hstacked.of_samePlace (size_update _ _ _) (fun other => (hsame other).toSamePlace)
  · intro outer inner hmixes
    rcases mixes_update hchange hmixes with hmixes | ⟨_, rfl⟩
    · exact hstacked.isModule_of_mixes hmixes
    · exact hmixable.isModule
  · intro other hcycle
    have hpath := TransGen.mono (fun _ _ => mixes_update hchange) _ _ hcycle
    rcases transGen_or_edge hpath with hold | ⟨hsource, htarget⟩
    · exact hstacked.acyclic other hold
    · -- the new edge closed a way from the module to the class, which the check rules out
      have hback : ReflTransGen graph.Mixes mixin id := htarget.trans hsource
      apply hmixable.acyclic
      rw [hstacked.mem_ancestors (has_of_isModule hmixable.isModule)]
      exact ReflTransGen.mono (fun _ _ hmixes => Or.inr hmixes) _ _ hback
  · intro other metaclass hslot
    rw [(hsame other).metaclass] at hslot
    exact hstacked.has_metaclass hslot

/-- Mixing in is refused, does nothing, or changes the record of the class, by the first check that decides. -/
theorem mix_of_check (graph : Graph) (id mixin : ClassId) (cyclic : String)
    (change : ClassRecord → ClassRecord) :
    (do
      if ← graph.checkMixin id mixin cyclic then pure (true, graph.update id change)
      else pure (false, graph) : Except Fault (Bool × Graph)) =
    if ¬ graph.isModule mixin then .error (.typeMismatch "wrong argument type (expected Module)")
    else if mixin ∈ graph.ancestors id then .ok (false, graph)
    else if id ∈ graph.ancestors mixin then .error (.argument cyclic)
    else .ok (true, graph.update id change) := by
  rw [checkMixin]
  simp only [Bool.not_eq_true', Bool.not_eq_true]
  split
  · rfl
  · split
    · rfl
    · split <;> rfl

/-- Mixing in either changes nothing or changes the record of the class, if the check allows it. -/
theorem mix_cases {graph next : Graph} {id mixin : ClassId} {added : Bool} {cyclic : String}
    {change : ClassRecord → ClassRecord}
    (hresult : (do
      if ← graph.checkMixin id mixin cyclic then pure (true, graph.update id change)
      else pure (false, graph)) = Except.ok (added, next)) :
    next = graph ∨ next = graph.update id change ∧ graph.Mixable id mixin := by
  rw [mix_of_check] at hresult
  split at hresult
  · cases hresult
  next hmodule =>
    split at hresult
    · obtain ⟨-, rfl⟩ := Prod.mk.inj (Except.ok.inj hresult)
      exact .inl rfl
    next hnew =>
      split at hresult
      · cases hresult
      next hacyclic =>
        obtain ⟨-, rfl⟩ := Prod.mk.inj (Except.ok.inj hresult)
        exact .inr ⟨rfl, not_not.mp hmodule, hnew, hacyclic⟩

theorem includeModule_cases {graph next : Graph} {id mixin : ClassId} {added : Bool}
    (hresult : graph.includeModule id mixin = .ok (added, next)) :
    next = graph ∨ next = graph.update id (.addInclude mixin) ∧ graph.Mixable id mixin :=
  mix_cases hresult

theorem prependModule_cases {graph next : Graph} {id mixin : ClassId} {added : Bool}
    (hresult : graph.prependModule id mixin = .ok (added, next)) :
    next = graph ∨ next = graph.update id (.addPrepend mixin) ∧ graph.Mixable id mixin :=
  mix_cases hresult

/-! ## New classes -/

theorem newClass_cases {graph next : Graph} {superclass id : ClassId}
    (hresult : graph.newClass superclass = .ok (id, next)) :
    (graph.record superclass).kind = .cls ∧ id = graph.next ∧
      next = ((graph.add (.fresh .cls (some superclass) none false)).2.metaclassOf id).2 := by
  rw [newClass] at hresult
  split at hresult
  · simp at hresult
  · simp at hresult
  next hkind =>
    obtain ⟨rfl, rfl⟩ := Prod.mk.inj (Except.ok.inj hresult)
    exact ⟨hkind, rfl, rfl⟩

theorem Stacked.extends_newClass {graph next : Graph} (hstacked : graph.Stacked)
    {superclass id : ClassId} (hsuper : graph.Has superclass)
    (hresult : graph.newClass superclass = .ok (id, next)) :
    graph.Extends next ∧ next.Has id := by
  obtain ⟨_, rfl, rfl⟩ := newClass_cases hresult
  have hnew := has_add_next graph (.fresh .cls (some superclass) none false)
  have hpath := ((hstacked.add_class hsuper).synthesizes hnew).path
  exact ⟨(graph.extends_add _ _ _ _).trans hpath.extends_graph, hpath.has hnew⟩

theorem Stacked.extends_newModule {graph : Graph} (hstacked : graph.Stacked) :
    graph.Extends graph.newModule.2 ∧ graph.newModule.2.Has graph.newModule.1 := by
  have hnew := has_add_next graph (.fresh .mixin none none false)
  have hpath := (hstacked.add_module.synthesizes hnew).path
  exact ⟨(graph.extends_add _ _ _ _).trans hpath.extends_graph, hpath.has hnew⟩

end ObjectModel.Graph
