import ObjectModel.Proofs.FirstOccurrence
import ObjectModel.Proofs.Graph.Stacked

/-! # What the ancestors of a class are

In a stacked graph the ancestors of a class are just what can be reached from it, each once, and they come in
the order in which the parts of the graph take precedence: the local part of the class before the ancestors of
its superclass, and prepended modules before what they were prepended to.
-/

namespace ObjectModel.Graph

open Relation

/-- A step of the search through the graph: to the superclass or to a module that was mixed in. -/
def Links (graph : Graph) (id next : ClassId) : Prop :=
  graph.superclass? id = some next ∨ graph.Mixes id next

theorem nodup_ancestors (graph : Graph) (id : ClassId) : (graph.ancestors id).Nodup :=
  nodup_eraseDups _

namespace Stacked

variable {graph : Graph}

/-! ## Membership -/

theorem mem_localPart_iff (hstacked : graph.Stacked) {id other : ClassId} (hid : graph.Has id) :
    other ∈ graph.localPart id ↔
      other = id ∨ ∃ inner, graph.Mixes id inner ∧ other ∈ graph.localPart inner := by
  rw [hstacked.localPart_eq hid]
  simp only [Mixes, List.mem_append, List.mem_flatMap, List.mem_cons]
  constructor
  · rintro (⟨inner, hinner, hother⟩ | rfl | ⟨inner, hinner, hother⟩)
    · exact .inr ⟨inner, .inl hinner, hother⟩
    · exact .inl rfl
    · exact .inr ⟨inner, .inr hinner, hother⟩
  · rintro (rfl | ⟨inner, hinner | hinner, hother⟩)
    · exact .inr (.inl rfl)
    · exact .inl ⟨inner, hinner, hother⟩
    · exact .inr (.inr ⟨inner, hinner, hother⟩)

theorem has_of_mixes_right (hstacked : graph.Stacked) {outer inner : ClassId}
    (hmixes : graph.Mixes outer inner) : graph.Has inner :=
  has_of_isModule (hstacked.isModule_of_mixes hmixes)

/-- The local part of a class is what can be reached from it through mixed in modules. -/
theorem mem_localPart (hstacked : graph.Stacked) {id other : ClassId} (hid : graph.Has id) :
    other ∈ graph.localPart id ↔ ReflTransGen graph.Mixes id other := by
  induction id using hstacked.wellFounded_mixes.induction with
  | _ id ih =>
      rw [hstacked.mem_localPart_iff hid]
      constructor
      · rintro (rfl | ⟨inner, hmixes, hother⟩)
        · exact .refl
        · exact .head hmixes ((ih inner hmixes (hstacked.has_of_mixes_right hmixes)).mp hother)
      · intro hreach
        rcases ReflTransGen.cases_head hreach with rfl | ⟨inner, hmixes, hrest⟩
        · exact .inl rfl
        · exact .inr ⟨inner, hmixes,
            (ih inner hmixes (hstacked.has_of_mixes_right hmixes)).mpr hrest⟩

theorem self_mem_localPart (hstacked : graph.Stacked) {id : ClassId} (hid : graph.Has id) :
    id ∈ graph.localPart id :=
  (hstacked.mem_localPart hid).mpr .refl

theorem has_of_mem_chain (hstacked : graph.Stacked) {id other : ClassId} (hid : graph.Has id)
    (hother : other ∈ graph.superclassChain id) : graph.Has other :=
  Nat.lt_of_le_of_lt (hstacked.index_le_of_mem_chain hother) hid

/-- An ancestor is in the local part of some class of the superclass chain. -/
theorem mem_ancestors_iff {id other : ClassId} :
    other ∈ graph.ancestors id ↔
      ∃ cls ∈ graph.superclassChain id, other ∈ graph.localPart cls := by
  rw [ancestors, List.mem_eraseDups, List.mem_flatMap]

theorem has_of_mem_ancestors (hstacked : graph.Stacked) {id other : ClassId} (hid : graph.Has id)
    (hother : other ∈ graph.ancestors id) : graph.Has other := by
  obtain ⟨cls, hcls, hlocal⟩ := mem_ancestors_iff.mp hother
  have hcls := hstacked.has_of_mem_chain hid hcls
  rcases ReflTransGen.cases_tail ((hstacked.mem_localPart hcls).mp hlocal) with
    rfl | ⟨outer, _, hmixes⟩
  · exact hcls
  · exact hstacked.has_of_mixes_right hmixes

theorem self_mem_ancestors (hstacked : graph.Stacked) {id : ClassId} (hid : graph.Has id) :
    id ∈ graph.ancestors id :=
  mem_ancestors_iff.mpr
    ⟨id, hstacked.self_mem_superclassChain id, hstacked.self_mem_localPart hid⟩

/-- What is brought by mixing in is a module, so it has no superclass of its own. -/
theorem superclass_of_reach (hstacked : graph.Stacked) {cls other : ClassId}
    (hreach : ReflTransGen graph.Mixes cls other) :
    other = cls ∨ graph.superclass? other = none := by
  rcases ReflTransGen.cases_tail hreach with rfl | ⟨outer, _, hmixes⟩
  · exact .inl rfl
  · exact .inr (hstacked.superclass_module (hstacked.isModule_of_mixes hmixes))

/-- Every way along the links ends: a module leads only to modules, and before the first module the
way goes up the superclass chain. -/
theorem wellFounded_links (hstacked : graph.Stacked) :
    WellFounded fun next id => graph.Links id next := by
  -- from a module the way goes on only through what is mixed in
  have hmodule : ∀ id, graph.isModule id → Acc (fun next id => graph.Links id next) id := by
    intro id
    induction id using hstacked.wellFounded_mixes.induction with
    | _ id ih =>
        intro hid
        constructor
        rintro next (hsuper | hmixes)
        · rw [hstacked.superclass_module hid] at hsuper
          simp at hsuper
        · exact ih next hmixes (hstacked.isModule_of_mixes hmixes)
  constructor
  intro id
  induction id using hstacked.superclassInduction with
  | hroot id hnone =>
      constructor
      rintro next (hsuper | hmixes)
      · rw [hnone] at hsuper
        simp at hsuper
      · exact hmodule next (hstacked.isModule_of_mixes hmixes)
  | hstep id superclass habove ih =>
      constructor
      rintro next (hsuper | hmixes)
      · rw [habove] at hsuper
        exact Option.some.inj hsuper ▸ ih
      · exact hmodule next (hstacked.isModule_of_mixes hmixes)

/-- The ancestors of a class are what can be reached from it. -/
theorem mem_ancestors (hstacked : graph.Stacked) {id other : ClassId} (hid : graph.Has id) :
    other ∈ graph.ancestors id ↔ ReflTransGen graph.Links id other := by
  constructor
  · intro hother
    obtain ⟨cls, hcls, hother⟩ := mem_ancestors_iff.mp hother
    have hup := hstacked.mem_superclassChain.mp hcls
    have hmixed := (hstacked.mem_localPart (hstacked.has_of_mem_chain hid hcls)).mp hother
    have hfirst : ReflTransGen graph.Links id cls :=
      ReflTransGen.mono (fun _ _ hsuper => Or.inl hsuper) _ _ hup
    have hsecond : ReflTransGen graph.Links cls other :=
      ReflTransGen.mono (fun _ _ hmixes => Or.inr hmixes) _ _ hmixed
    exact hfirst.trans hsecond
  · intro hreach
    induction hreach with
    | refl => exact hstacked.self_mem_ancestors hid
    | @tail middle last _ hlink ih =>
        obtain ⟨cls, hcls, hmiddle⟩ := mem_ancestors_iff.mp ih
        have hhas := hstacked.has_of_mem_chain hid hcls
        have hmixed := (hstacked.mem_localPart hhas).mp hmiddle
        -- a link from what was mixed in never leads up, for a module has no superclass
        rcases hlink with hsuper | hmixes
        · rcases hstacked.superclass_of_reach hmixed with rfl | hnone
          · have habove := hstacked.superclass_mem_chain hcls hsuper
            exact mem_ancestors_iff.mpr
              ⟨last, habove, hstacked.self_mem_localPart (hstacked.has_of_mem_chain hid habove)⟩
          · rw [hnone] at hsuper
            simp at hsuper
        · exact mem_ancestors_iff.mpr
            ⟨cls, hcls, (hstacked.mem_localPart hhas).mpr (hmixed.tail hmixes)⟩

/-- A class that is no module is an ancestor only by being on the superclass chain. -/
theorem mem_ancestors_of_not_module (hstacked : graph.Stacked) {id other : ClassId}
    (hid : graph.Has id) (hother : ¬ graph.isModule other) :
    other ∈ graph.ancestors id ↔ other ∈ graph.superclassChain id := by
  constructor
  · intro hmem
    obtain ⟨cls, hcls, hlocal⟩ := mem_ancestors_iff.mp hmem
    have hmixed := (hstacked.mem_localPart (hstacked.has_of_mem_chain hid hcls)).mp hlocal
    rcases ReflTransGen.cases_tail hmixed with rfl | ⟨outer, _, hmixes⟩
    · exact hcls
    · exact absurd (hstacked.isModule_of_mixes hmixes) hother
  · intro hmem
    exact mem_ancestors_iff.mpr
      ⟨other, hmem, hstacked.self_mem_localPart (hstacked.has_of_mem_chain hid hmem)⟩

theorem isKindOf_of_not_module (hstacked : graph.Stacked) {id cls : ClassId}
    (hid : graph.Has id) (hcls : ¬ graph.isModule cls) :
    graph.isKindOf id cls ↔ cls ∈ graph.superclassChain id := by
  rw [isKindOf, Bool.or_eq_true, decide_eq_true_iff, decide_eq_true_iff,
    hstacked.mem_ancestors_of_not_module hid hcls]
  exact or_iff_right_of_imp fun heq => heq ▸ hstacked.self_mem_superclassChain id

/-! ## Order -/

/-- The ancestors of a class begin with its local part; those of its superclass follow, less what has
come before. -/
theorem ancestors_eq (hstacked : graph.Stacked) (id : ClassId) :
    graph.ancestors id = (graph.localPart id).eraseDups ++
      (((graph.superclass? id).map graph.ancestors).getD []).filter
        fun other => other ∉ graph.localPart id := by
  rw [ancestors, hstacked.superclassChain_eq, List.flatMap_cons, eraseDups_append_filter]
  congr 2
  cases graph.superclass? id with
  | none => rfl
  | some superclass => rfl

end Stacked

/-- In a list every module that was prepended to something stands before each place of that thing. -/
def PrependsFirst (graph : Graph) (items : List ClassId) : Prop :=
  ∀ before id after, items = before ++ id :: after →
    ∀ module ∈ (graph.record id).prepends, module ∈ before

section

variable {graph : Graph}

/-- A list can be continued by one in which every prepended module stands before, in either list. -/
theorem prependsFirst_append {first second : List ClassId} (hfirst : graph.PrependsFirst first)
    (hsecond : ∀ before id after, second = before ++ id :: after →
      ∀ module ∈ (graph.record id).prepends, module ∈ first ++ before) :
    graph.PrependsFirst (first ++ second) := by
  intro before id after heq module hmodule
  rcases List.append_eq_append_iff.mp heq with ⟨middle, rfl, hrest⟩ | ⟨middle, hrest, htail⟩
  · exact hsecond middle id after hrest module hmodule
  · cases middle with
    -- the item is the first of the second list
    | nil =>
        rw [List.append_nil] at hrest
        subst hrest
        simpa using hsecond [] id after (by simpa using htail.symm) module hmodule
    | cons head middle =>
        rw [List.cons_append, List.cons.injEq] at htail
        obtain ⟨rfl, _⟩ := htail
        exact hfirst before id middle hrest module hmodule

theorem prependsFirst_flatMap {items : List ClassId} {expand : ClassId → List ClassId}
    (hexpand : ∀ item ∈ items, graph.PrependsFirst (expand item)) :
    graph.PrependsFirst (items.flatMap expand) := by
  induction items with
  | nil =>
      intro before id after heq
      simp at heq
  | cons first rest ih =>
      have hrest := ih fun item hitem => hexpand item (List.mem_cons_of_mem _ hitem)
      rw [List.flatMap_cons]
      apply prependsFirst_append (hexpand first List.mem_cons_self)
      intro before id after heq module hmodule
      exact List.mem_append_right _ (hrest before id after heq module hmodule)

/-- Leaving out repetitions keeps prepended modules in front. -/
theorem prependsFirst_eraseDups {items : List ClassId} (hitems : graph.PrependsFirst items) :
    graph.PrependsFirst items.eraseDups := by
  intro before id after heq module hmodule
  obtain ⟨front, back, hsplit, hfront⟩ := exists_split_of_eraseDups heq
  exact hfront module (hitems front id back hsplit module hmodule)

end

namespace Stacked

variable {graph : Graph}

theorem prependsFirst_localPart (hstacked : graph.Stacked) {id : ClassId} (hid : graph.Has id) :
    graph.PrependsFirst (graph.localPart id) := by
  induction id using hstacked.wellFounded_mixes.induction with
  | _ id ih =>
      have hinner : ∀ inner, graph.Mixes id inner → graph.PrependsFirst (graph.localPart inner) :=
        fun inner hmixes => ih inner hmixes (hstacked.has_of_mixes_right hmixes)
      rw [hstacked.localPart_eq hid]
      apply prependsFirst_append
      · exact prependsFirst_flatMap fun inner hmem => hinner inner (.inl hmem)
      · intro before other after heq module hmodule
        cases before with
        -- the class itself, behind all that it prepends
        | nil =>
            obtain ⟨rfl, _⟩ := List.cons.inj heq
            have hmixes : graph.Mixes id module := .inl hmodule
            have hhas := hstacked.has_of_mixes_right hmixes
            exact List.mem_append_left _
              (List.mem_flatMap.mpr ⟨module, hmodule, hstacked.self_mem_localPart hhas⟩)
        | cons head before =>
            obtain ⟨_, hrest⟩ := List.cons.inj heq
            have hbehind := prependsFirst_flatMap fun inner hmem => hinner inner (.inr hmem)
            have hmem := hbehind before other after hrest module hmodule
            exact List.mem_append_right _ (List.mem_cons_of_mem _ hmem)

/-- Every module that was prepended to an ancestor stands before that ancestor. -/
theorem prependsFirst_ancestors (hstacked : graph.Stacked) {id : ClassId} (hid : graph.Has id) :
    graph.PrependsFirst (graph.ancestors id) := by
  apply prependsFirst_eraseDups
  apply prependsFirst_flatMap
  intro cls hcls
  exact hstacked.prependsFirst_localPart (hstacked.has_of_mem_chain hid hcls)

end Stacked

end ObjectModel.Graph
