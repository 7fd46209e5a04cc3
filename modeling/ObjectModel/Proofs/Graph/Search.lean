import ObjectModel.Proofs.Graph.Lookup
import ObjectModel.Proofs.Graph.Mirrored

/-! # What a search finds

A search goes up the superclass chain and takes the first entry of a local part. Blank records that were added and empty
slots that were filled change nothing about it, and neither does a new entry for another name or in a class that is not
searched.
-/

namespace ObjectModel.Graph

open Relation

/-- The first entry of a name in the local part of a class. -/
def localFirst? (graph : Graph) (id : ClassId) (name : Symbol) : Option MethodEntry :=
  (graph.localPart id).findSome? fun module => (graph.record module).methods.find? name

/-- The classes that are searched for the methods of a class itself: the metaclasses of its superclass chain
as far as they were made, and then the class of the class. -/
def metaclassChain (graph : Graph) (id : ClassId) : List ClassId :=
  (graph.superclassChain id).filterMap (fun cls => (graph.record cls).metaclass) ++
    graph.superclassChain (graph.classOfClass id)

/-- The first entry of a name in the local parts of several classes. -/
def entryAlong? (graph : Graph) (chain : List ClassId) (name : Symbol) : Option MethodEntry :=
  chain.findSome? fun cls => graph.localFirst? cls name

theorem firstEntry_eq (graph : Graph) (id : ClassId) (name : Symbol) :
    graph.firstEntry? id name = graph.entryAlong? (graph.superclassChain id) name := by
  unfold firstEntry? ancestors entryAlong?
  rw [findSome?_eraseDups]
  induction graph.superclassChain id with
  | nil => rfl
  | cons cls rest ih =>
      rw [List.flatMap_cons, List.findSome?_append, ih, List.findSome?_cons, localFirst?]
      cases (graph.localPart cls).findSome? fun module => (graph.record module).methods.find? name <;>
        rfl

theorem entryAlong_cons (graph : Graph) (cls : ClassId) (rest : List ClassId) (name : Symbol) :
    graph.entryAlong? (cls :: rest) name = (graph.localFirst? cls name).or (graph.entryAlong? rest name) := by
  rw [entryAlong?, List.findSome?_cons]
  cases graph.localFirst? cls name <;> rfl

theorem Stacked.firstEntry_of_some {graph : Graph} (hstacked : graph.Stacked)
    {id superclass : ClassId} (hsuper : graph.superclass? id = some superclass) (name : Symbol) :
    graph.firstEntry? id name =
      (graph.localFirst? id name).or (graph.firstEntry? superclass name) := by
  rw [firstEntry_eq, firstEntry_eq, hstacked.superclassChain_of_some hsuper, entryAlong_cons]

/-! ## In a graph that was extended -/

section

variable {first second : Graph}

theorem Extends.localPart (hextends : first.Extends second) (hfirst : first.Stacked)
    (hsecond : second.Stacked) {id : ClassId} (hid : first.Has id) :
    second.localPart id = first.localPart id := by
  induction id using hfirst.wellFounded_mixes.induction with
  | _ id ih =>
      obtain ⟨slot, _, heq⟩ := hextends.record hid
      rw [hfirst.localPart_eq hid, hsecond.localPart_eq (hextends.grows.has hid), heq]
      have hsame : ∀ {modules : List ClassId}, (∀ inner ∈ modules, first.Mixes id inner) →
          modules.flatMap second.localPart = modules.flatMap first.localPart := by
        intro modules hmixes
        apply List.flatMap_congr
        intro inner hinner
        exact ih inner (hmixes inner hinner) (hfirst.has_of_mixes_right (hmixes inner hinner))
      rw [hsame fun inner hinner => .inl hinner, hsame fun inner hinner => .inr hinner]

/-- A class that was there brings the entries that it brought before. -/
theorem Extends.localEntry (hextends : first.Extends second) (hfirst : first.Stacked)
    (hsecond : second.Stacked) {id : ClassId} (hid : first.Has id) (name : Symbol) :
    second.localFirst? id name = first.localFirst? id name := by
  rw [localFirst?, hextends.localPart hfirst hsecond hid, localFirst?]
  apply findSome?_congr
  intro module hmodule
  have hhas : first.Has module := by
    rcases ReflTransGen.cases_tail ((hfirst.mem_localPart hid).mp hmodule) with
      rfl | ⟨outer, _, hmixes⟩
    · exact hid
    · exact hfirst.has_of_mixes_right hmixes
  obtain ⟨slot, _, heq⟩ := hextends.record hhas
  rw [heq]

/-- A class that was added brings nothing. -/
theorem Extends.localEntry_of_new (hextends : first.Extends second) (hsecond : second.Stacked)
    {id : ClassId} (hid : second.Has id) (hnew : ¬ first.Has id) (name : Symbol) :
    second.localFirst? id name = none := by
  obtain ⟨kind, superclass, attached, isCore, slot, heq⟩ := hextends.blank hid hnew
  rw [localFirst?, hsecond.localPart_eq hid, heq]
  simp [ClassRecord.fresh, heq, Table.empty, Table.find?, Table.look]

theorem Extends.firstEntry (hextends : first.Extends second) (hfirst : first.Stacked)
    (hsecond : second.Stacked) {id : ClassId} (hid : first.Has id) (name : Symbol) :
    second.firstEntry? id name = first.firstEntry? id name := by
  rw [firstEntry_eq, firstEntry_eq, hextends.grows.superclassChain hfirst hsecond hid]
  apply findSome?_congr
  intro cls hcls
  exact hextends.localEntry hfirst hsecond (hfirst.has_of_mem_chain hid hcls) name

/-- A class that was there is shown as it was shown before. -/
theorem Extends.displayName (hextends : first.Extends second) (hfirst : first.Sound) {id : ClassId}
    (hid : first.Has id) : second.displayName id = first.displayName id := by
  have hwithin : ∀ bound cls, first.Has cls →
      second.displayWithin bound cls = first.displayWithin bound cls := by
    intro bound
    induction bound with
    | zero => exact fun _ _ => rfl
    | succ bound ih =>
        intro cls hcls
        obtain ⟨slot, _, heq⟩ := hextends.record hcls
        have hsuper : (first.record cls).superclass.map (second.displayWithin bound) =
            (first.record cls).superclass.map (first.displayWithin bound) := by
          cases habove : (first.record cls).superclass with
          | none => rfl
          | some above =>
              have hlt := hfirst.stacked.superclass_lt habove
              exact congrArg some (ih above (Nat.lt_trans hlt hcls))
        rw [displayWithin, displayWithin, heq]
        cases (first.record cls).name with
        | some name => rfl
        | none =>
            cases (first.record cls).kind with
            | cls => rfl
            | mixin => rfl
            | singleton =>
                cases hattached : (first.record cls).attached with
                | none => rfl
                | some value =>
                    cases value with
                    -- the singleton class of a class is shown by way of that class
                    | cls owner =>
                        have howner := hfirst.mirrored.metaclass_of_attached hattached
                        simp only [ih owner (has_of_metaclass howner)]
                    | _ => simp only [hsuper]
  exact hwithin _ id hid

end

/-! ## For the methods of a class itself -/

theorem entryAlong_append (graph : Graph) (front back : List ClassId) (name : Symbol) :
    graph.entryAlong? (front ++ back) name =
      (graph.entryAlong? front name).or (graph.entryAlong? back name) :=
  List.findSome?_append

/-- The entry that the metaclass of a class brings, if there is one. -/
def slotFirst? (graph : Graph) (id : ClassId) (name : Symbol) : Option MethodEntry :=
  (graph.record id).metaclass.bind fun metaclass => graph.localFirst? metaclass name

theorem entryAlong_slot (graph : Graph) (id : ClassId) (rest : List ClassId) (name : Symbol) :
    graph.entryAlong? (List.filterMap (fun cls => (graph.record cls).metaclass) (id :: rest)) name =
      (graph.slotFirst? id name).or
        (graph.entryAlong? (rest.filterMap fun cls => (graph.record cls).metaclass) name) := by
  rw [slotFirst?, List.filterMap_cons]
  cases (graph.record id).metaclass with
  | none => rfl
  | some metaclass => exact graph.entryAlong_cons metaclass _ name

theorem Stacked.classEntry_of_none {graph : Graph} (hstacked : graph.Stacked) {id : ClassId}
    (hnone : graph.superclass? id = none) (name : Symbol) :
    graph.entryAlong? (graph.metaclassChain id) name =
      (graph.slotFirst? id name).or (graph.firstEntry? (graph.classOfClass id) name) := by
  rw [metaclassChain, entryAlong_append, hstacked.superclassChain_of_none hnone, entryAlong_slot,
    firstEntry_eq]
  exact congrArg (Option.or · _) Option.or_none

theorem Stacked.classEntry_of_some {graph : Graph} (hstacked : graph.Stacked)
    {id superclass : ClassId} (hsuper : graph.superclass? id = some superclass)
    (hproper : ¬ graph.isModule superclass) (name : Symbol) :
    graph.entryAlong? (graph.metaclassChain id) name =
      (graph.slotFirst? id name).or
        (graph.entryAlong? (graph.metaclassChain superclass) name) := by
  have hkind : ¬ graph.isModule id := by
    intro hmodule
    rw [hstacked.superclass_module hmodule] at hsuper
    simp at hsuper
  have hclass : graph.classOfClass id = graph.classOfClass superclass := by
    rw [classOfClass, classOfClass, if_neg hkind, if_neg hproper]
  rw [metaclassChain, entryAlong_append, hstacked.superclassChain_of_some hsuper, entryAlong_slot,
    metaclassChain, entryAlong_append, hclass, Option.or_assoc]

section

variable {first second : Graph}

/-- What stands in a slot that was filled brings what it brought before; in one that was empty it brings
nothing. -/
theorem Extends.localEntry_slot (hextends : first.Extends second) (hfirst : first.Sound)
    (hsecond : second.Sound) {id metaclass : ClassId}
    (hslot : (second.record id).metaclass = some metaclass) (hid : first.Has id) (name : Symbol) :
    second.localFirst? metaclass name = first.slotFirst? id name := by
  rw [slotFirst?]
  cases hold : (first.record id).metaclass with
  | some old =>
      have hsame := (hextends.record hid).keeps.metaclass hold
      obtain rfl := Option.some.inj (hslot.symm.trans hsame)
      exact hextends.localEntry hfirst.stacked hsecond.stacked (hfirst.stacked.has_metaclass hold) name
  | none =>
      apply hextends.localEntry_of_new hsecond.stacked (hsecond.stacked.has_metaclass hslot)
      -- had the metaclass been there, its class would have had it in the slot
      intro hhas
      have hattached := (hsecond.mirrored.mirrors hslot).1
      rw [(hextends.record hhas).keeps.attached] at hattached
      have hfilled := hfirst.mirrored.metaclass_of_attached hattached
      rw [hold] at hfilled
      simp at hfilled

/-- Wherever the metaclasses that are missing are made: what is found from the metaclass of a class is
what was found along the metaclasses that were there. -/
theorem Extends.firstEntry_metaclass (hextends : first.Extends second) (hfirst : first.Sound)
    (hsecond : second.Sound) (hproper : first.Proper) {id metaclass : ClassId} (hid : first.Has id)
    (hslot : (second.record id).metaclass = some metaclass) (name : Symbol) :
    second.firstEntry? metaclass name = first.entryAlong? (first.metaclassChain id) name := by
  induction id using hfirst.stacked.superclassInduction generalizing metaclass with
  | hroot id hnone =>
      have hkeeps := (hextends.record hid).keeps
      have hsuper : second.superclass? metaclass = some (first.classOfClass id) := by
        obtain ⟨_, parent, hparent, habove⟩ := hsecond.mirrored.mirrors hslot
        rw [superclass?, habove, ← hparent, classOfClass]
        split
        next hmodule =>
          exact metaclassParent?_of_module (hkeeps.kind.trans (isModule_iff.mp hmodule))
        next hmodule =>
          rw [isModule_iff] at hmodule
          exact metaclassParent?_of_none (hkeeps.kind ▸ hmodule) (hkeeps.superclass.trans hnone)
      have hclass : first.Has (first.classOfClass id) := by
        rw [classOfClass]
        split <;> exact hfirst.stacked.has_core _
      rw [hsecond.stacked.firstEntry_of_some hsuper, hfirst.stacked.classEntry_of_none hnone,
        hextends.localEntry_slot hfirst hsecond hslot hid,
        hextends.firstEntry hfirst.stacked hsecond.stacked hclass]
  -- the metaclass inherits from what the slot of the superclass holds
  | hstep id superclass hsuper ih =>
      have hkeeps := (hextends.record hid).keeps
      have hkind : (second.record id).kind ≠ .mixin := by
        intro hmodule
        rw [hkeeps.kind] at hmodule
        rw [hfirst.stacked.superclass_module (isModule_iff.mpr hmodule)] at hsuper
        simp at hsuper
      obtain ⟨_, parent, hparent, habove⟩ := hsecond.mirrored.mirrors hslot
      rw [metaclassParent?_of_some hkind (hkeeps.superclass.trans hsuper)] at hparent
      have hhas := Nat.lt_trans (hfirst.stacked.superclass_lt hsuper) hid
      rw [hsecond.stacked.firstEntry_of_some habove,
        hfirst.stacked.classEntry_of_some hsuper (hproper id superclass hsuper),
        hextends.localEntry_slot hfirst hsecond hslot hid, ih hhas hparent]

/-- Metaclasses that are made change nothing about what is found for a class itself. -/
theorem Extends.classEntry (hextends : first.Extends second) (hfirst : first.Sound)
    (hsecond : second.Sound) (hproper : first.Proper) (hstill : second.Proper) {id : ClassId}
    (hid : first.Has id) (name : Symbol) :
    second.entryAlong? (second.metaclassChain id) name =
      first.entryAlong? (first.metaclassChain id) name := by
  -- both graphs are compared with one in which the metaclass is there
  have hmade := hsecond.stacked.synthesizes (hextends.grows.has hid)
  have hlast := hmade.path.extends_graph
  have hthird := hsecond.synthesis hmade.path
  rw [← hlast.firstEntry_metaclass hsecond hthird hstill (hextends.grows.has hid) hmade.slot name]
  exact (hextends.trans hlast).firstEntry_metaclass hfirst hthird hproper hid hmade.slot name

end

/-! ## With a new entry -/

section

variable {first second : Graph}

theorem SameFrame.superclassChain (hsame : first.SameFrame second) (id : ClassId) :
    second.superclassChain id = first.superclassChain id := by
  have hwithin : ∀ bound cls, second.chainWithin bound cls = first.chainWithin bound cls := by
    intro bound
    induction bound with
    | zero => exact fun _ => rfl
    | succ bound ih =>
        intro cls
        rw [chainWithin, chainWithin, superclass?, (hsame.record cls).superclass, superclass?]
        cases (first.record cls).superclass with
        | none => rfl
        | some superclass => exact congrArg (cls :: ·) (ih superclass)
  exact hwithin _ id

theorem SameFrame.localPart (hsame : first.SameFrame second) (id : ClassId) :
    second.localPart id = first.localPart id := by
  have hwithin : ∀ bound cls, second.localWithin bound cls = first.localWithin bound cls := by
    intro bound
    induction bound with
    | zero => exact fun _ => rfl
    | succ bound ih =>
        intro cls
        rw [localWithin, localWithin, (hsame.record cls).prepends, (hsame.record cls).includes,
          funext ih]
  rw [Graph.localPart, hsame.size]
  exact hwithin _ id

theorem SameFrame.ancestors (hsame : first.SameFrame second) (id : ClassId) :
    second.ancestors id = first.ancestors id := by
  rw [Graph.ancestors, hsame.superclassChain, funext hsame.localPart, Graph.ancestors]

theorem SameFrame.metaclassChain (hsame : first.SameFrame second) (id : ClassId) :
    second.metaclassChain id = first.metaclassChain id := by
  have hclass : second.classOfClass id = first.classOfClass id := by
    rw [classOfClass, isModule, ClassRecord.isModule, (hsame.record id).kind]
    rfl
  have hslots : (fun cls => (second.record cls).metaclass) = fun cls => (first.record cls).metaclass :=
    funext fun cls => (hsame.record cls).metaclass
  rw [Graph.metaclassChain, hclass, hsame.superclassChain, hsame.superclassChain, hslots,
    Graph.metaclassChain]

end

theorem Proper.of_sameFrame {first second : Graph} (hproper : first.Proper)
    (hsame : first.SameFrame second) : second.Proper := by
  intro id superclass hsuper
  rw [superclass?, (hsame.record id).superclass] at hsuper
  rw [isModule_iff, (hsame.record superclass).kind, ← isModule_iff]
  exact hproper id superclass hsuper

theorem sameFrame_putMethod (graph : Graph) (id : ClassId) (name : Symbol) (entry : MethodEntry) :
    graph.SameFrame (graph.update id (.putMethod name entry)) :=
  graph.sameFrame_update id fun record => record.sameFrame_with _ _ _ _ _ _

/-- A class that is no module is in no local part but its own. -/
theorem Stacked.eq_of_mem_localPart {graph : Graph} (hstacked : graph.Stacked) {id other : ClassId}
    (hid : graph.Has id) (hother : other ∈ graph.localPart id) (hkind : ¬ graph.isModule other) :
    other = id := by
  rcases ReflTransGen.cases_tail ((hstacked.mem_localPart hid).mp hother) with
    rfl | ⟨outer, _, hmixes⟩
  · rfl
  · exact absurd (hstacked.isModule_of_mixes hmixes) hkind

/-- A new entry in a class that is no module is seen only under its own name and where that class is
searched. -/
theorem Stacked.entryAlong_putMethod {graph : Graph} (hstacked : graph.Stacked) {changed : ClassId}
    {name other : Symbol} (entry : MethodEntry) {chain : List ClassId}
    (hchain : ∀ cls ∈ chain, graph.Has cls) (hkind : ¬ graph.isModule changed)
    (hunseen : other = name → changed ∉ chain) :
    (graph.update changed (.putMethod name entry)).entryAlong? chain other =
      graph.entryAlong? chain other := by
  apply findSome?_congr
  intro cls hcls
  rw [localFirst?, (graph.sameFrame_putMethod changed name entry).localPart, localFirst?]
  apply findSome?_congr
  intro module hmodule
  rcases graph.record_update changed module (.putMethod name entry) with heq | ⟨rfl, _, heq⟩
  · rw [heq]
  · obtain rfl := hstacked.eq_of_mem_localPart (hchain cls hcls) hmodule hkind
    rw [heq]
    exact Table.find?_insert_of_ne (fun hsame => hunseen hsame hcls) _ _

end ObjectModel.Graph
