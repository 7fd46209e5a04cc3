import ObjectModel.Proofs.Packing
import ObjectModel.Proofs.Reachable

/-! # Well-formed values

Handles are positions in three stores that are never checked when they are read. In every state that can be reached the
values that are stored somewhere stand for something, whatever an operation answers does so too, and every position that
is stored or met on a walk through the class graph is in range. The words into which values are packed lose nothing of
their handles while the stores are small enough for the bits of a payload.
-/

namespace ObjectModel

namespace State

variable {state later : State} {value : Value}

/-! ## Where values and positions stand -/

/-- A value is stored somewhere in a state. -/
inductive Stores (state : State) : Value → Prop
  | classVariable {id : ClassId} {pair : Symbol × Value}
      (hpair : pair ∈ (state.graph.record id).ownVariables.entries) : Stores state pair.2
  | objectVariable {id : ObjectId} {object : HeapObject} {pair : Symbol × Value}
      (hobject : state.heap.get? id = some object) (hpair : pair ∈ object.ownVariables.entries) :
      Stores state pair.2
  | item {id : ObjectId} {object : HeapObject} {items : List Value} {item : Value}
      (hobject : state.heap.get? id = some object) (hitems : object.items? = some items)
      (hitem : item ∈ items) : Stores state item
  | constant {id : ClassId} {pair : Symbol × ConstantEntry}
      (hpair : pair ∈ (state.graph.record id).constants.entries) : Stores state pair.2.value
  | attached {id : ClassId} {value : Value}
      (hattached : (state.graph.record id).attached = some value) : Stores state value
  | scriptVariable {pair : String × Value} (hpair : pair ∈ state.scriptVariables.entries) :
      Stores state pair.2
  | defaultExternal : Stores state (.encoding state.defaults.external)
  | defaultInternal {id : EncodingId} (hinternal : state.defaults.internal = some id) :
      Stores state (.encoding id)

/-- A position of the class graph is known from the start, belongs to a value, stands in a record or an object,
or is met on a walk through the graph. -/
inductive Indexes (state : State) : ClassId → Prop
  | core (core : CoreClass) : Indexes state core.id
  | handle {id : ClassId} (hid : state.Has (.cls id)) : Indexes state id
  | superclass {id above : ClassId} (habove : state.graph.superclass? id = some above) :
      Indexes state above
  | metaclass {id metaclass : ClassId}
      (hslot : (state.graph.record id).metaclass = some metaclass) : Indexes state metaclass
  | mixed {outer inner : ClassId} (hmixes : state.graph.Mixes outer inner) : Indexes state inner
  | owner {id scope : ClassId} (howner : (state.graph.record id).owner = some scope) :
      Indexes state scope
  | methodOwner {id : ClassId} {pair : Symbol × MethodEntry}
      (hpair : pair ∈ (state.graph.record id).methods.entries) : Indexes state pair.2.owner
  | cls {id : ObjectId} {object : HeapObject} (hobject : state.heap.get? id = some object) :
      Indexes state object.cls
  | singleton {id : ObjectId} {object : HeapObject} {singleton : ClassId}
      (hobject : state.heap.get? id = some object) (hslot : object.singleton = some singleton) :
      Indexes state singleton
  | chain {id other : ClassId} (hid : Indexes state id)
      (hother : other ∈ state.graph.superclassChain id) : Indexes state other
  | ancestor {id other : ClassId} (hid : Indexes state id)
      (hother : other ∈ state.graph.ancestors id) : Indexes state other

/-- The position that a value is, if it is one, is in the range of its store. -/
def InRange (state : State) : Value → Prop
  | .symbol name => name.index < state.names.size
  | .str id | .object id => id.index < state.heap.size
  | .cls id => id.index < state.graph.size
  | .encoding id => id.index < Encoding.catalog.length
  | _ => True

/-- A value is a position in one of the stores. -/
def IsPosition : Value → Prop
  | .symbol _ | .str _ | .object _ | .cls _ | .encoding _ => True
  | _ => False

/-- The positions in the stores fit into the payload of a word. -/
structure Packs (state : State) : Prop where
  classes : state.graph.size < 2 ^ 48
  objects : state.heap.size < 2 ^ 48
  symbols : state.names.size < 2 ^ 32

/-! ## All of them are there -/

/-- What is stored stands for something. -/
theorem Sound.has_of_stores (hsound : state.Sound) (hstores : state.Stores value) :
    state.Has value := by
  cases hstores with
  | classVariable hpair => exact ((hsound.record _).ownVariables _ hpair).2
  | objectVariable hobject hpair => exact ((hsound.object _ _ hobject).ownVariables _ hpair).2
  | item hobject hitems hitem => exact (hsound.object _ _ hobject).items _ hitems _ hitem
  | constant hpair => exact ((hsound.record _).constants _ hpair).2
  | attached hattached => exact (hsound.record _).attached _ hattached
  | scriptVariable hpair => exact hsound.scriptVariables _ hpair
  | defaultExternal => exact hsound.external
  | defaultInternal hinternal => exact hsound.internal _ hinternal

theorem Sound.has_of_method (hsound : state.Sound) {id : ClassId} {pair : Symbol × MethodEntry}
    (hpair : pair ∈ (state.graph.record id).methods.entries) : state.graph.Has pair.2.owner := by
  rw [((hsound.record id).methods pair hpair).2.1]
  exact Graph.has_of_method hpair

/-- The walks through the class graph never leave it. -/
theorem Sound.has_of_indexes (hsound : state.Sound) {id : ClassId} (hindexes : state.Indexes id) :
    state.graph.Has id := by
  have hstacked := hsound.graph.stacked
  induction hindexes with
  | core core => exact hstacked.has_core core
  | handle hid => exact hid
  | superclass habove =>
      exact Nat.lt_trans (hstacked.superclass_lt habove) (Graph.has_of_superclass habove)
  | metaclass hslot => exact hstacked.has_metaclass hslot
  | mixed hmixes => exact hstacked.has_of_mixes_right hmixes
  | owner howner => exact (hsound.record _).owner _ howner
  | methodOwner hpair => exact hsound.has_of_method hpair
  | cls hobject => exact (hsound.object _ _ hobject).cls
  | singleton hobject hslot =>
      exact Graph.has_of_attached ((hsound.object _ _ hobject).singleton _ hslot).1
  | chain _ hother ih => exact hstacked.has_of_mem_chain ih hother
  | ancestor _ hother ih => exact hstacked.has_of_mem_ancestors ih hother

theorem inRange_of_has (hvalue : state.Has value) : state.InRange value := by
  have hget : ∀ {id object}, state.heap.get? id = some object → id.index < state.heap.size :=
    fun hobject => (List.getElem?_eq_some_iff.mp hobject).1
  cases value with
  | str id =>
      obtain ⟨object, hobject, _⟩ := hvalue
      exact hget hobject
  | object id =>
      obtain ⟨object, hobject, _⟩ := hvalue
      exact hget hobject
  | symbol name => exact hvalue
  | cls id => exact hvalue
  | encoding id => exact hvalue
  | _ => trivial

/-- A word keeps the positions that are in range. -/
theorem Packs.kind_ofValue (hpacks : state.Packs) (hrange : state.InRange value)
    (hposition : IsPosition value) : (Word.ofValue value).kind = value := by
  have hpack : ∀ {tag content : Nat}, 0 < tag → tag < 16 → content < 2 ^ 48 →
      (Word.pack tag content).Tagged tag content :=
    fun hpositive htag hcontent => Word.tagged_pack hpositive htag hcontent
  cases value with
  | symbol name =>
      have hlow : name.index < 2 ^ 32 := Nat.lt_trans hrange hpacks.symbols
      have htagged := @hpack 4 name.index (by decide) (by decide) (Nat.lt_trans hlow (by decide))
      exact htagged.kind.trans (congrArg Value.symbol (htagged.symbol hlow))
  | object id =>
      exact (@hpack 5 id.index (by decide) (by decide) (Nat.lt_trans hrange hpacks.objects)).kind
  | str id =>
      exact (@hpack 6 id.index (by decide) (by decide) (Nat.lt_trans hrange hpacks.objects)).kind
  | cls id =>
      exact (@hpack 7 id.index (by decide) (by decide) (Nat.lt_trans hrange hpacks.classes)).kind
  | encoding id =>
      exact (@hpack 8 id.index (by decide) (by decide) (Nat.lt_trans hrange (by decide))).kind
  | _ => exact hposition.elim

/-! ## Well-formed states -/

/-- The laws for an object: its class is a proper class and stays the same, and its payload is a text or an
array just if its class descends from `String` or from `Array`. -/
structure ObjectLaws (state : State) (id : ObjectId) (object : HeapObject) : Prop where
  kind : (state.graph.record object.cls).kind = .cls
  lasting : ∀ later, state.Reaches later →
    ∃ next, later.heap.get? id = some next ∧ next.cls = object.cls
  text : object.text?.isSome ↔ state.graph.isKindOf object.cls CoreClass.string.id
  array : object.items?.isSome ↔ state.graph.isKindOf object.cls CoreClass.array.id

theorem Sound.objectLaws (hsound : state.Sound) {id : ObjectId} {object : HeapObject}
    (hobject : state.heap.get? id = some object) : state.ObjectLaws id object := by
  have hfits := hsound.object id object hobject
  refine ⟨hfits.kind, ?_, ?_, ?_⟩
  · intro later hreaches
    obtain ⟨next, hnext, hkeeps⟩ := (hsound.reaches hreaches).2.heap id object hobject
    exact ⟨next, hnext, hkeeps.cls⟩
  · rw [hsound.graph.isKindOf_core hfits.cls rfl]
    exact hfits.text
  · rw [hsound.graph.isKindOf_core hfits.cls rfl]
    exact hfits.array

/-- Performing an operation on what is there is a run, and the values in its answer are there. -/
theorem Sound.perform (hsound : state.Sound) (depth : Nat) {operation : Operation Expr}
    {operands : List Value} (hbodies : ∀ body ∈ operation.bodies, body.Uses state.Has)
    (hoperands : ∀ value ∈ operands, state.Has value) :
    state.Runs (state.after ((operation.map Body.script).perform (runBody depth) operands)) ∧
      ∀ answer, state.result ((operation.map Body.script).perform (runBody depth) operands) =
        .ok answer →
        (state.after ((operation.map Body.script).perform (runBody depth) operands)).HasAnswer
          answer := by
  apply answers_perform (safe_runBody depth) _ hoperands hsound
  intro body hbody
  rw [Operation.bodies_map] at hbody
  obtain ⟨expression, hexpression, rfl⟩ := List.mem_map.mp hbody
  exact ⟨hbodies expression hexpression, rfl⟩

/-- In every state that can be reached every value that is stored somewhere stands for something. Operations
and bodies that use what is there pass through such states only, and the values in the answer of an operation
and the value of a body stand for something then. The class of an object is a proper class and never changes,
and decides on its payload. Every position of a value or of the class graph that can be read is in the range of
its store, and as long as the positions fit into words, packing a value loses nothing of its position. -/
theorem stored_values_stand (hreachable : state.Reachable) :
    (∀ value, state.Stores value → state.Has value) ∧
    (∀ (depth : Nat) (operation : Operation Expr) (operands : List Value),
      (∀ body ∈ operation.bodies, body.Uses state.Has) → (∀ value ∈ operands, state.Has value) →
        let act := (operation.map Body.script).perform (runBody depth) operands
        state.Runs (state.after act) ∧
          ∀ answer, state.result act = .ok answer → (state.after act).HasAnswer answer) ∧
    (∀ (depth : Nat) (body : Body) (receiver : Value) (arguments : List Value),
      state.FitsBody body → state.Has receiver → (∀ value ∈ arguments, state.Has value) →
        let act := runBody depth body receiver arguments
        state.Runs (state.after act) ∧
          ∀ value, state.result act = .ok value → (state.after act).Has value) ∧
    (∀ later, state.Runs later → later.Reachable) ∧
    (∀ id object, state.heap.get? id = some object → state.ObjectLaws id object) ∧
    (∀ id, state.Indexes id → id.index < state.graph.size) ∧
    (∀ value, state.Has value → state.InRange value ∧
      (state.Packs → IsPosition value → (Word.ofValue value).kind = value)) := by
  have hsound := hreachable.sound
  refine ⟨fun _ => hsound.has_of_stores, ?_, ?_, fun _ => hreachable.runs,
    fun _ _ => hsound.objectLaws, fun _ => hsound.has_of_indexes, ?_⟩
  · exact fun depth operation operands hbodies hoperands => hsound.perform depth hbodies hoperands
  · intro depth body receiver arguments hbody hreceiver harguments
    exact safe_runBody depth hbody hreceiver harguments hsound
  · intro value hvalue
    have hrange := inRange_of_has hvalue
    exact ⟨hrange, fun hpacks hposition => hpacks.kind_ofValue hrange hposition⟩

/-- A string that is allocated has a handle that stands for it, and holds a text since its class descends from
`String`. -/
theorem allocated_string_stands :
    let act := (Operation.allocate.map Body.script).perform (runBody 1) [.cls CoreClass.string.id]
    let state := plain.after act
    ∃ answer id object, plain.result act = .ok answer ∧ answer.toValue = .str id ∧
      state.heap.get? id = some object ∧ object.text?.isSome ∧
      state.graph.isKindOf object.cls CoreClass.string.id := by
  intro act state
  have hanswered : (plain.result act).toOption.map Answer.toValue = some (.str ⟨0⟩) := by
    decide +kernel
  obtain ⟨answer, hresult, hstr⟩ : ∃ answer, plain.result act = .ok answer ∧
      answer.toValue = .str ⟨0⟩ := by
    cases hresult : plain.result act with
    | ok answer =>
        rw [hresult] at hanswered
        exact ⟨answer, rfl, Option.some.inj hanswered⟩
    | error _ =>
        rw [hresult] at hanswered
        exact absurd hanswered (by simp [Except.toOption])
  obtain ⟨_, hperform, _, hlater, _⟩ := stored_values_stand reachable_plain
  have hstring : plain.Has (.cls CoreClass.string.id) :=
    reachable_plain.sound.graph.stacked.has_core .string
  obtain ⟨hruns, hanswer⟩ := hperform 1 .allocate [.cls CoreClass.string.id]
    (fun _ hbody => absurd hbody List.not_mem_nil) (List.forall_mem_singleton.mpr hstring)
  have hvalue := (hanswer answer hresult).toValue
  rw [hstr] at hvalue
  have hrest : ∀ reached : State, reached.Reachable → reached.Has (.str ⟨0⟩) →
      ∃ object, reached.heap.get? ⟨0⟩ = some object ∧ object.text?.isSome ∧
        reached.graph.isKindOf object.cls CoreClass.string.id := by
    rintro reached hreached ⟨object, hobject, htext⟩
    obtain ⟨_, _, _, _, hobjects, _⟩ := stored_values_stand hreached
    exact ⟨object, hobject, htext, (hobjects ⟨0⟩ object hobject).text.mp htext⟩
  obtain ⟨object, hobject⟩ := hrest state (hlater _ hruns) hvalue
  exact ⟨answer, ⟨0⟩, object, hresult, hstr, hobject⟩

end State

end ObjectModel
