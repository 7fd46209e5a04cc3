import ObjectModel.Dispatch
import ObjectModel.Proofs.Graph.Search
import ObjectModel.Proofs.State.Methods

/-! # Which method a value has

The classes that are searched for the methods of a value, read off a state without making the metaclasses that are
missing, and the entry that is found along them. Looking a method up finds just this entry.
-/

namespace ObjectModel

/-- The core class of a value that is no handle. -/
def Value.coreClass? : Value → Option CoreClass
  | .nil => some .nilClass
  | .bool true => some .trueClass
  | .bool false => some .falseClass
  | .int _ => some .integer
  | .float _ => some .float
  | .symbol _ => some .symbol
  | .encoding _ => some .encoding
  | .str _ | .object _ | .cls _ => none

/-- A value stands for an object, is a class, or is one of a core class. -/
theorem Value.object_or_class_or_core (value : Value) :
    (∃ id, value.objectId? = some id) ∨ (∃ id, value = .cls id) ∨
      ∃ core, value.coreClass? = some core := by
  cases value with
  | str id => exact .inl ⟨id, rfl⟩
  | object id => exact .inl ⟨id, rfl⟩
  | cls id => exact .inr (.inl ⟨id, rfl⟩)
  | bool flag => cases flag <;> exact .inr (.inr ⟨_, rfl⟩)
  | _ => exact .inr (.inr ⟨_, rfl⟩)

namespace State

variable {state : State} {value : Value}

/-- The class at which the search for the methods of a value begins, and the state in which it is there. -/
def start (state : State) (value : Value) : ClassId × State :=
  match value with
  | .str id | .object id => ((state.heap.object id).dispatchClass, state)
  | .cls id => ((state.graph.metaclassOf id).1, state.withGraph (state.graph.metaclassOf id).2)
  | value => (state.classOf value, state)

/-- The classes whose local parts are searched for the methods of a value. -/
def searched (state : State) (value : Value) : List ClassId :=
  match value with
  | .str id | .object id => state.graph.superclassChain (state.heap.object id).dispatchClass
  | .cls id => state.graph.metaclassChain id
  | value => state.graph.superclassChain (state.classOf value)

theorem searched_of_objectId {id : ObjectId} (hid : value.objectId? = some id) :
    state.searched value = state.graph.superclassChain (state.heap.object id).dispatchClass := by
  cases value with
  | str other =>
      obtain rfl := Option.some.inj hid
      rfl
  | object other =>
      obtain rfl := Option.some.inj hid
      rfl
  | _ => simp [Value.objectId?] at hid

theorem classOf_of_objectId {id : ObjectId} (hid : value.objectId? = some id) :
    state.classOf value = (state.heap.object id).cls := by
  cases value with
  | str other =>
      obtain rfl := Option.some.inj hid
      rfl
  | object other =>
      obtain rfl := Option.some.inj hid
      rfl
  | _ => simp [Value.objectId?] at hid

theorem classOf_coreClass {core : CoreClass} (hcore : value.coreClass? = some core) :
    state.classOf value = core.id := by
  cases value with
  | bool flag => cases flag <;> exact congrArg CoreClass.id (Option.some.inj hcore)
  | str id => simp [Value.coreClass?] at hcore
  | object id => simp [Value.coreClass?] at hcore
  | cls id => simp [Value.coreClass?] at hcore
  | _ => exact congrArg CoreClass.id (Option.some.inj hcore)

theorem searched_of_coreClass {core : CoreClass} (hcore : value.coreClass? = some core) :
    state.searched value = state.graph.superclassChain core.id := by
  have hclass : state.classOf value = core.id := classOf_coreClass hcore
  rw [← hclass]
  cases value with
  | str id => simp [Value.coreClass?] at hcore
  | object id => simp [Value.coreClass?] at hcore
  | cls id => simp [Value.coreClass?] at hcore
  | _ => rfl

theorem start_of_coreClass {core : CoreClass} (hcore : value.coreClass? = some core) :
    state.start value = (core.id, state) := by
  have hclass : state.classOf value = core.id := classOf_coreClass hcore
  rw [← hclass]
  cases value with
  | str id => simp [Value.coreClass?] at hcore
  | object id => simp [Value.coreClass?] at hcore
  | cls id => simp [Value.coreClass?] at hcore
  | _ => rfl

/-- The first entry of a symbol for a value, tombstones included. -/
def first? (state : State) (value : Value) (name : Symbol) : Option MethodEntry :=
  state.graph.entryAlong? (state.searched value) name

/-- The method that a value has under a name. -/
def choice? (state : State) (value : Value) (name : String) : Option MethodEntry :=
  (state.names.find? name).bind fun symbol =>
    (state.first? value symbol).filter MethodEntry.isDefined

/-- The laws that a search relies on. -/
structure Searchable (state : State) : Prop where
  graph : state.graph.Sound
  proper : state.graph.Proper

theorem Sound.searchable (hsound : state.Sound) : state.Searchable :=
  ⟨hsound.graph, hsound.proper⟩

/-- A symbol that was not handed out stands in no table. -/
theorem Sound.entry_of_fresh (hsound : state.Sound) {name : Symbol} (hname : ¬ state.names.Has name)
    (value : Value) : state.first? value name = none := by
  rw [first?, Graph.entryAlong?, List.findSome?_eq_none_iff]
  intro cls _
  rw [Graph.localFirst?, List.findSome?_eq_none_iff]
  intro module _
  cases hfind : (state.graph.record module).methods.find? name with
  | none => rfl
  | some entry =>
      exact absurd ((hsound.record module).methods _ (Table.mem_of_find hfind)).1 hname

/-- The classes that are searched do not depend on the tables. -/
theorem searched_of_sameFrame {first second : State} (hsame : first.graph.SameFrame second.graph)
    (hheap : second.heap = first.heap) (value : Value) :
    second.searched value = first.searched value := by
  rcases value.object_or_class_or_core with ⟨id, hid⟩ | ⟨id, rfl⟩ | ⟨core, hcore⟩
  · rw [searched_of_objectId hid, searched_of_objectId hid, hheap]
    exact hsame.superclassChain _
  · exact hsame.metaclassChain id
  · rw [searched_of_coreClass hcore, searched_of_coreClass hcore]
    exact hsame.superclassChain _

theorem run_dispatchClass (state : State) (value : Value) :
    (dispatchClass value).run.run state = (.ok (state.start value).1, (state.start value).2) := by
  cases value <;> rfl

theorem after_dispatchClass (state : State) (value : Value) :
    state.after (dispatchClass value) = (state.start value).2 :=
  congrArg Prod.snd (state.run_dispatchClass value)

/-- Searching for the methods of a value is a run. -/
theorem Sound.runs_start (hsound : state.Sound) (hvalue : state.Has value) :
    state.Runs (state.start value).2 := by
  rw [← after_dispatchClass]
  exact (leads_dispatchClass hvalue hsound).1

theorem run_dispatchClass_bind {β : Type} (state : State) (value : Value) (next : ClassId → Action β) :
    (dispatchClass value >>= next).run.run state =
      (next (state.start value).1).run.run (state.start value).2 :=
  run_bind_of_ok (state.run_dispatchClass value) next

theorem Searchable.firstEntry_start (hsearchable : state.Searchable) (hvalue : state.Has value)
    (name : Symbol) :
    Graph.firstEntry? (state.start value).2.graph (state.start value).1 name =
      state.first? value name := by
  cases value with
  | cls id =>
      have hmade := hsearchable.graph.stacked.synthesizes hvalue
      exact hmade.path.extends_graph.firstEntry_metaclass hsearchable.graph
        (hsearchable.graph.synthesis hmade.path) hsearchable.proper hvalue hmade.slot name
  | _ => exact Graph.firstEntry_eq _ _ _

theorem Searchable.findMethod_start (hsearchable : state.Searchable) (hvalue : state.Has value)
    (name : Symbol) :
    (state.start value).2.graph.findMethod? (state.start value).1 name =
      (state.first? value name).filter MethodEntry.isDefined := by
  rw [Graph.findMethod?, hsearchable.firstEntry_start hvalue]

theorem run_findMethod_of_none {name : String} (hname : state.names.find? name = none) :
    (findMethod value name).run.run state = (.ok none, state) := by
  rw [findMethod, run_ask_bind, hname]
  rfl

theorem Searchable.run_findMethod (hsearchable : state.Searchable) (hvalue : state.Has value)
    {name : String} {symbol : Symbol} (hname : state.names.find? name = some symbol) :
    (findMethod value name).run.run state =
      (.ok ((state.first? value symbol).filter MethodEntry.isDefined), (state.start value).2) := by
  rw [← hsearchable.findMethod_start hvalue, findMethod, run_ask_bind, hname]
  dsimp only
  rw [run_dispatchClass_bind]
  rfl

/-- Looking a method up gives the one that the value has. -/
theorem Searchable.result_findMethod (hsearchable : state.Searchable) (hvalue : state.Has value)
    (name : String) : state.result (findMethod value name) = .ok (state.choice? value name) := by
  rw [result, choice?]
  cases hname : state.names.find? name with
  | none =>
      rw [run_findMethod_of_none hname]
      rfl
  | some symbol =>
      rw [hsearchable.run_findMethod hvalue hname]
      rfl

theorem Searchable.after_findMethod (hsearchable : state.Searchable) (hvalue : state.Has value)
    {name : String} {symbol : Symbol} (hname : state.names.find? name = some symbol) :
    state.after (findMethod value name) = (state.start value).2 := by
  rw [after, hsearchable.run_findMethod hvalue hname]

theorem Searchable.result_respondTo (hsearchable : state.Searchable) (hvalue : state.Has value)
    (name : String) (includePrivate : Bool) :
    state.result (respondTo value name includePrivate) =
      .ok ((state.choice? value name).any fun entry => includePrivate || !entry.isPrivate) := by
  have hfound := hsearchable.result_findMethod hvalue name
  rw [result] at hfound
  rw [respondTo, result, run_bind]
  cases hcase : (findMethod value name).run.run state with
  | mk outcome reached =>
      rw [hcase] at hfound
      obtain rfl : outcome = .ok (state.choice? value name) := hfound
      rfl

/-- A call runs the body of the method that the value has, if it may be called. -/
theorem Searchable.run_dispatchName (hsearchable : state.Searchable) (hvalue : state.Has value)
    {name : String} {entry : MethodEntry} (hchoice : state.choice? value name = some entry)
    (run : Runner) {checked : Bool} (hallowed : (checked && entry.isPrivate) = false)
    (arguments : List Value) :
    (dispatchName run checked value name arguments).run.run state =
      (run entry.body value arguments).run.run (state.after (findMethod value name)) := by
  obtain ⟨symbol, hname, hentry⟩ := Option.bind_eq_some_iff.mp hchoice
  rw [← hsearchable.findMethod_start hvalue] at hentry
  rw [hsearchable.after_findMethod hvalue hname]
  rw [dispatchName, run_ask_bind, hname]
  dsimp only
  rw [dispatch, run_dispatchClass_bind, run_get_bind, hentry]
  dsimp only
  rw [hallowed]
  rfl

end State

end ObjectModel
