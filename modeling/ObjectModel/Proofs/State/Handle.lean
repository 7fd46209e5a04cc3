import ObjectModel.Perform
import ObjectModel.Proofs.Graph.Growth

/-! # What values stand for

A value that is a symbol or a handle stands for something in the state. As a state grows, what was handed out
before stays there, so a value that stands for something goes on to do so.
-/

namespace ObjectModel

/-- What never changes in an object: its class, of what kind it is, and its singleton class once there is
one. A frozen object stays frozen. -/
structure HeapObject.Keeps (first second : HeapObject) : Prop where
  cls : second.cls = first.cls
  isText : second.text?.isSome = first.text?.isSome
  items : second.items? = first.items?
  singleton : ∀ {singleton}, first.singleton = some singleton → second.singleton = some singleton
  isFrozen : first.isFrozen → second.isFrozen

namespace HeapObject.Keeps

variable {first second third : HeapObject}

theorem refl (object : HeapObject) : object.Keeps object := ⟨rfl, rfl, rfl, id, id⟩

theorem trans (hfirst : first.Keeps second) (hsecond : second.Keeps third) : first.Keeps third where
  cls := hsecond.cls.trans hfirst.cls
  isText := hsecond.isText.trans hfirst.isText
  items := hsecond.items.trans hfirst.items
  singleton hsingleton := hsecond.singleton (hfirst.singleton hsingleton)
  isFrozen hfrozen := hsecond.isFrozen (hfirst.isFrozen hfrozen)

end HeapObject.Keeps

namespace Heap

/-- A heap that came from another one: its objects are there still. -/
def Grows (first second : Heap) : Prop :=
  ∀ id object, first.get? id = some object → ∃ next, second.get? id = some next ∧ object.Keeps next

theorem Grows.refl (heap : Heap) : heap.Grows heap := fun _ _ hobject => ⟨_, hobject, .refl _⟩

theorem Grows.trans {first second third : Heap} (hfirst : first.Grows second)
    (hsecond : second.Grows third) : first.Grows third := by
  intro id object hobject
  obtain ⟨middle, hmiddle, hkept⟩ := hfirst id object hobject
  obtain ⟨last, hlast, hkeeps⟩ := hsecond id middle hmiddle
  exact ⟨last, hlast, hkept.trans hkeeps⟩

/-! ## Objects after a change -/

theorem object_of_get {heap : Heap} {id : ObjectId} {object : HeapObject}
    (hobject : heap.get? id = some object) : heap.object id = object := by
  rw [Heap.object, hobject]
  rfl

theorem get_update_self (heap : Heap) (id : ObjectId) (change : HeapObject → HeapObject) :
    (heap.update id change).get? id = (heap.get? id).map change := by
  simp [get?, update]

theorem get_update_of_ne {heap : Heap} {id other : ObjectId} (hother : other ≠ id)
    (change : HeapObject → HeapObject) : (heap.update id change).get? other = heap.get? other := by
  have hindex : id.index ≠ other.index := by
    intro heq
    exact hother (by cases id; cases other; simp_all)
  simp [get?, update, hindex]

/-- An object after a change is the old one or, at the position of the change, the changed one. -/
theorem get_update_cases {heap : Heap} {id other : ObjectId} {change : HeapObject → HeapObject}
    {object : HeapObject} (hobject : (heap.update id change).get? other = some object) :
    heap.get? other = some object ∨
      other = id ∧ ∃ old, heap.get? id = some old ∧ object = change old := by
  by_cases heq : other = id
  · subst heq
    rw [get_update_self] at hobject
    obtain ⟨old, hold, rfl⟩ := Option.map_eq_some_iff.mp hobject
    exact .inr ⟨rfl, old, hold, rfl⟩
  · exact .inl (get_update_of_ne heq change ▸ hobject)

theorem grows_update {heap : Heap} {id : ObjectId} {change : HeapObject → HeapObject}
    (hchange : ∀ object, heap.get? id = some object → object.Keeps (change object)) :
    heap.Grows (heap.update id change) := by
  intro other object hobject
  by_cases heq : other = id
  · subst heq
    refine ⟨change object, ?_, hchange object hobject⟩
    rw [get_update_self, hobject]
    rfl
  · exact ⟨object, (get_update_of_ne heq change).trans hobject, .refl object⟩

/-- The position of the object that is added next. -/
def next (heap : Heap) : ObjectId := ⟨heap.size⟩

theorem get_add_next (heap : Heap) (object : HeapObject) :
    (heap.add object).2.get? heap.next = some object := by
  simp [get?, add, next, size]

theorem get_add_of_some {heap : Heap} {id : ObjectId} {old : HeapObject}
    (hold : heap.get? id = some old) (object : HeapObject) :
    (heap.add object).2.get? id = some old := by
  simp only [get?] at hold
  obtain ⟨hlt, rfl⟩ := List.getElem?_eq_some_iff.mp hold
  simp [get?, add, List.getElem?_append_left hlt]

theorem get_add_cases {heap : Heap} {id : ObjectId} {object found : HeapObject}
    (hfound : (heap.add object).2.get? id = some found) :
    heap.get? id = some found ∨ id = heap.next ∧ found = object := by
  -- positions below the length are old, and only one more is there
  by_cases hlt : id.index < heap.objects.length
  · left
    simpa [get?, add, List.getElem?_append_left hlt] using hfound
  · right
    simp only [get?, add] at hfound
    rw [List.getElem?_append_right (by omega)] at hfound
    obtain ⟨hindex, hvalue⟩ := List.getElem?_eq_some_iff.mp hfound
    simp only [List.length_singleton] at hindex
    have heq : id.index = heap.objects.length := by omega
    exact ⟨congrArg ObjectId.mk heq, by simpa using hvalue.symm⟩

theorem grows_add (heap : Heap) (object : HeapObject) : heap.Grows (heap.add object).2 :=
  fun _ _ hobject => ⟨_, get_add_of_some hobject object, .refl _⟩

end Heap

/-! ## Symbols -/

namespace Interner

/-- A symbol was handed out. -/
def Has (interner : Interner) (symbol : Symbol) : Prop := symbol.index < interner.size

/-- A table of names that came from another one: old names keep their positions. -/
def Grows (first second : Interner) : Prop := first.names <+: second.names

theorem Grows.has {first second : Interner} (hgrows : first.Grows second) {symbol : Symbol}
    (hsymbol : first.Has symbol) : second.Has symbol :=
  Nat.lt_of_lt_of_le hsymbol hgrows.length_le

theorem grows_intern (interner : Interner) (text : String) :
    interner.Grows (interner.intern text).2 := by
  rw [intern]
  split
  · exact List.prefix_refl _
  · exact List.prefix_append _ _

/-- The symbol of a text stands for that text. -/
theorem text_of_find {interner : Interner} {text : String} {symbol : Symbol}
    (hfind : interner.find? text = some symbol) : interner.text? symbol = some text := by
  obtain ⟨index, hindex, rfl⟩ := Option.map_eq_some_iff.mp hfind
  obtain ⟨hlt, hsame, _⟩ := List.findIdx?_eq_some_iff_getElem.mp hindex
  exact List.getElem?_eq_some_iff.mpr ⟨hlt, of_decide_eq_true hsame⟩

theorem find?_eq_none_iff {interner : Interner} {text : String} :
    interner.find? text = none ↔ text ∉ interner.names := by
  rw [find?, Option.map_eq_none_iff, List.findIdx?_eq_none_iff]
  constructor
  · intro hother hmem
    simpa using hother text hmem
  · intro hnew other hother
    exact decide_eq_false fun hsame => hnew (hsame ▸ hother)

theorem eq_of_find {interner : Interner} {first second : String} {symbol : Symbol}
    (hfirst : interner.find? first = some symbol) (hsecond : interner.find? second = some symbol) :
    first = second :=
  Option.some.inj ((text_of_find hfirst).symm.trans (text_of_find hsecond))

/-- A text keeps its symbol. -/
theorem Grows.find {first second : Interner} (hgrows : first.Grows second) {text : String}
    {symbol : Symbol} (hfind : first.find? text = some symbol) : second.find? text = some symbol := by
  obtain ⟨rest, hrest⟩ := hgrows
  obtain ⟨index, hindex, rfl⟩ := Option.map_eq_some_iff.mp hfind
  rw [find?, ← hrest, List.findIdx?_append, hindex]
  rfl

theorem find_intern_self (interner : Interner) (text : String) :
    (interner.intern text).2.find? text = some (interner.intern text).1 := by
  rw [intern]
  split
  next hfind => exact hfind
  next hfind =>
    have hnone : interner.names.findIdx? (· = text) = none := Option.map_eq_none_iff.mp hfind
    simp [find?, List.findIdx?_append, hnone]

theorem find_intern_of_ne (interner : Interner) {text other : String} (hother : other ≠ text) :
    (interner.intern text).2.find? other = interner.find? other := by
  rw [intern]
  split
  · rfl
  · simp [find?, List.findIdx?_append, Ne.symm hother]

theorem intern_of_find {interner : Interner} {text : String} {symbol : Symbol}
    (hfind : interner.find? text = some symbol) : interner.intern text = (symbol, interner) := by
  rw [intern, hfind]

/-- A text that is seen for the first time gets a symbol that was not handed out before. -/
theorem not_has_intern {interner : Interner} {text : String} (hfind : interner.find? text = none) :
    ¬ interner.Has (interner.intern text).1 := by
  rw [intern, hfind]
  exact Nat.lt_irrefl _

theorem has_of_find {interner : Interner} {text : String} {symbol : Symbol}
    (hfind : interner.find? text = some symbol) : interner.Has symbol := by
  obtain ⟨index, hindex, rfl⟩ := Option.map_eq_some_iff.mp hfind
  exact (List.findIdx?_eq_some_iff_getElem.mp hindex).1

theorem has_intern (interner : Interner) (text : String) :
    (interner.intern text).2.Has (interner.intern text).1 := by
  rw [intern]
  split
  next symbol hfind => exact has_of_find hfind
  · simp [Has, size]

end Interner

/-! ## Values -/

namespace State

/-- What a value stands for is there: a symbol and a handle were handed out, and strings have a handle of
their own. -/
def Has (state : State) : Value → Prop
  | .symbol name => state.names.Has name
  | .str id => ∃ object, state.heap.get? id = some object ∧ object.text?.isSome
  | .object id => ∃ object, state.heap.get? id = some object ∧ object.text? = none
  | .cls id => state.graph.Has id
  | .encoding id => id.index < Encoding.catalog.length
  | .nil | .bool _ | .int _ | .float _ => True

/-- A state that came from another one. -/
structure Grows (first second : State) : Prop where
  graph : first.graph.Grows second.graph
  names : first.names.Grows second.names
  heap : first.heap.Grows second.heap
  installations : first.installations ≤ second.installations

namespace Grows

variable {first second third : State}

theorem refl (state : State) : state.Grows state :=
  ⟨.refl _, List.prefix_refl _, .refl _, Nat.le_refl _⟩

theorem trans (hfirst : first.Grows second) (hsecond : second.Grows third) : first.Grows third where
  graph := hfirst.graph.trans hsecond.graph
  names := List.IsPrefix.trans hfirst.names hsecond.names
  heap := hfirst.heap.trans hsecond.heap
  installations := Nat.le_trans hfirst.installations hsecond.installations

/-- A value that stands for something goes on to do so. -/
theorem has (hgrows : first.Grows second) {value : Value} (hvalue : first.Has value) :
    second.Has value := by
  cases value with
  | symbol name => exact hgrows.names.has hvalue
  | cls id => exact hgrows.graph.has hvalue
  | str id =>
      obtain ⟨object, hobject, htext⟩ := hvalue
      obtain ⟨next, hnext, hkeeps⟩ := hgrows.heap id object hobject
      exact ⟨next, hnext, hkeeps.isText.trans htext⟩
  | object id =>
      obtain ⟨object, hobject, htext⟩ := hvalue
      obtain ⟨next, hnext, hkeeps⟩ := hgrows.heap id object hobject
      refine ⟨next, hnext, ?_⟩
      rw [← Option.isNone_iff_eq_none, ← Option.not_isSome, hkeeps.isText, htext]
      rfl
  | encoding id => exact hvalue
  | nil => trivial
  | bool flag => trivial
  | int number => trivial
  | float bits => trivial

theorem hasAll (hgrows : first.Grows second) {values : List Value}
    (hvalues : ∀ value ∈ values, first.Has value) : ∀ value ∈ values, second.Has value :=
  fun value hvalue => hgrows.has (hvalues value hvalue)

end Grows

end State

end ObjectModel
