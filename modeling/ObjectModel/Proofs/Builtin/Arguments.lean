import ObjectModel.Builtin.Encodings
import ObjectModel.Builtin.Texts
import ObjectModel.Proofs.State.Calls

/-! # Arguments of builtin methods are only looked at

Checking the number and the kinds of arguments leaves the state as it is; what comes out of it is there if the argument
was.
-/

namespace ObjectModel

namespace State

variable {state : State}

theorem has_argument {arguments : List Value} (harguments : ∀ value ∈ arguments, state.Has value)
    (position : Nat) : state.Has (Builtin.argument arguments position) := by
  rw [Builtin.argument]
  cases hget : arguments[position]? with
  | none => trivial
  | some value => exact harguments value (List.mem_of_getElem? hget)

theorem Sound.has_items (hsound : state.Sound) {value : Value} (hvalue : state.Has value)
    {items : List Value} (hitems : state.items? value = some items) :
    ∀ item ∈ items, state.Has item := by
  cases value with
  | object id =>
      obtain ⟨object, hobject, _⟩ := hvalue
      rw [items?, Heap.object_of_get hobject] at hitems
      exact (hsound.object id object hobject).items items hitems
  | _ => simp [items?] at hitems

theorem leads_refuseKind {α : Type} (value : Value) (complaint : String)
    {post : State → α → Prop} : state.Leads (Builtin.refuseKind value complaint) post :=
  .ask_bind (.refuse _)

theorem leads_refuseConversion {α : Type} (value : Value) (needed : String)
    {post : State → α → Prop} : state.Leads (Builtin.refuseConversion value needed) post :=
  .ask_bind (.refuse _)

theorem looks_checkArity (arity : Builtin.Arity) (arguments : List Value) :
    state.Looks (Builtin.checkArity arity arguments) fun _ => True :=
  .ite (fun _ => .pure ⟨rfl, trivial⟩) fun _ => .refuse _

theorem looks_expectName (value : Value) : state.Looks (Builtin.expectName value) fun _ => True := by
  cases value with
  | symbol name => exact .ask ⟨rfl, trivial⟩
  | str id => exact .ask ⟨rfl, trivial⟩
  | _ => exact leads_refuseKind _ _

theorem looks_expectClass {value : Value} (hvalue : state.Has value) :
    state.Looks (Builtin.expectClass value) state.graph.Has := by
  cases value with
  | cls id => exact .pure ⟨rfl, hvalue⟩
  | _ => exact leads_refuseKind _ _

theorem looks_expectText (value : Value) : state.Looks (Builtin.expectText value) fun _ => True := by
  apply Leads.ask_bind
  split
  · exact .pure ⟨rfl, trivial⟩
  · exact leads_refuseConversion value "String"

theorem looks_expectInt (value : Value) : state.Looks (Builtin.expectInt value) fun _ => True := by
  cases value with
  | int number => exact .pure ⟨rfl, trivial⟩
  | _ => exact leads_refuseConversion _ _

theorem looks_expectItems {value : Value} (hvalue : state.Has value) :
    state.Looks (Builtin.expectItems value) fun items => ∀ item ∈ items, state.Has item := by
  apply Leads.ofSound
  intro hsound
  apply Leads.ask_bind
  split
  next items hitems => exact .pure ⟨rfl, hsound.has_items hvalue hitems⟩
  · exact leads_refuseKind value " is not an Array"

theorem looks_expectEncoding {value : Value} :
    state.Looks (Builtin.expectEncoding value) fun _ => True := by
  cases value with
  | encoding id => exact .pure ⟨rfl, trivial⟩
  | _ => exact leads_refuseKind _ _

namespace Leads

variable {α : Type} {post : State → α → Prop} {arguments : List Value} {value : Value}

theorem arity_bind {arity : Builtin.Arity} {next : Unit → Action α}
    (hnext : state.Leads (next ()) post) :
    state.Leads (Builtin.checkArity arity arguments >>= next) post :=
  (looks_checkArity arity arguments).look_bind fun _ _ => hnext

theorem name_bind {next : String → Action α} (hnext : ∀ name, state.Leads (next name) post) :
    state.Leads (Builtin.expectName value >>= next) post :=
  (looks_expectName value).look_bind fun name _ => hnext name

theorem class_bind {next : ClassId → Action α} (hvalue : state.Has value)
    (hnext : ∀ id, state.graph.Has id → state.Leads (next id) post) :
    state.Leads (Builtin.expectClass value >>= next) post :=
  (looks_expectClass hvalue).look_bind hnext

theorem text_bind {next : String → Action α} (hnext : ∀ content, state.Leads (next content) post) :
    state.Leads (Builtin.expectText value >>= next) post :=
  (looks_expectText value).look_bind fun content _ => hnext content

theorem int_bind {next : Int → Action α} (hnext : ∀ number, state.Leads (next number) post) :
    state.Leads (Builtin.expectInt value >>= next) post :=
  (looks_expectInt value).look_bind fun number _ => hnext number

theorem items_bind {next : List Value → Action α} (hvalue : state.Has value)
    (hnext : ∀ items, (∀ item ∈ items, state.Has item) → state.Leads (next items) post) :
    state.Leads (Builtin.expectItems value >>= next) post :=
  (looks_expectItems hvalue).look_bind hnext

theorem encoding_bind {next : EncodingId → Action α}
    (hnext : ∀ id, state.Leads (next id) post) :
    state.Leads (Builtin.expectEncoding value >>= next) post :=
  looks_expectEncoding.look_bind fun id _ => hnext id

end Leads

end State

end ObjectModel
