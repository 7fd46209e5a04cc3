import Mathlib.Data.String.Basic
import ObjectModel.Proofs.Comparison.Answers
import ObjectModel.Proofs.Interpreter
import ObjectModel.Proofs.MethodViews

/-! # The laws of comparison

If sending `<=>` leaves the state as it is, then only this state matters. That is so for integers and for strings that have
the builtin methods, which compare the numbers and the texts, so that the laws of comparison hold of them.
-/

namespace ObjectModel.State

variable {quiet : State → Prop} {state : State} {values : Value → Prop} {pairs : Value → Value → Prop}
  {answer : Value → Value → Value} {depth : Nat}

/-! ## Answers that change nothing -/

/-- The name of the method by which values are compared is interned in every state that can be reached. -/
theorem Reachable.find_compare (hreachable : state.Reachable) :
    ∃ symbol, state.names.find? "<=>" = some symbol :=
  hreachable.find_of_standard (by decide +kernel)

/-- A call is the same once the search for the methods of the receiver has begun. -/
theorem Searchable.run_dispatchName_start (hsearchable : state.Searchable) {value : Value}
    (hvalue : state.Has value) {name : String} {symbol : Symbol} (hname : state.names.find? name = some symbol)
    (run : Runner) (checked : Bool) (arguments : List Value) :
    (dispatchName run checked value name arguments).run.run (state.start value).2 =
      (dispatchName run checked value name arguments).run.run state := by
  have hstarted : (state.start value).2.names.find? name = some symbol := by
    rw [names_start, hname]
  rw [run_dispatchName_of_find hname, run_dispatchName_of_find hstarted, dispatch, run_dispatchClass_bind,
    run_dispatchClass_bind, hsearchable.start_start hvalue]

/-- If a call leaves the state as it is, then the search for the methods of the receiver makes nothing. -/
theorem Reachable.start_of_unchanged (hreachable : state.Reachable) {value : Value} (hvalue : state.Has value)
    {arguments : List Value} (harguments : ∀ argument ∈ arguments, state.Has argument)
    (hunchanged : state.after (send (runBody depth) value "<=>" arguments) = state) :
    (state.start value).2 = state := by
  cases value with
  | cls id =>
      have hsound := hreachable.sound
      obtain ⟨symbol, hname⟩ := hreachable.find_compare
      obtain ⟨hstarted, hgrows⟩ := hsound.runs (hsound.runs_start hvalue)
      -- the call goes on from where the search has begun to the state itself, so the metaclass is there
      have hruns : (state.start (.cls id)).2.Runs state := by
        have hsent := (gives_send "<=>" (safe_runBody depth) (hgrows.has hvalue)
          (fun argument hargument => hgrows.has (harguments argument hargument)) hstarted).1
        rwa [after, send, hsound.searchable.run_dispatchName_start hvalue hname, ← send, ← after,
          hunchanged] at hsent
      have hslot := (hsound.searchable.graph.stacked.synthesizes hvalue).slot
      have hkept := ((hstarted.runs hruns).2.graph.record (hgrows.graph.has hvalue)).metaclass hslot
      change state.withGraph (state.graph.metaclassOf id).2 = state
      rw [Graph.metaclassOf_of_some hkept]
      rfl
  | _ => rfl

/-- If the answers change nothing, then the values are compared quietly. -/
theorem Reachable.compares_of_unchanged (hreachable : state.Reachable)
    (hhas : ∀ value, values value → state.Has value)
    (hcomparable : ∀ value, values value → state.IsComparable value)
    (hself : ∀ value, values value → pairs value value)
    (hanswers : ∀ first second, pairs first second →
      (send (runBody depth) first "<=>" [second]).run.run state = (.ok (answer first second), state)) :
    Compares depth values pairs (· = state) answer where
  searchable hquiet := hquiet ▸ hreachable.sound.searchable
  has hquiet hvalue := hquiet ▸ hhas _ hvalue
  comparable hquiet hvalue := hquiet ▸ hcomparable _ hvalue
  start {reached value} hquiet hvalue := by
    subst hquiet
    have hunchanged : reached.after (send (runBody depth) value "<=>" [value]) = reached :=
      congrArg Prod.snd (hanswers value value (hself value hvalue))
    exact hreachable.start_of_unchanged (hhas value hvalue) (List.forall_mem_singleton.mpr (hhas value hvalue))
      hunchanged
  answers {reached first second} hquiet hpair := by
    subst hquiet
    exact .of_run rfl (hanswers first second hpair)

/-! ## Builtin orders -/

/-- An order as a number. -/
def orderNumber : Ordering → Int
  | .lt => -1
  | .eq => 0
  | .gt => 1

theorem orderValue_eq (order : Ordering) : Builtin.orderValue order = .int (orderNumber order) := by
  cases order <;> rfl

/-- The number that tells the order of two values by what they are taken for. -/
def numberBy {κ : Type} [Ord κ] (key : Value → κ) (first second : Value) : Int :=
  orderNumber (compare (key first) (key second))

theorem totalPreorder_numberBy {κ : Type} [Ord κ] [Std.TransOrd κ] (key : Value → κ) (values : Value → Prop) :
    TotalPreorder values (numberBy key) where
  turns {first second} _ _ := by
    rw [numberBy, numberBy, Std.OrientedOrd.eq_swap (a := key second)]
    cases compare (key first) (key second) <;> rfl
  passes {first second third} _ _ _ := by
    have hle (order : Ordering) : orderNumber order ≤ 0 ↔ order.isLE := by cases order <;> decide
    simp only [numberBy, hle]
    exact Std.TransOrd.isLE_trans

/-- What a value has that is compared by a builtin method. -/
structure HasOrder (state : State) (routine : Routine) (value : Value) : Prop where
  has : state.Has value
  comparable : state.IsComparable value
  compare : state.routine? value "<=>" = some routine

/-- The integers, if they are compared as such. -/
def integers (state : State) (value : Value) : Prop :=
  (∃ number, value = .int number) ∧ state.HasOrder (.number .compare) value

/-- The strings that are compared as such. -/
def strings (state : State) (value : Value) : Prop :=
  (∃ id, value = .str id) ∧ state.HasOrder (.string .compare) value

/-- The number that an integer is. -/
def integerOf : Value → Int
  | .int number => number
  | _ => 0

/-- The text that a string has. -/
def textOf (state : State) (value : Value) : String := (state.text? value).getD ""

theorem text_of_has {id : ObjectId} (hid : state.Has (.str id)) :
    state.text? (.str id) = some (state.textOf (.str id)) := by
  obtain ⟨object, hobject, htext⟩ := hid
  obtain ⟨text, htext⟩ := Option.isSome_iff_exists.mp htext
  have hfound : state.text? (.str id) = some text := by
    rw [text?, Heap.object, hobject]
    exact htext
  rw [textOf, hfound, Option.getD_some]

/-- What an integer answers: nothing of use to what is no number. -/
def numberAnswer (first second : Value) : Value :=
  ((Builtin.compareNumbers first second).map Builtin.orderValue).getD .nil

/-- What a string answers: nothing of use to what is no string. -/
def textAnswer (state : State) (first second : Value) : Value :=
  match state.text? first, state.text? second with
  | some own, some other => Builtin.orderValue (compare own other)
  | _, _ => .nil

/-- Integers answer whatever they are compared with. -/
theorem Reachable.compares_integers (hreachable : state.Reachable) (depth : Nat) :
    Compares (depth + 1) state.integers (fun first _ => state.integers first) (· = state) numberAnswer := by
  refine hreachable.compares_of_unchanged (fun _ hvalue => hvalue.2.has)
    (fun _ hvalue => hvalue.2.comparable) (fun _ hvalue => hvalue) ?_
  rintro _ second ⟨⟨first, rfl⟩, hfirst⟩
  exact (hreachable.sound.searchable.run_dispatchName_routine hfirst.has hfirst.compare depth false _).trans rfl

theorem Reachable.compares_strings (hreachable : state.Reachable) (depth : Nat) :
    Compares (depth + 1) state.strings (fun first _ => state.strings first) (· = state) state.textAnswer := by
  refine hreachable.compares_of_unchanged (fun _ hvalue => hvalue.2.has)
    (fun _ hvalue => hvalue.2.comparable) (fun _ hvalue => hvalue) ?_
  rintro _ second ⟨⟨first, rfl⟩, hfirst⟩
  exact (hreachable.sound.searchable.run_dispatchName_routine hfirst.has hfirst.compare depth false _).trans rfl

theorem orders_integers (state : State) :
    Orders state.integers (fun first _ => state.integers first) numberAnswer (numberBy integerOf) where
  toTotalPreorder := totalPreorder_numberBy integerOf _
  pair hfirst _ := hfirst
  answer := by
    rintro _ _ ⟨⟨first, rfl⟩, -⟩ ⟨⟨second, rfl⟩, -⟩
    rw [numberBy, ← orderValue_eq]
    rfl

theorem orders_strings (state : State) :
    Orders state.strings (fun first _ => state.strings first) state.textAnswer (numberBy state.textOf) where
  toTotalPreorder := totalPreorder_numberBy state.textOf _
  pair hfirst _ := hfirst
  answer := by
    rintro _ _ ⟨⟨first, rfl⟩, hfirst⟩ ⟨⟨second, rfl⟩, hsecond⟩
    rw [textAnswer, text_of_has hfirst.has, text_of_has hsecond.has, numberBy, ← orderValue_eq]

/-! ## The laws -/

/-- All integers have the same methods. -/
theorem routine_int (state : State) (number : Int) (name : String) :
    state.routine? (.int number) name = state.routine? (.int 0) name := rfl

/-- In a new object model all integers are compared as such. -/
theorem integers_plain (number : Int) : plain.integers (.int number) := by
  obtain ⟨hless, hlessOrEqual, hgreater, hgreaterOrEqual, hbetween, hclamp, hcompare⟩ :
      plain.routine? (.int 0) "<" = some (.comparable .less) ∧
      plain.routine? (.int 0) "<=" = some (.comparable .lessOrEqual) ∧
      plain.routine? (.int 0) ">" = some (.comparable .greater) ∧
      plain.routine? (.int 0) ">=" = some (.comparable .greaterOrEqual) ∧
      plain.routine? (.int 0) "between?" = some (.comparable .between) ∧
      plain.routine? (.int 0) "clamp" = some (.comparable .clamp) ∧
      plain.routine? (.int 0) "<=>" = some (.number .compare) := by
    decide +kernel
  refine ⟨⟨number, rfl⟩, trivial, ⟨fun comparison => ?_, ?_, ?_⟩, ?_⟩
  · rw [routine_int]
    cases comparison with
    | less => exact hless
    | lessOrEqual => exact hlessOrEqual
    | greater => exact hgreater
    | greaterOrEqual => exact hgreaterOrEqual
  · rw [routine_int, hbetween]
  · rw [routine_int, hclamp]
  · rw [routine_int, hcompare]

end ObjectModel.State
