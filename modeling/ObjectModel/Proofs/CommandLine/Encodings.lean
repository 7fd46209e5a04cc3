import ObjectModel.CommandLine.Answer
import ObjectModel.Proofs.Encoding.Resolved

/-! # Default encodings on the command line

Which names the default encodings have after the assignments that are asked for. Either both assignments are made and
both names are read, or one of them is refused and nothing is read.
-/

namespace ObjectModel.CommandLine

open Encoding (Defaults nameOf)

/-- The name of the external default encoding after an assignment, if one is asked for. -/
inductive NamesExternal : Option String → String → Prop
  | kept : NamesExternal none "UTF-8"
  /-- The word `nil` names no encoding, and the external default cannot be absent. -/
  | assigned {word : String} {id : EncodingId} (hword : word ≠ "nil")
      (hfind : Encoding.find? word = some id) : NamesExternal (some word) (nameOf id)

/-- The name of the internal default encoding after an assignment, if one is asked for. -/
inductive NamesInternal : Option String → Option String → Prop
  | kept : NamesInternal none none
  | absent : NamesInternal (some "nil") none
  | assigned {word : String} {id : EncodingId} (hword : word ≠ "nil")
      (hfind : Encoding.find? word = some id) : NamesInternal (some word) (some (nameOf id))

theorem NamesExternal.unique {external : Option String} {first second : String}
    (hfirst : NamesExternal external first) (hsecond : NamesExternal external second) :
    first = second := by
  cases hfirst with
  | kept => cases hsecond; rfl
  | assigned _ hfind =>
      cases hsecond with
      | assigned _ hother => rw [Option.some.inj (hfind.symm.trans hother)]

theorem NamesInternal.unique {internal : Option String} {first second : Option String}
    (hfirst : NamesInternal internal first) (hsecond : NamesInternal internal second) :
    first = second := by
  cases hfirst with
  | kept => cases hsecond; rfl
  | absent =>
      cases hsecond with
      | absent => rfl
      | assigned hword _ => exact absurd rfl hword
  | assigned hword hfind =>
      cases hsecond with
      | absent => exact absurd rfl hword
      | assigned _ hother => rw [Option.some.inj (hfind.symm.trans hother)]

theorem discard_eq {α : Type} (act : Action α) : discard act = (act >>= fun _ => pure ()) := rfl

/-- An operation on the value of one expression that sets something and gives a value. -/
theorem run_discard_runOperation {operation : Operation Expr} {set : Action Value} {operand : Expr}
    {value : Value} {state reached : State}
    (hoperand : (operand.evaluate (runBody Session.depth) .nil []).run.run state = (.ok value, reached))
    (hperform : (operation.map .script).perform (runBody Session.depth) [value] =
      (set >>= fun result => pure (.value result))) :
    (discard (Session.runOperation operation [operand] none)).run.run state =
      (discard set).run.run reached := by
  have hoperands : (Expr.evaluateAll (runBody Session.depth) .nil [] [operand]).run.run state =
      (.ok [value], reached) := by
    rw [Expr.evaluateAll, State.run_bind_of_ok hoperand]
    rfl
  rw [discard_eq, discard_eq, State.run_bind, Session.runOperation, State.run_bind_of_ok hoperands,
    performInto, hperform, State.run_bind, State.run_bind, State.run_bind]
  cases set.run.run reached with
  | mk outcome last => cases outcome <;> rfl

/-- The state with a new string at the end of the heap. -/
def withText (state : State) (content : String) : State :=
  { state with heap := (state.heap.add (.fresh CoreClass.string.id (.text content))).2 }

/-- The new string stands for the encoding of its text. -/
theorem resolved_withText (state : State) (word : String) (run : Runner) :
    ((withText state word).result (encodingArgument run (.str state.heap.next))).bind
      Encoding.Argument.outcome = Encoding.resolveName word := by
  have htext : (withText state word).text? (.str state.heap.next) = some word := by
    rw [State.text?, withText]
    dsimp only
    rw [Heap.object_of_get (state.heap.get_add_next _)]
    rfl
  change Encoding.Argument.outcome (.name (((withText state word).text? (.str state.heap.next)).getD "")) = _
  rw [htext, Option.getD_some, Encoding.outcome_name]

theorem run_assignExternal (state : State) {word : String} (hword : word ≠ "nil") :
    (assignWord .setDefaultExternal (some word)).run.run state =
      match Encoding.find? word with
      | none => (.error (.fault (.unknownEncoding word)), withText state word)
      | some id => (.ok (),
          { withText state word with defaults := state.defaults.assign (.external id) }) := by
  have hset := (withText state word).assignsExternal (runBody Session.depth) (.str state.heap.next)
  rw [resolved_withText, Encoding.resolveName] at hset
  have hrun : (discard (Session.runOperation .setDefaultExternal [.text word] none)).run.run state =
      (discard (setDefaultExternal (runBody Session.depth) (.str state.heap.next))).run.run
        (withText state word) := run_discard_runOperation rfl rfl
  rw [assignWord, if_neg hword, hrun, discard_eq, State.run_bind]
  cases hfind : Encoding.find? word with
  | none =>
      rw [hfind] at hset
      rw [hset.stopped _ rfl]
      rfl
  | some id =>
      rw [hfind] at hset
      obtain ⟨last, hset, rfl⟩ := hset.completed id rfl
      rw [hset]
      rfl

theorem run_assignInternal (state : State) {word : String} (hword : word ≠ "nil") :
    (assignWord .setDefaultInternal (some word)).run.run state =
      match Encoding.find? word with
      | none => (.error (.fault (.unknownEncoding word)), withText state word)
      | some id => (.ok (),
          { withText state word with defaults := state.defaults.assign (.internal (some id)) }) := by
  have hset := (withText state word).assignsInternal (runBody Session.depth) (.str state.heap.next)
  rw [resolved_withText, Encoding.resolveName] at hset
  have hrun : (discard (Session.runOperation .setDefaultInternal [.text word] none)).run.run state =
      (discard (setDefaultInternal (runBody Session.depth) (.str state.heap.next))).run.run
        (withText state word) := run_discard_runOperation rfl rfl
  rw [assignWord, if_neg hword, hrun, discard_eq, State.run_bind]
  cases hfind : Encoding.find? word with
  | none =>
      rw [hfind] at hset
      rw [hset.stopped _ rfl]
      rfl
  | some id =>
      rw [hfind] at hset
      obtain ⟨last, hset, rfl⟩ := hset.completed (some id) rfl
      rw [hset]
      rfl

/-- The first assignment is made, and then the external encoding has the name that was asked for; or it names
no encoding. -/
theorem assignWord_external {state : State} (hname : state.defaults.externalName = "UTF-8")
    (external : Option String) :
    (∃ last, (assignWord .setDefaultExternal external).run.run state = (.ok (), last) ∧
      NamesExternal external last.defaults.externalName ∧
        last.defaults.internal = state.defaults.internal) ∨
    ∃ fault last, (assignWord .setDefaultExternal external).run.run state =
      (.error (.fault fault), last) ∧ ∀ name, ¬ NamesExternal external name := by
  cases external with
  | none => exact .inl ⟨state, rfl, hname ▸ .kept, rfl⟩
  | some word =>
      by_cases hword : word = "nil"
      · subst hword
        refine .inr ⟨_, _, rfl, ?_⟩
        intro name hnames
        cases hnames with
        | assigned hword _ => exact hword rfl
      · rw [run_assignExternal state hword]
        cases hfind : Encoding.find? word with
        | some id => exact .inl ⟨_, rfl, .assigned hword hfind, rfl⟩
        | none =>
            refine .inr ⟨_, _, rfl, ?_⟩
            intro name hnames
            cases hnames with
            | assigned _ hother => cases hfind.symm.trans hother

theorem assignWord_internal {state : State} (hnone : state.defaults.internal = none)
    (internal : Option String) :
    (∃ last, (assignWord .setDefaultInternal internal).run.run state = (.ok (), last) ∧
      NamesInternal internal last.defaults.internalName? ∧
        last.defaults.externalName = state.defaults.externalName) ∨
    ∃ fault last, (assignWord .setDefaultInternal internal).run.run state =
      (.error (.fault fault), last) ∧ ∀ name, ¬ NamesInternal internal name := by
  cases internal with
  | none =>
      refine .inl ⟨state, rfl, ?_, rfl⟩
      rw [Defaults.internalName?, hnone]
      exact .kept
  | some word =>
      by_cases hword : word = "nil"
      · subst hword
        exact .inl ⟨_, rfl, .absent, rfl⟩
      · rw [run_assignInternal state hword]
        cases hfind : Encoding.find? word with
        | some id => exact .inl ⟨_, rfl, .assigned hword hfind, rfl⟩
        | none =>
            refine .inr ⟨_, _, rfl, ?_⟩
            intro name hnames
            cases hnames with
            | absent => exact hword rfl
            | assigned _ hother => cases hfind.symm.trans hother

/-- Both assignments are made and both names are read, or an assignment is refused. -/
theorem result_assignEncodings {state : State} (hexternal : state.defaults.externalName = "UTF-8")
    (hinternal : state.defaults.internal = none) (internal external : Option String) :
    (∃ names, state.result (assignEncodings internal external) = .ok names ∧
      NamesExternal external names.1 ∧ NamesInternal internal names.2) ∨
    ∃ fault, state.result (assignEncodings internal external) = .error (.fault fault) ∧
      ¬ ∃ first second, NamesExternal external first ∧ NamesInternal internal second := by
  rw [State.result, assignEncodings, State.run_bind]
  rcases assignWord_external hexternal external with ⟨middle, hrun, hnamed, hsame⟩ | ⟨fault, _, hrun, hnone⟩
  · rw [hrun]
    dsimp only
    rw [State.run_bind]
    rcases assignWord_internal (hsame.trans hinternal) internal with
      ⟨last, hrun, hlast, hstill⟩ | ⟨fault, _, hrun, hnone⟩
    · rw [hrun]
      refine .inl ⟨_, rfl, ?_, hlast⟩
      change NamesExternal external last.defaults.externalName
      rwa [hstill]
    · rw [hrun]
      refine .inr ⟨fault, rfl, ?_⟩
      rintro ⟨_, second, -, hsecond⟩
      exact hnone second hsecond
  · rw [hrun]
    refine .inr ⟨fault, rfl, ?_⟩
    rintro ⟨first, _, hfirst, -⟩
    exact hnone first hfirst

end ObjectModel.CommandLine
