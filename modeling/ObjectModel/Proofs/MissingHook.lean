import ObjectModel.Proofs.Choice
import ObjectModel.Proofs.Reachable

/-! # Names that were never interned

A call by a name that was never interned looks at the hook for missing methods first, and interns the name only if the
hook can make something of it. What comes of the call is what would have come of it if the name had been interned
at once.
-/

namespace ObjectModel

/-- A body that makes nothing of a missing method: none at all, or the hook that is there from the start. -/
def Body.OnlyFails : Body → Prop
  | .tombstone => True
  | .builtin method _ => method.routine = .basic .missing
  | .reader _ | .writer _ | .script _ => False

theorem Body.onlyFails_of_isStockMissing {body : Body} (hstock : body.isStockMissing) :
    body.OnlyFails := by
  unfold Body.isStockMissing at hstock
  split at hstock
  · rfl
  · simp at hstock

namespace State

variable {state : State} {receiver : Value} {name : String} {arguments : List Value}

/-- The first entry for the hook for missing methods along the ancestors of the class at which the search for
the methods of a receiver begins, tombstones included. -/
def hook? (state : State) (receiver : Value) : Option MethodEntry :=
  (state.names.find? missingName).bind fun missing =>
    Graph.firstEntry? (state.start receiver).2.graph (state.start receiver).1 missing

/-- The state with another table of names. -/
def withNames (state : State) (names : Interner) : State := { state with names }

/-! ## The start of a search -/

theorem start_withNames (state : State) (names : Interner) (receiver : Value) :
    (state.withNames names).start receiver =
      ((state.start receiver).1, (state.start receiver).2.withNames names) := by
  cases receiver <;> rfl

theorem names_start (state : State) (receiver : Value) :
    (state.start receiver).2.names = state.names := by
  cases receiver <;> rfl

/-- Once a search began, another one begins at the same class and makes nothing more. -/
theorem Searchable.start_start (hsearchable : state.Searchable) (hreceiver : state.Has receiver) :
    (state.start receiver).2.start receiver = state.start receiver := by
  cases receiver with
  | cls id =>
      have hslot := (hsearchable.graph.stacked.synthesizes hreceiver).slot
      have hagain := Graph.metaclassOf_of_some hslot
      change (((state.graph.metaclassOf id).2.metaclassOf id).1,
        (state.withGraph _).withGraph ((state.graph.metaclassOf id).2.metaclassOf id).2) = _
      rw [hagain]
      rfl
  | _ => rfl

/-- A receiver is described as it was before the search for its methods began. -/
theorem Searchable.describeReceiver_start (hsearchable : state.Searchable)
    (hreceiver : state.Has receiver) :
    (state.start receiver).2.describeReceiver receiver = state.describeReceiver receiver := by
  cases receiver with
  | cls id =>
      have hextends := (hsearchable.graph.stacked.synthesizes hreceiver).path.extends_graph
      have hkind := hsearchable.graph.stacked.isModule_metaclassOf hreceiver
      have hname := hextends.displayName hsearchable.graph hreceiver
      change (if (state.graph.metaclassOf id).2.isModule id then "module " else "class ") ++
        (state.graph.metaclassOf id).2.displayName id = _
      rw [hkind, hname]
      rfl
  | _ => rfl

theorem describeReceiver_withNames (state : State) (names : Interner) (receiver : Value) :
    (state.withNames names).describeReceiver receiver = state.describeReceiver receiver := by
  cases receiver <;> rfl

/-! ## The hook -/

/-- A name that is interned from the start is interned in every state that can be reached. -/
theorem Reachable.find_of_standard (hreachable : state.Reachable) {name : String}
    (hstart : (standard.names.find? name).isSome) : ∃ symbol, state.names.find? name = some symbol := by
  obtain ⟨options, defaults, configuration, hdefaults, hreaches⟩ := hreachable
  have hgrows := ((sound_initial options configuration hdefaults).reaches hreaches).2
  obtain ⟨symbol, hsymbol⟩ := Option.isSome_iff_exists.mp hstart
  rw [← names_initial options defaults configuration] at hsymbol
  exact ⟨symbol, hgrows.names.find hsymbol⟩

/-- The name of the hook is interned in every state that can be reached. -/
theorem Reachable.find_missing (hreachable : state.Reachable) :
    ∃ missing, state.names.find? missingName = some missing :=
  hreachable.find_of_standard (by decide +kernel)

/-- An entry of a value stands in some table, so its body uses what is there. -/
theorem Sound.fitsBody_of_entry (hsound : state.Sound) {value : Value} {symbol : Symbol}
    {entry : MethodEntry} (hentry : state.first? value symbol = some entry) :
    state.FitsBody entry.body := by
  obtain ⟨cls, _, hlocal⟩ := List.exists_of_findSome?_eq_some hentry
  obtain ⟨module, _, hfind⟩ := List.exists_of_findSome?_eq_some hlocal
  exact ((hsound.record module).methods _ (Table.mem_of_find hfind)).2.2

/-- While the builtin methods were installed only once, the stock hook is the only body that is there and only
fails. -/
theorem isStockMissing_of_onlyFails {body : Body} (hinstalled : state.installations = 1)
    (hbody : state.FitsBody body) (hfails : body.OnlyFails) (hdefined : body.isDefined) :
    body.isStockMissing := by
  cases body with
  | tombstone => simp [Body.isDefined] at hdefined
  | builtin method installation =>
      obtain rfl : installation = 0 := by
        rw [FitsBody, hinstalled] at hbody
        omega
      obtain ⟨owner, onMetaclass, routine⟩ := method
      obtain rfl : routine = .basic .missing := hfails
      rfl
  | reader name => exact hfails.elim
  | writer name => exact hfails.elim
  | script expression => exact hfails.elim

theorem Searchable.hook_eq (hsearchable : state.Searchable) (hreceiver : state.Has receiver)
    {missing : Symbol} (hmissing : state.names.find? missingName = some missing) :
    state.hook? receiver = state.first? receiver missing := by
  rw [hook?, hmissing]
  exact hsearchable.firstEntry_start hreceiver missing

/-! ## Calling the hook -/

theorem run_intern (state : State) (name : String) :
    (intern name).run.run state =
      (.ok (state.names.intern name).1, state.withNames (state.names.intern name).2) := rfl

theorem run_intern_of_find {symbol : Symbol} (hname : state.names.find? name = some symbol) :
    (intern name).run.run state = (.ok symbol, state) := by
  rw [run_intern, Interner.intern_of_find hname]
  rfl

theorem symbolText_intern (state : State) (name : String) :
    (state.withNames (state.names.intern name).2).symbolText (state.names.intern name).1 = name := by
  rw [symbolText, withNames, Interner.text_of_find (state.names.find_intern_self name)]
  rfl

/-- The state in which the hook is called for a name: the search for the methods of the receiver began, and the
name is interned. -/
def readied (state : State) (receiver : Value) (name : String) : State :=
  (state.start receiver).2.withNames (state.names.intern name).2

theorem Searchable.start_readied (hsearchable : state.Searchable) (hreceiver : state.Has receiver)
    (name : String) :
    (state.readied receiver name).start receiver =
      ((state.start receiver).1, state.readied receiver name) := by
  rw [readied, start_withNames, hsearchable.start_start hreceiver]

theorem Searchable.describeReceiver_readied (hsearchable : state.Searchable)
    (hreceiver : state.Has receiver) (name : String) :
    (state.readied receiver name).describeReceiver receiver = state.describeReceiver receiver := by
  rw [readied, describeReceiver_withNames, hsearchable.describeReceiver_start hreceiver]

theorem run_refuseMissing (state : State) (receiver : Value) (name : String) :
    (refuseMissing receiver name : Action Value).run.run state =
      (.error (.fault (.noMethod name (state.describeReceiver receiver))), state) := rfl

/-- What the call of the hook comes to, once the name was interned: if there is a hook, its body is run on the
symbol of the name and the arguments. -/
theorem Reachable.run_callMissing (hreachable : state.Reachable) (hreceiver : state.Has receiver)
    (hname : state.names.find? name = none) (run : Runner) (arguments : List Value) :
    (callMissing run receiver (state.names.intern name).1 arguments).run.run
        (state.readied receiver name) =
      match (state.hook? receiver).filter MethodEntry.isDefined with
      | some hook =>
          (run hook.body receiver (.symbol (state.names.intern name).1 :: arguments)).run.run
            (state.readied receiver name)
      | none => (.error (.fault (.noMethod name (state.describeReceiver receiver))),
          state.readied receiver name) := by
  have hsearchable := hreachable.sound.searchable
  obtain ⟨missing, hmissing⟩ := hreachable.find_missing
  have hfind : (state.readied receiver name).names.find? missingName = some missing :=
    (state.names.grows_intern name).find hmissing
  -- a new name is not that of the hook, so the hook is looked up
  have hne : (state.names.intern name).1 ≠ missing := by
    intro heq
    exact Interner.not_has_intern hname (heq ▸ Interner.has_of_find hmissing)
  have htext : (state.readied receiver name).symbolText (state.names.intern name).1 = name :=
    state.symbolText_intern name
  have hentry : (state.readied receiver name).graph.findMethod? (state.start receiver).1 missing =
      (state.hook? receiver).filter MethodEntry.isDefined := by
    rw [hsearchable.hook_eq hreceiver hmissing]
    exact hsearchable.findMethod_start hreceiver missing
  rw [callMissing, run_bind_of_ok (run_intern_of_find hfind), run_dispatchClass_bind,
    hsearchable.start_readied hreceiver, run_get_bind, if_neg hne, hentry, htext]
  cases (state.hook? receiver).filter MethodEntry.isDefined with
  | some hook => rfl
  | none =>
      dsimp only
      rw [run_refuseMissing, hsearchable.describeReceiver_readied hreceiver]

/-- The stock hook tells the name that was called and describes the receiver. -/
theorem run_stockMissing {body : Body} (hstock : body.isStockMissing) (depth : Nat)
    (receiver : Value) (symbol : Symbol) (arguments : List Value) :
    (runBody (depth + 1) body receiver (.symbol symbol :: arguments)).run.run state =
      (.error (.fault (.noMethod (state.symbolText symbol) (state.describeReceiver receiver))),
        state) := by
  unfold Body.isStockMissing at hstock
  split at hstock
  · rfl
  · simp at hstock

/-! ## The two ways to call -/

section

variable (hreachable : state.Reachable) (hreceiver : state.Has receiver)
  (hname : state.names.find? name = none)

include hreachable hreceiver hname

/-- Interning the name at once, and then calling its symbol, comes to a call of the hook. -/
theorem Reachable.run_slow (run : Runner) (checked : Bool) (arguments : List Value) :
    (do
      let symbol ← intern name
      dispatch run checked receiver symbol arguments).run.run state =
      (callMissing run receiver (state.names.intern name).1 arguments).run.run
        (state.readied receiver name) := by
  -- no table holds a name that was never interned
  have hfresh := hreachable.sound.entry_of_fresh (Interner.not_has_intern hname) receiver
  have hnone : ((state.start receiver).2.withNames (state.names.intern name).2).graph.findMethod?
      (state.start receiver).1 (state.names.intern name).1 = none := by
    refine (hreachable.sound.searchable.findMethod_start hreceiver _).trans ?_
    rw [hfresh]
    rfl
  rw [run_bind_of_ok (state.run_intern name), dispatch, run_dispatchClass_bind, start_withNames,
    run_get_bind]
  dsimp only
  rw [hnone]
  rfl

/-- Looking at the hook first comes to the same call if the hook can make something of the name, and else to the
fault at once. -/
theorem Reachable.run_fast (run : Runner) (checked : Bool) (arguments : List Value) :
    (dispatchName run checked receiver name arguments).run.run state =
      if ((state.hook? receiver).filter MethodEntry.isDefined).any
          fun hook => !hook.body.isStockMissing then
        (callMissing run receiver (state.names.intern name).1 arguments).run.run
          (state.readied receiver name)
      else (.error (.fault (.noMethod name (state.describeReceiver receiver))),
        (state.start receiver).2) := by
  have hsearchable := hreachable.sound.searchable
  obtain ⟨missing, hmissing⟩ := hreachable.find_missing
  have hcustom : (hasCustomMissing receiver).run.run state =
      (.ok (((state.hook? receiver).filter MethodEntry.isDefined).any
        fun hook => !hook.body.isStockMissing), (state.start receiver).2) := by
    rw [hasCustomMissing, run_bind_of_ok (hsearchable.run_findMethod hreceiver hmissing),
      hsearchable.hook_eq hreceiver hmissing]
    rfl
  rw [dispatchName, run_ask_bind, hname]
  dsimp only
  rw [run_bind_of_ok hcustom]
  cases ((state.hook? receiver).filter MethodEntry.isDefined).any
      fun hook => !hook.body.isStockMissing with
  | true =>
      rw [if_pos rfl, if_pos rfl, run_bind_of_ok (State.run_intern _ name), names_start]
      rfl
  | false =>
      rw [if_neg Bool.false_ne_true, if_neg Bool.false_ne_true, run_refuseMissing,
        hsearchable.describeReceiver_start hreceiver]

/-- If the hook only fails, the call by a name that was never interned fails at once. -/
theorem Reachable.run_fast_of_fails (hinstalled : state.installations = 1)
    (hfails : ∀ entry, state.hook? receiver = some entry → entry.body.OnlyFails)
    (run : Runner) (checked : Bool) (arguments : List Value) :
    (dispatchName run checked receiver name arguments).run.run state =
      (.error (.fault (.noMethod name (state.describeReceiver receiver))),
        (state.start receiver).2) := by
  have hstock : ((state.hook? receiver).filter MethodEntry.isDefined).any
      (fun hook => !hook.body.isStockMissing) = false := by
    cases hhook : (state.hook? receiver).filter MethodEntry.isDefined with
    | none => rfl
    | some hook =>
        obtain ⟨hentry, hdefined⟩ := Option.filter_eq_some_iff.mp hhook
        obtain ⟨missing, hmissing⟩ := hreachable.find_missing
        have hfirst := hentry
        rw [hreachable.sound.searchable.hook_eq hreceiver hmissing] at hfirst
        have hbody := hreachable.sound.fitsBody_of_entry hfirst
        have hsame := isStockMissing_of_onlyFails hinstalled hbody (hfails hook hentry) hdefined
        simp [hsame]
  rw [hreachable.run_fast hreceiver hname, hstock]
  rfl

/-- If there is a hook that can make something of the name, its body is run once. -/
theorem Reachable.run_fast_of_hook {hook : MethodEntry} (hhook : state.hook? receiver = some hook)
    (hcustom : ¬ hook.body.OnlyFails) (run : Runner) (checked : Bool) (arguments : List Value) :
    (dispatchName run checked receiver name arguments).run.run state =
      (run hook.body receiver (.symbol (state.names.intern name).1 :: arguments)).run.run
        (state.readied receiver name) := by
  have hdefined : hook.isDefined := by
    rw [MethodEntry.isDefined]
    cases hbody : hook.body with
    | tombstone =>
        rw [hbody] at hcustom
        exact absurd trivial hcustom
    | _ => rfl
  have hfilter : (state.hook? receiver).filter MethodEntry.isDefined = some hook := by
    rw [hhook, Option.filter_some, if_pos hdefined]
  have hstock : hook.body.isStockMissing = false := by
    apply Bool.eq_false_of_not_eq_true
    exact fun hstock => hcustom (Body.onlyFails_of_isStockMissing hstock)
  rw [hreachable.run_fast hreceiver hname, hreachable.run_callMissing hreceiver hname, hfilter,
    Option.any_some, hstock]
  rfl

/-- Both ways to call have the same result, and the same effect on all but the names. -/
theorem Reachable.run_fast_slow (depth : Nat) (checked : Bool) (arguments : List Value) :
    let fast := (dispatchName (runBody (depth + 1)) checked receiver name arguments).run.run state
    let slow := (do
      let symbol ← intern name
      dispatch (runBody (depth + 1)) checked receiver symbol arguments).run.run state
    fast.1 = slow.1 ∧ fast.2 = slow.2.withNames fast.2.names := by
  intro fast slow
  have hfast := hreachable.run_fast hreceiver hname (runBody (depth + 1)) checked arguments
  have hslow := hreachable.run_slow hreceiver hname (runBody (depth + 1)) checked arguments
  have hcall := hreachable.run_callMissing hreceiver hname (runBody (depth + 1)) arguments
  change fast = _ at hfast
  change slow = _ at hslow
  cases hhook : (state.hook? receiver).filter MethodEntry.isDefined with
  | none =>
      rw [hhook] at hfast hcall
      rw [hslow, hcall, hfast]
      exact ⟨rfl, rfl⟩
  | some hook =>
      cases hstock : hook.body.isStockMissing with
      -- the stock hook is run the slow way, and raises the same fault
      | true =>
          have hsearchable := hreachable.sound.searchable
          rw [hhook, Option.any_some, hstock] at hfast
          rw [hhook] at hcall
          simp only [run_stockMissing hstock] at hcall
          have htext : (state.readied receiver name).symbolText (state.names.intern name).1 =
              name := state.symbolText_intern name
          rw [hslow, hcall, hfast, hsearchable.describeReceiver_readied hreceiver, htext]
          exact ⟨rfl, rfl⟩
      | false =>
          rw [hhook, Option.any_some, hstock] at hfast
          rw [hslow, hfast]
          exact ⟨rfl, rfl⟩

end

/-- While the builtin methods were installed only once, a call by a name that was never interned comes to what
it comes to if the name is interned first, apart from the table of names. If the first hook for missing methods
is absent, a tombstone or the one that is there from the start, the call fails with the name and the description
of the receiver and interns nothing. Else the body of the hook is run once, whatever its visibility, on the symbol
of the name and the arguments. -/
theorem dispatchName_uninterned (hreachable : state.Reachable) (hinstalled : state.installations = 1)
    (hreceiver : state.Has receiver) (hname : state.names.find? name = none) (depth : Nat)
    (checked : Bool) (arguments : List Value) :
    let run := runBody (depth + 1)
    let fast := dispatchName run checked receiver name arguments
    let slow := do
      let symbol ← intern name
      dispatch run checked receiver symbol arguments
    (state.result fast = state.result slow ∧
      state.after fast = (state.after slow).withNames (state.after fast).names) ∧
    ((∀ entry, state.hook? receiver = some entry → entry.body.OnlyFails) →
      state.result fast = .error (.fault (.noMethod name (state.describeReceiver receiver))) ∧
        (state.after fast).names = state.names) ∧
    (∀ hook, state.hook? receiver = some hook → ¬ hook.body.OnlyFails →
      fast.run.run state =
        (run hook.body receiver (.symbol (state.names.intern name).1 :: arguments)).run.run
          (state.readied receiver name)) := by
  intro run fast slow
  refine ⟨hreachable.run_fast_slow hreceiver hname depth checked arguments, ?_, ?_⟩
  · intro hfails
    have hfast := hreachable.run_fast_of_fails hreceiver hname hinstalled hfails run checked arguments
    rw [result, after, hfast]
    exact ⟨rfl, names_start state receiver⟩
  · intro hook hhook hcustom
    exact hreachable.run_fast_of_hook hreceiver hname hhook hcustom run checked arguments

/-- An unknown name is not interned when it is called on a number. -/
theorem unknown_name_fails :
    plain.result (dispatchName (runBody 1) true (.int 7) "frobnicate" []) =
        .error (.fault (.noMethod "frobnicate" "an instance of Integer")) ∧
      (plain.after (dispatchName (runBody 1) true (.int 7) "frobnicate" [])).names = plain.names := by
  -- one evaluation of the new object model for all that is needed of it
  obtain ⟨hinstalled, hname, hstock, hdescribed⟩ : plain.installations = 1 ∧
      plain.names.find? "frobnicate" = none ∧
      (plain.hook? (.int 7)).all (fun hook => hook.body.isStockMissing) = true ∧
      plain.describeReceiver (.int 7) = "an instance of Integer" := by
    decide +kernel
  have hfails : ∀ entry, plain.hook? (.int 7) = some entry → entry.body.OnlyFails := by
    intro entry hentry
    rw [hentry] at hstock
    exact Body.onlyFails_of_isStockMissing hstock
  have hreceiver : plain.Has (.int 7) := trivial
  have hcall := dispatchName_uninterned reachable_plain hinstalled hreceiver hname 0 true []
  obtain ⟨hresult, hnames⟩ := hcall.2.1 hfails
  rw [hdescribed] at hresult
  exact ⟨hresult, hnames⟩

end State

end ObjectModel
