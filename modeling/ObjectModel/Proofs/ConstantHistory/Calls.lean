import ObjectModel.Proofs.Confinement.Operations
import ObjectModel.Proofs.ConstantHistory.Requests
import ObjectModel.Proofs.State.ConstantTables

/-! # Calls that change constants

A call asks for a change of one constant in the table of one scope. The names of a state lead to the tables and back, so
that a call that succeeds carries out its request on the table that shows the constants of the scope under their names, and
one that fails leaves all tables as they are. What the tables hold in the end follows from the calls that succeeded.
-/

namespace ObjectModel

/-- A call that asks for a change of a constant. -/
structure ConstantCall where
  scope : ClassId
  name : String
  request : ConstantRequest
  deriving DecidableEq, Repr

/-- Carries out a call, and tells whether there was something to do: a constant that is not there is removed without a
failure. -/
def ConstantCall.act (call : ConstantCall) : Action Bool :=
  match call.request with
  | .assign value => do
      let _ ← constantSet call.scope call.name value
      pure true
  | .setPrivate isPrivate => do
      setConstantPrivate isPrivate call.scope call.name
      pure true
  | .markDeprecated => do
      deprecateConstant call.scope call.name
      pure true
  | .remove => do
      let removed ← constantRemove call.scope call.name
      pure removed.isSome

namespace State

variable {state next : State} {scope : ClassId} {name : String}

/-! ## Tables by name -/

/-- The constants of a scope under their names. -/
def catalogue (state : State) (scope : ClassId) : Table String ConstantEntry :=
  (state.graph.record scope).constants.mapKeys state.symbolText

/-- The names lead to the constant tables and back. -/
structure Catalogued (state : State) : Prop extends state.Unambiguous where
  known : ∀ scope, ∀ symbol ∈ (state.graph.record scope).constants.keys, state.names.Has symbol

theorem Reachable.catalogued (hreachable : state.Reachable) : state.Catalogued where
  toUnambiguous := hreachable.unambiguous
  known scope symbol hsymbol := by
    obtain ⟨pair, hpair, rfl⟩ := List.mem_map.mp hsymbol
    exact ((hreachable.sound.record scope).constants pair hpair).1

/-- A symbol that was handed out keeps its text. -/
theorem symbolText_of_grows (hgrows : state.names.Grows next.names) {symbol : Symbol}
    (hsymbol : state.names.Has symbol) : next.symbolText symbol = state.symbolText symbol := by
  obtain ⟨rest, hrest⟩ := hgrows
  rw [symbolText, symbolText, Interner.text?, Interner.text?, ← hrest,
    List.getElem?_append_left hsymbol]

theorem apart_symbolText (hdistinct : state.names.Distinct) {table : Table Symbol ConstantEntry}
    (hknown : ∀ other ∈ table.keys, state.names.Has other) {symbol : Symbol}
    (hname : state.names.find? name = some symbol) : table.Apart state.symbolText symbol := by
  intro other hother hsame
  have hfind := find_symbolText hdistinct (hknown other hother)
  rw [hsame, symbolText_of_find hname, hname] at hfind
  exact (Option.some.inj hfind).symm

theorem Catalogued.find_catalogue (hcatalogued : state.Catalogued) (scope : ClassId) (name : String) :
    (state.catalogue scope).find? name =
      (state.names.find? name).bind (state.graph.record scope).constants.find? := by
  cases hname : state.names.find? name with
  | none =>
      rw [Table.find?_eq_none_iff.mpr, Option.bind_none]
      rw [catalogue, Table.keys_mapKeys, List.mem_map]
      rintro ⟨symbol, hsymbol, rfl⟩
      have hfind := find_symbolText hcatalogued.names (hcatalogued.known scope symbol hsymbol)
      exact Option.some_ne_none _ (hfind.symm.trans hname)
  | some symbol =>
      have hfind := (apart_symbolText hcatalogued.names (hcatalogued.known scope) hname).find
      rwa [symbolText_of_find hname] at hfind

theorem Catalogued.resolveConstant_own (hcatalogued : state.Catalogued) (scope : ClassId) (name : String) :
    state.resolveConstant? scope name true = ((state.catalogue scope).find? name).map (scope, ·) := by
  rw [hcatalogued.find_catalogue, resolveConstant?]
  cases state.names.find? name <;> rfl

theorem ownConstants_eq (state : State) (scope : ClassId) :
    state.ownConstants scope = (state.catalogue scope).keys := by
  rw [catalogue, Table.keys_mapKeys, ownConstants]

theorem Catalogued.nodup_keys (hcatalogued : state.Catalogued) (scope : ClassId) :
    (state.catalogue scope).keys.Nodup := by
  rw [catalogue, Table.keys_mapKeys]
  refine List.Nodup.map_on ?_ (hcatalogued.constants scope)
  intro first hfirst second hsecond hsame
  have hfound := find_symbolText hcatalogued.names (hcatalogued.known scope first hfirst)
  rw [hsame, find_symbolText hcatalogued.names (hcatalogued.known scope second hsecond)] at hfound
  exact (Option.some.inj hfound).symm

/-! ## One call -/

/-- A call is allowed if its scope may be changed and its constant is there; new ones are only assigned, under names for
constants. Constants of frozen scopes may be removed. -/
def Allows (state : State) (call : ConstantCall) : Prop :=
  match call.request with
  | .assign _ => (state.graph.record call.scope).isFrozen = false ∧ Name.isConstant call.name
  | .setPrivate _ | .markDeprecated =>
      (state.graph.record call.scope).isFrozen = false ∧ call.name ∈ state.ownConstants call.scope
  | .remove => call.name ∈ state.ownConstants call.scope

/-- Whether a call succeeds. -/
def succeeds (state : State) (call : ConstantCall) : Bool :=
  match state.result call.act with
  | .ok changed => changed
  | .error _ => false

/-- In the next state the request of a call is carried out if that is what was done, and nothing else is. -/
structure CarriesOut (state : State) (call : ConstantCall) (done : Bool) (next : State) : Prop where
  catalogued : next.Catalogued
  has : ∀ id, next.graph.Has id ↔ state.graph.Has id
  catalogue : ∀ scope, next.catalogue scope =
    if done ∧ scope = call.scope then call.request.carryOut call.name (state.catalogue scope)
    else state.catalogue scope

theorem Catalogued.carriesOut_nothing (hcatalogued : state.Catalogued) (call : ConstantCall) :
    state.CarriesOut call false state :=
  ⟨hcatalogued, fun _ => .rfl, fun _ => (if_neg fun hdone => Bool.false_ne_true hdone.1).symm⟩

/-- Nothing is done if a constant is removed that is not there. -/
theorem CarriesOut.of_absent {call : ConstantCall} (hdone : state.CarriesOut call true next)
    (hrequest : call.request = .remove) (hname : call.name ∉ state.ownConstants call.scope) :
    state.CarriesOut call false next := by
  refine ⟨hdone.catalogued, hdone.has, fun scope => ?_⟩
  have hnothing : ¬ (false = true ∧ scope = call.scope) := fun hdone => Bool.false_ne_true hdone.1
  rw [if_neg hnothing, hdone.catalogue]
  split
  next hscope =>
    rw [hrequest, hscope.2]
    exact Table.erase_of_not_mem (state.ownConstants_eq call.scope ▸ hname)
  · rfl

/-- The request is carried out if it is on the table of its scope, and other tables are as they were. -/
theorem Catalogued.carriesOut (hcatalogued : state.Catalogued) {call : ConstantCall} {symbol : Symbol}
    (hgrows : state.names.Grows next.names) (hdistinct : next.names.Distinct)
    (hsymbol : next.names.find? call.name = some symbol)
    (hhas : ∀ id, next.graph.Has id ↔ state.graph.Has id)
    (hscope : (next.graph.record call.scope).constants =
      call.request.carryOut symbol (state.graph.record call.scope).constants)
    (hothers : ∀ other, other ≠ call.scope →
      (next.graph.record other).constants = (state.graph.record other).constants) :
    state.CarriesOut call true next := by
  -- the only symbol that can be new to a table is that of the name of the call
  have hknown (scope : ClassId) : ∀ other ∈ (next.graph.record scope).constants.keys,
      next.names.Has other := by
    intro other hother
    by_cases hsame : scope = call.scope
    · subst hsame
      rw [hscope] at hother
      rcases ConstantRequest.mem_keys_carryOut hother with rfl | hold
      · exact Interner.has_of_find hsymbol
      · exact hgrows.has (hcatalogued.known _ _ hold)
    · rw [hothers scope hsame] at hother
      exact hgrows.has (hcatalogued.known _ _ hother)
  -- the old tables are shown alike with the new names
  have hrenamed (scope : ClassId) :
      (state.graph.record scope).constants.mapKeys next.symbolText = state.catalogue scope :=
    Table.mapKeys_congr fun other hother => symbolText_of_grows hgrows (hcatalogued.known scope other hother)
  refine ⟨⟨⟨hdistinct, fun scope => ?_⟩, hknown⟩, hhas, fun scope => ?_⟩
  · by_cases hsame : scope = call.scope
    · subst hsame
      rw [hscope]
      exact ConstantRequest.nodup_keys_carryOut (hcatalogued.constants _) _ _
    · rw [hothers scope hsame]
      exact hcatalogued.constants scope
  · by_cases hsame : scope = call.scope
    · subst hsame
      have hapart : (state.graph.record call.scope).constants.Apart next.symbolText symbol :=
        apart_symbolText hdistinct (fun other hother => hgrows.has (hcatalogued.known _ _ hother)) hsymbol
      rw [if_pos ⟨rfl, rfl⟩, ← hrenamed, catalogue, hscope, ConstantRequest.mapKeys_carryOut hapart,
        symbolText_of_find hsymbol]
    · rw [if_neg fun hdone => hsame hdone.2, ← hrenamed, catalogue, hothers scope hsame]

theorem Catalogued.mem_ownConstants (hcatalogued : state.Catalogued) :
    name ∈ state.ownConstants scope ↔ ∃ symbol, state.names.find? name = some symbol ∧
      (state.graph.record scope).constants.contains symbol := by
  rw [ownConstants_eq, Table.mem_keys_iff, hcatalogued.find_catalogue]
  cases state.names.find? name with
  | none => simp
  | some symbol => simp [Table.contains]

/-- The request is carried out if the record of the scope is changed accordingly, under a name that was seen. -/
theorem Catalogued.carriesOut_changeClass (hcatalogued : state.Catalogued) {call : ConstantCall}
    (hscope : state.graph.Has call.scope) {symbol : Symbol} (hname : state.names.find? call.name = some symbol)
    {change : ClassRecord → ClassRecord}
    (hchange : ∀ record, (change record).constants = call.request.carryOut symbol record.constants) :
    state.CarriesOut call true (state.changeClass call.scope change) := by
  refine hcatalogued.carriesOut (List.prefix_refl _) hcatalogued.names hname (fun _ => Graph.has_update) ?_ ?_
  · exact (congrArg ClassRecord.constants (Graph.record_update_self hscope change)).trans (hchange _)
  · exact fun other hother => congrArg ClassRecord.constants (Graph.record_update_of_ne hother change)

/-- Naming a class changes neither names nor tables. -/
theorem after_nameClass_spares (state : State) (scope : ClassId) (name : String) (value : Value) :
    (state.after (nameClass scope name value)).names = state.names ∧
    (∀ id, (state.after (nameClass scope name value)).graph.Has id ↔ state.graph.Has id) ∧
    state.graph.SameConstants (state.after (nameClass scope name value)).graph := by
  rcases state.after_nameClass scope name value with hsame | ⟨id, -, -, hnamed⟩
  · rw [hsame]
    exact ⟨rfl, fun _ => .rfl, .refl _⟩
  · rw [hnamed]
    exact ⟨rfl, fun _ => Graph.has_update, state.sameConstants_apply nofun⟩

theorem Catalogued.carriesOut_assign (hcatalogued : state.Catalogued) {value : Value}
    (hscope : state.graph.Has scope) :
    state.CarriesOut ⟨scope, name, .assign value⟩ true
      ((state.withConstant scope name value).after (nameClass scope name value)) := by
  obtain ⟨hnames, hhas, hsame⟩ := (state.withConstant scope name value).after_nameClass_spares scope name value
  have hgraph := state.graph_withConstant scope name value
  rw [names_withConstant] at hnames
  refine hcatalogued.carriesOut (hnames ▸ state.names.grows_intern name)
    (hnames ▸ hcatalogued.names.intern name) (hnames ▸ state.names.find_intern_self name) ?_ ?_ ?_
  · intro id
    rw [hhas, hgraph, Graph.has_update]
  · rw [hsame, hgraph, Graph.record_update_self hscope]
    rfl
  · intro other hother
    rw [hsame, hgraph, Graph.record_update_of_ne hother]

/-! ## What a call leads to -/

theorem run_flagConstant_of_frozen (hfrozen : (state.graph.record scope).isFrozen = true) (name : String)
    (change : ConstantEntry → ConstantEntry) :
    ∃ halt, (flagConstant scope name change).run.run state = (.error halt, state) := by
  rw [flagConstant, run_bind, run_checkNotFrozen, if_pos hfrozen]
  exact ⟨_, rfl⟩

theorem Catalogued.run_flagConstant (hcatalogued : state.Catalogued)
    (hopen : (state.graph.record scope).isFrozen = false) (name : String)
    (change : ConstantEntry → ConstantEntry) :
    (∃ symbol, name ∈ state.ownConstants scope ∧ state.names.find? name = some symbol ∧
      (flagConstant scope name change).run.run state =
        (.ok (), state.changeClass scope (.flagConstant symbol change))) ∨
    ∃ halt, name ∉ state.ownConstants scope ∧
      (flagConstant scope name change).run.run state = (.error halt, state) := by
  have hrun : (checkNotFrozen scope).run.run state = (.ok (), state) := by
    rw [run_checkNotFrozen, hopen, if_neg Bool.false_ne_true]
  rw [flagConstant, run_bind_of_ok hrun, run_get_bind]
  dsimp only
  split
  next symbol hsymbol =>
    obtain ⟨hname, hthere⟩ := Option.filter_eq_some_iff.mp hsymbol
    exact .inl ⟨symbol, hcatalogued.mem_ownConstants.mpr ⟨symbol, hname, hthere⟩, hname, rfl⟩
  next hnone =>
    refine .inr ⟨_, fun hmem => ?_, rfl⟩
    obtain ⟨symbol, hname, hthere⟩ := hcatalogued.mem_ownConstants.mp hmem
    rw [hname, Option.filter_some, if_pos hthere] at hnone
    cases hnone

/-- A call leads to the next state, and whether it succeeds is told in advance. -/
structure Follows (state : State) (call : ConstantCall) : Prop where
  carriesOut : state.CarriesOut call (state.succeeds call) (state.after call.act)
  succeeds_iff : state.succeeds call ↔ state.Allows call

theorem Follows.of_ok {call : ConstantCall} {done : Bool} (hrun : call.act.run.run state = (.ok done, next))
    (hdone : state.CarriesOut call done next) (hallows : done ↔ state.Allows call) :
    state.Follows call := by
  have hsucceeds : state.succeeds call = done := by
    rw [succeeds, result, hrun]
  refine ⟨?_, ?_⟩
  · rwa [hsucceeds, after, hrun]
  · rwa [hsucceeds]

theorem Catalogued.follows_of_error (hcatalogued : state.Catalogued) {call : ConstantCall} {halt : Halt}
    (hrun : call.act.run.run state = (.error halt, state)) (hallows : ¬ state.Allows call) :
    state.Follows call := by
  have hsucceeds : state.succeeds call = false := by
    rw [succeeds, result, hrun]
  refine ⟨?_, ?_⟩
  · rw [hsucceeds, after, hrun]
    exact hcatalogued.carriesOut_nothing call
  · rw [hsucceeds]
    exact iff_of_false Bool.false_ne_true hallows

theorem Catalogued.follows_assign (hcatalogued : state.Catalogued) (hscope : state.graph.Has scope)
    (name : String) (value : Value) : state.Follows ⟨scope, name, .assign value⟩ := by
  have hact : ConstantCall.act ⟨scope, name, .assign value⟩ =
      (constantSet scope name value >>= fun _ => pure true) := rfl
  cases hfrozen : (state.graph.record scope).isFrozen with
  | true =>
      have hrun : (constantSet scope name value).run.run state =
          (.error (.fault (.frozen (state.graph.displayName scope))), state) := by
        rw [constantSet, run_bind, run_checkNotFrozen, if_pos hfrozen]
      refine hcatalogued.follows_of_error (by rw [hact, run_bind, hrun]) ?_
      exact fun hallows => Bool.false_ne_true (hallows.1.symm.trans hfrozen)
  | false =>
      have hchecked : (checkNotFrozen scope).run.run state = (.ok (), state) := by
        rw [run_checkNotFrozen, hfrozen, if_neg Bool.false_ne_true]
      by_cases hname : Name.isConstant name
      · have hassigned : (assignConstant scope name value).run.run state =
            (.ok (), (state.withConstant scope name value).after (nameClass scope name value)) :=
          Prod.ext (state.result_assignConstant scope value hname)
            (state.after_assignConstant scope value hname)
        have hrun : (constantSet scope name value).run.run state =
            (.ok value, (state.withConstant scope name value).after (nameClass scope name value)) := by
          rw [constantSet, run_bind_of_ok hchecked, run_bind_of_ok hassigned]
          rfl
        have hdone : (ConstantCall.act ⟨scope, name, .assign value⟩).run.run state =
            (.ok true, (state.withConstant scope name value).after (nameClass scope name value)) := by
          rw [hact, run_bind_of_ok hrun]
          rfl
        exact .of_ok hdone (hcatalogued.carriesOut_assign hscope) (iff_of_true rfl ⟨hfrozen, hname⟩)
      · have hrefused : (assignConstant scope name value).run.run state =
            (.error (.fault (.constantName name)), state) :=
          Prod.ext (state.result_assignConstant_of_not scope value hname)
            (state.after_assignConstant_of_not scope value hname)
        have hrun : (constantSet scope name value).run.run state =
            (.error (.fault (.constantName name)), state) := by
          rw [constantSet, run_bind_of_ok hchecked, run_bind, hrefused]
        exact hcatalogued.follows_of_error (by rw [hact, run_bind, hrun]) fun hallows => hname hallows.2

/-- The two calls that change flags are alike. -/
theorem Catalogued.follows_flag (hcatalogued : state.Catalogued) {call : ConstantCall}
    (hscope : state.graph.Has call.scope) {change : ConstantEntry → ConstantEntry}
    (hact : call.act = (flagConstant call.scope call.name change >>= fun _ => pure true))
    (hchange : ∀ (symbol : Symbol) (record : ClassRecord), (record.flagConstant symbol change).constants =
      call.request.carryOut symbol record.constants)
    (hallows : state.Allows call ↔
      (state.graph.record call.scope).isFrozen = false ∧ call.name ∈ state.ownConstants call.scope) :
    state.Follows call := by
  cases hfrozen : (state.graph.record call.scope).isFrozen with
  | true =>
      obtain ⟨halt, hrun⟩ := run_flagConstant_of_frozen hfrozen call.name change
      refine hcatalogued.follows_of_error (by rw [hact, run_bind, hrun]) ?_
      exact fun hallowed => Bool.false_ne_true ((hallows.mp hallowed).1.symm.trans hfrozen)
  | false =>
      rcases hcatalogued.run_flagConstant hfrozen call.name change with
        ⟨symbol, hmem, hname, hrun⟩ | ⟨halt, hmem, hrun⟩
      · have hdone : call.act.run.run state =
            (.ok true, state.changeClass call.scope (.flagConstant symbol change)) := by
          rw [hact, run_bind_of_ok hrun]
          rfl
        exact .of_ok hdone (hcatalogued.carriesOut_changeClass hscope hname (hchange symbol))
          (iff_of_true rfl (hallows.mpr ⟨hfrozen, hmem⟩))
      · exact hcatalogued.follows_of_error (by rw [hact, run_bind, hrun])
          fun hallowed => hmem (hallows.mp hallowed).2

theorem Catalogued.follows_remove (hcatalogued : state.Catalogued) (hscope : state.graph.Has scope)
    (name : String) : state.Follows ⟨scope, name, .remove⟩ := by
  have hact : ConstantCall.act ⟨scope, name, .remove⟩ =
      (constantRemove scope name >>= fun removed => pure removed.isSome) := rfl
  cases hname : state.names.find? name with
  | none =>
      have hrun : (constantRemove scope name).run.run state = (.ok none, state) := by
        rw [constantRemove, run_get_bind, hname]
        rfl
      have hdone : (ConstantCall.act ⟨scope, name, .remove⟩).run.run state = (.ok false, state) := by
        rw [hact, run_bind_of_ok hrun]
        rfl
      have habsent : name ∉ state.ownConstants scope := by
        rw [hcatalogued.mem_ownConstants]
        rintro ⟨symbol, hfind, -⟩
        exact Option.some_ne_none _ (hfind.symm.trans hname)
      exact .of_ok hdone (hcatalogued.carriesOut_nothing _) (iff_of_false Bool.false_ne_true habsent)
  | some symbol =>
      have hrun : (constantRemove scope name).run.run state =
          (.ok (((state.graph.record scope).constants.find? symbol).map ConstantEntry.value),
            state.changeClass scope (.eraseConstant symbol)) := by
        rw [constantRemove, run_get_bind, hname]
        rfl
      have hdone : (ConstantCall.act ⟨scope, name, .remove⟩).run.run state =
          (.ok ((state.graph.record scope).constants.contains symbol),
            state.changeClass scope (.eraseConstant symbol)) := by
        rw [hact, run_bind_of_ok hrun]
        exact congrArg (fun removed => (Except.ok removed, _)) Option.isSome_map
      have herased : state.CarriesOut ⟨scope, name, .remove⟩ true
          (state.changeClass scope (.eraseConstant symbol)) :=
        hcatalogued.carriesOut_changeClass hscope hname fun _ => rfl
      have hmem : name ∈ state.ownConstants scope ↔
          (state.graph.record scope).constants.contains symbol := by
        rw [hcatalogued.mem_ownConstants, hname]
        simp
      refine .of_ok hdone ?_ hmem.symm
      cases hthere : (state.graph.record scope).constants.contains symbol with
      | true => exact herased
      | false => exact herased.of_absent rfl fun hown => Bool.false_ne_true (hthere.symm.trans (hmem.mp hown))

/-- Every call is followed in every state whose names lead to its tables. -/
theorem Catalogued.follows (hcatalogued : state.Catalogued) {call : ConstantCall}
    (hscope : state.graph.Has call.scope) : state.Follows call := by
  obtain ⟨scope, name, request⟩ := call
  cases request with
  | assign value => exact hcatalogued.follows_assign hscope name value
  | setPrivate isPrivate => exact hcatalogued.follows_flag hscope rfl (fun _ _ => rfl) .rfl
  | markDeprecated => exact hcatalogued.follows_flag hscope rfl (fun _ _ => rfl) .rfl
  | remove => exact hcatalogued.follows_remove hscope name

/-! ## Many calls -/

/-- The state after calls, whether they succeed or not. -/
def afterCalls (state : State) (calls : List ConstantCall) : State :=
  calls.foldl (fun reached call => reached.after call.act) state

/-- The calls that succeed, each in the state that those before it led to. -/
def successes (state : State) : List ConstantCall → List ConstantCall
  | [] => []
  | call :: rest =>
      (if state.succeeds call then [call] else []) ++ (state.after call.act).successes rest

/-- The requests for the constants of one scope. -/
def requestsIn (scope : ClassId) (calls : List ConstantCall) : ConstantHistory :=
  (calls.filter fun call => call.scope = scope).map fun call => (call.name, call.request)

/-- What became of the constants of a scope: the requests by which those of the state could have come about, and those of
the calls that succeeded. -/
def constantHistory (state : State) (scope : ClassId) (calls : List ConstantCall) : ConstantHistory :=
  ConstantHistory.past (state.catalogue scope) ++ requestsIn scope (state.successes calls)

/-- The next call, if it succeeds, goes into the history of its scope. -/
theorem Follows.accounts {call : ConstantCall} (hfollows : state.Follows call) {history : ConstantHistory}
    (haccounts : history.Accounts (state.catalogue scope)) :
    ConstantHistory.Accounts
      (history ++ requestsIn scope (if state.succeeds call then [call] else []))
      ((state.after call.act).catalogue scope) := by
  rw [hfollows.carriesOut.catalogue]
  by_cases hdone : state.succeeds call = true ∧ scope = call.scope
  · obtain ⟨hsucceeds, rfl⟩ := hdone
    have hrequest : (∃ value, call.request = .assign value) ∨
        call.name ∈ (state.catalogue call.scope).keys := by
      have hallows := hfollows.succeeds_iff.mp hsucceeds
      rw [← ownConstants_eq]
      rw [Allows] at hallows
      cases hcase : call.request with
      | assign value => exact .inl ⟨value, rfl⟩
      | setPrivate isPrivate =>
          rw [hcase] at hallows
          exact .inr hallows.2
      | markDeprecated =>
          rw [hcase] at hallows
          exact .inr hallows.2
      | remove =>
          rw [hcase] at hallows
          exact .inr hallows
    rw [if_pos (And.intro hsucceeds rfl), if_pos hsucceeds]
    simpa [requestsIn] using haccounts.carryOut call.name call.request hrequest
  · have hnone : requestsIn scope (if state.succeeds call then [call] else []) = [] := by
      split
      next hsucceeds =>
        have hother : call.scope ≠ scope := fun hsame => hdone ⟨hsucceeds, hsame.symm⟩
        simp [requestsIn, hother]
      · rfl
    rwa [if_neg hdone, hnone, List.append_nil]

theorem requestsIn_append (scope : ClassId) (first second : List ConstantCall) :
    requestsIn scope (first ++ second) = requestsIn scope first ++ requestsIn scope second := by
  rw [requestsIn, List.filter_append, List.map_append, requestsIn, requestsIn]

/-- What the tables hold after calls follows from what they held and from the calls that succeeded. -/
theorem Catalogued.accounts_afterCalls (hcatalogued : state.Catalogued) {calls : List ConstantCall}
    (hscopes : ∀ call ∈ calls, state.graph.Has call.scope) (scope : ClassId) :
    (state.afterCalls calls).Catalogued ∧
    (∀ id, (state.afterCalls calls).graph.Has id ↔ state.graph.Has id) ∧
    ∀ history : ConstantHistory, history.Accounts (state.catalogue scope) →
      ConstantHistory.Accounts (history ++ requestsIn scope (state.successes calls))
        ((state.afterCalls calls).catalogue scope) := by
  induction calls generalizing state with
  | nil =>
      refine ⟨hcatalogued, fun _ => .rfl, fun history haccounts => ?_⟩
      exact (List.append_nil history).symm ▸ haccounts
  | cons call rest ih =>
      -- the first call is the next one of the history with which the rest begins
      obtain ⟨hscope, hrest⟩ := List.forall_mem_cons.mp hscopes
      have hfollows := hcatalogued.follows hscope
      have hhas := hfollows.carriesOut.has
      obtain ⟨hreached, hreaches, hall⟩ := ih hfollows.carriesOut.catalogued
        fun other hother => (hhas _).mpr (hrest other hother)
      refine ⟨hreached, fun id => (hreaches id).trans (hhas id), fun history haccounts => ?_⟩
      rw [successes, requestsIn_append, ← List.append_assoc]
      exact hall _ (hfollows.accounts haccounts)

/-- After any calls, of which some may fail, each constant in the table of a scope is what the requests since it last came
into being have made it: it has the value that was assigned last, it is private if that was said last, and it is deprecated
if that was asked for. A constant comes into being by an assignment; what was assigned before a removal, or said, does not
count. The listing has just the constants that are there, each once, in the order in which they came into being. A call
succeeds just if it is allowed; a constant that is assigned goes to the end of the listing if it is new and keeps its place
if it is not, a constant that is removed leaves no gap, and nothing else changes a listing. -/
theorem constants_follow_calls (hreachable : state.Reachable) {calls : List ConstantCall}
    (hscopes : ∀ call ∈ calls, state.graph.Has call.scope) (scope : ClassId) :
    let reached := state.afterCalls calls
    let history := state.constantHistory scope calls
    (∀ name, reached.resolveConstant? scope name true =
      (ConstantHistory.recorded (history.life name)).map (scope, ·)) ∧
    (∀ name, history.life name = [] ∨ ∃ value rest, history.life name = .assign value :: rest) ∧
    (∀ name, name ∈ reached.ownConstants scope ↔ history.life name ≠ []) ∧
    (reached.ownConstants scope).Nodup ∧
    (reached.ownConstants scope).Pairwise history.CreatedBefore ∧
    ∀ call : ConstantCall, state.graph.Has call.scope →
      (reached.succeeds call ↔ reached.Allows call) ∧
      (reached.after call.act).ownConstants scope =
        if reached.succeeds call ∧ scope = call.scope then
          call.request.relist call.name (reached.ownConstants scope)
        else reached.ownConstants scope := by
  intro reached history
  obtain ⟨hreached, hhas, hall⟩ := hreachable.catalogued.accounts_afterCalls hscopes scope
  have haccounts : history.Accounts (reached.catalogue scope) :=
    hall _ (.past (hreachable.catalogued.nodup_keys scope))
  rw [ownConstants_eq]
  refine ⟨fun name => ?_, haccounts.begins, fun _ => haccounts.mem_keys_iff, haccounts.nodup,
    haccounts.order, fun call hscope => ?_⟩
  · rw [hreached.resolveConstant_own, haccounts.entry]
  · have hfollows := hreached.follows ((hhas call.scope).mpr hscope)
    refine ⟨hfollows.succeeds_iff, ?_⟩
    rw [ownConstants_eq, hfollows.carriesOut.catalogue]
    split
    · exact ConstantRequest.keys_carryOut (hreached.nodup_keys scope) _ _
    · rfl

/-- One constant is assigned twice, and another is made private, removed and assigned again. Two of the calls fail. -/
def limitCalls : List ConstantCall :=
  [("LOW", .assign (.int 1)), ("HIGH", .assign (.int 2)), ("LOW", .setPrivate true), ("LOW", .assign (.int 3)),
    ("low", .assign .nil), ("MIDDLE", .markDeprecated), ("LOW", .remove), ("HIGH", .setPrivate true),
    ("LOW", .assign (.int 4)), ("HIGH", .assign (.int 5))].map fun (name, request) =>
      { scope := CoreClass.string.id, name, request }

/-- The constant that was assigned again after its removal stands last, and it is public again; the other one keeps its
place and stays private. -/
theorem constants_follow_limitCalls :
    let reached := plain.afterCalls limitCalls
    reached.ownConstants CoreClass.string.id = ["HIGH", "LOW"] ∧
      (plain.successes limitCalls).length = 8 ∧
      reached.resolveConstant? CoreClass.string.id "HIGH" true =
        some (CoreClass.string.id, ⟨.int 5, true, false⟩) ∧
      reached.resolveConstant? CoreClass.string.id "LOW" true =
        some (CoreClass.string.id, ⟨.int 4, false, false⟩) := by
  intro reached
  obtain ⟨hscopes, hlisting, hcount, hhigh, hlow⟩ :
      (∀ call ∈ limitCalls, plain.graph.Has call.scope) ∧
      (plain.afterCalls limitCalls).ownConstants CoreClass.string.id = ["HIGH", "LOW"] ∧
      (plain.successes limitCalls).length = 8 ∧
      ConstantHistory.recorded ((plain.constantHistory CoreClass.string.id limitCalls).life "HIGH") =
        some ⟨.int 5, true, false⟩ ∧
      ConstantHistory.recorded ((plain.constantHistory CoreClass.string.id limitCalls).life "LOW") =
        some ⟨.int 4, false, false⟩ := by
    decide +kernel
  obtain ⟨hfound, -⟩ := constants_follow_calls reachable_plain hscopes CoreClass.string.id
  refine ⟨hlisting, hcount, ?_, ?_⟩
  · rw [hfound, hhigh]
    rfl
  · rw [hfound, hlow]
    rfl

end State

end ObjectModel
