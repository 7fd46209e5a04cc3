import ObjectModel.Proofs.Reachable
import ObjectModel.Proofs.Sparing.Runs
import ObjectModel.Proofs.Table
import ObjectModel.Proofs.Text.Paths

/-! # Names lead to classes

A class gets its name once, from the first constant to which it is assigned, and the name spells the way to that
constant. As long as no constant is removed and none is assigned again, the way stays open: the name of every class, cut
at its double colons, leads from `Object` to the class.
-/

namespace ObjectModel

open Relation

/-! ## Names of classes -/

namespace Graph

variable {graph : Graph} {id : ClassId}

theorem displayName_of_name {name : String} (hname : (graph.record id).name = some name) :
    graph.displayName id = name := by
  rw [displayName, displayWithin]
  dsimp only
  rw [hname]

/-- The description of a class without a name is no path. -/
theorem displayName_of_none (hname : (graph.record id).name = none) :
    ∃ rest, (graph.displayName id).toList = '#' :: rest := by
  have happend (description : String) {front : String} (hfront : ∃ rest, front.toList = '#' :: rest) :
      ∃ rest, (front ++ description).toList = '#' :: rest := by
    obtain ⟨rest, hrest⟩ := hfront
    exact ⟨rest ++ description.toList, by rw [String.toList_append, hrest, List.cons_append]⟩
  rw [displayName, displayWithin]
  dsimp only
  rw [hname]
  dsimp only
  split
  · exact happend _ (happend _ ⟨_, rfl⟩)
  · exact happend _ (happend _ (happend _ (happend _ ⟨_, rfl⟩)))
  · exact happend _ (happend _ ⟨_, rfl⟩)
  · exact happend _ (happend _ ⟨_, rfl⟩)

theorem has_of_name {name : String} (hname : (graph.record id).name = some name) : graph.Has id := by
  by_contra hid
  rw [record_of_not_has hid] at hname
  cases hname

end Graph

/-! ## Constants that stay -/

namespace State

/-- The class found by constants of which each stands in the table of the class before it. -/
def ownClassAt? (state : State) (scope : ClassId) : List String → Option ClassId
  | [] => some scope
  | name :: rest =>
      match state.ownConstant? scope name with
      | some (.cls id) => state.ownClassAt? id rest
      | _ => none

/-- The constants of one state are constants of the other one, with their values. -/
def KeepsConstants (first second : State) : Prop :=
  ∀ scope name value, first.ownConstant? scope name = some value →
    second.ownConstant? scope name = some value

variable {first second state later : State}

theorem ownClassAt_cons {scope id : ClassId} {name : String}
    (hname : state.ownConstant? scope name = some (.cls id)) (rest : List String) :
    state.ownClassAt? scope (name :: rest) = state.ownClassAt? id rest := by
  rw [ownClassAt?, hname]

/-- A way along constants goes on with one more constant. -/
theorem ownClassAt_append {scope middle id : ClassId} {front : List String} {name : String}
    (hfront : state.ownClassAt? scope front = some middle)
    (hname : state.ownConstant? middle name = some (.cls id)) :
    state.ownClassAt? scope (front ++ [name]) = some id := by
  induction front generalizing scope with
  | nil =>
      obtain rfl := Option.some.inj hfront
      exact ownClassAt_cons hname []
  | cons first rest ih =>
      rw [ownClassAt?] at hfront
      split at hfront
      next next hnext =>
        rw [List.cons_append, ownClassAt_cons hnext]
        exact ih hfront
      · cases hfront

theorem KeepsConstants.ownClassAt (hkeeps : first.KeepsConstants second) {scope id : ClassId}
    {path : List String} (hpath : first.ownClassAt? scope path = some id) :
    second.ownClassAt? scope path = some id := by
  induction path generalizing scope with
  | nil => exact hpath
  | cons name rest ih =>
      rw [ownClassAt?] at hpath
      split at hpath
      next next hnext =>
        rw [ownClassAt_cons (hkeeps _ _ _ hnext)]
        exact ih hpath
      · cases hpath

theorem ownConstant_eq_some {scope : ClassId} {name : String} {value : Value} :
    state.ownConstant? scope name = some value ↔
      ∃ symbol entry, state.names.find? name = some symbol ∧
        (state.graph.record scope).constants.find? symbol = some entry ∧ entry.value = value := by
  simp [ownConstant?, Option.bind_eq_some_iff]

/-- Constants stay where symbols do, and under them the values of entries. -/
theorem keepsConstants_of_tables (hnames : first.names.Grows second.names)
    (htables : ∀ scope symbol entry, (first.graph.record scope).constants.find? symbol = some entry →
      ∃ next, (second.graph.record scope).constants.find? symbol = some next ∧
        next.value = entry.value) : first.KeepsConstants second := by
  intro scope name value hvalue
  obtain ⟨symbol, entry, hsymbol, hentry, rfl⟩ := ownConstant_eq_some.mp hvalue
  obtain ⟨next, hnext, hsame⟩ := htables scope symbol entry hentry
  exact ownConstant_eq_some.mpr ⟨symbol, next, hnames.find hsymbol, hnext, hsame⟩

theorem keepsConstants_of_sameTables (hnames : first.names.Grows second.names)
    (htables : ∀ scope, (second.graph.record scope).constants = (first.graph.record scope).constants) :
    first.KeepsConstants second :=
  keepsConstants_of_tables hnames fun scope _ entry hentry => ⟨entry, (htables scope) ▸ hentry, rfl⟩

theorem keepsConstants_flags (state : State) (scope : ClassId) (symbol : Symbol)
    {change : ConstantEntry → ConstantEntry}
    (hvalue : ∀ entry : ConstantEntry, (change entry).value = entry.value) :
    state.KeepsConstants (state.changeClass scope (.flagConstant symbol change)) := by
  apply keepsConstants_of_tables
  · exact List.prefix_rfl
  · intro other key entry hentry
    rw [changeClass]
    rcases state.graph.record_update scope other (.flagConstant symbol change) with heq | ⟨rfl, -, heq⟩
    · exact ⟨entry, heq ▸ hentry, rfl⟩
    · rw [heq]
      refine ⟨_, Table.find_adjust change hentry, ?_⟩
      split
      · exact hvalue entry
      · rfl

theorem keepsConstants_changeClass (state : State) (id : ClassId) {change : ClassRecord → ClassRecord}
    (hchange : ∀ record : ClassRecord, (change record).constants = record.constants) :
    state.KeepsConstants (state.changeClass id change) :=
  keepsConstants_of_sameTables List.prefix_rfl <| @Graph.forall_record_update
    (fun before after => after.constants = before.constants) _ id change (fun _ => rfl) hchange

/-- Assigning a constant that was not there leaves the others as they are. -/
theorem keepsConstants_withConstant {scope : ClassId} {name : String} {value : Value}
    (honce : (state.withConstant scope name value).reassignments = state.reassignments) :
    state.KeepsConstants (state.withConstant scope name value) := by
  have hnew : (state.graph.record scope).constants.find? (state.names.intern name).1 = none := by
    rw [reassignments_withConstant] at honce
    by_contra hthere
    rw [Table.contains, Option.isSome_iff_ne_none.mpr hthere] at honce
    simp at honce
  apply keepsConstants_of_tables
  · rw [names_withConstant]
    exact state.names.grows_intern name
  · intro other symbol entry hentry
    refine ⟨entry, ?_, rfl⟩
    rw [graph_withConstant]
    rcases state.graph.record_update scope other (.putConstant (state.names.intern name).1 value) with
      heq | ⟨rfl, -, heq⟩
    · rw [heq, hentry]
    · have hother : symbol ≠ (state.names.intern name).1 := by
        rintro rfl
        rw [hnew] at hentry
        cases hentry
      rw [heq]
      exact (Table.find?_insert_of_ne hother _ _).trans hentry

/-- A constant that is assigned in a scope that is there is found there. -/
theorem ownConstant_withConstant {scope : ClassId} (hscope : state.graph.Has scope) (name : String)
    (value : Value) : (state.withConstant scope name value).ownConstant? scope name = some value := by
  refine ownConstant_eq_some.mpr ⟨(state.names.intern name).1, ?_⟩
  rw [names_withConstant, graph_withConstant, Graph.record_update_self hscope]
  refine ⟨_, Interner.find_intern_self _ _, Table.find?_insert_self _ _ _, ?_⟩
  split <;> rfl

/-- The constants that are counted are those that their scope has. -/
theorem reassignments_assignConstant (hsound : state.Sound) (scope : ClassId) {name : String}
    (value : Value) (hname : Name.isConstant name) :
    (state.after (assignConstant scope name value)).reassignments =
      state.reassignments + if (state.ownConstant? scope name).isSome then 1 else 0 := by
  have hcontains : (state.graph.record scope).constants.contains (state.names.intern name).1 =
      (state.ownConstant? scope name).isSome := by
    cases hsymbol : state.names.find? name with
    | some symbol =>
        rw [Interner.intern_of_find hsymbol, Table.contains]
        cases hentry : (state.graph.record scope).constants.find? symbol <;>
          simp [ownConstant?, hsymbol, hentry]
    | none =>
        -- a symbol that was not handed out is no key
        have hnew := Interner.not_has_intern hsymbol
        rw [ownConstant?, hsymbol, Table.contains]
        cases hfind : (state.graph.record scope).constants.find? (state.names.intern name).1 with
        | none => rfl
        | some entry =>
            exact absurd ((hsound.record scope).constants _ (Table.mem_of_find hfind)).1 hnew
  rw [after_assignConstant _ _ _ hname, ← hcontains, ← reassignments_withConstant]
  rcases after_nameClass (state.withConstant scope name value) scope name value with
    hsame | ⟨id, -, -, hnamed⟩
  · rw [hsame]
  · rw [hnamed]
    rfl

/-! ## The law of names -/

/-- A class whose name is a path is found along it, by constants of which each stands in the table of the class before
it. -/
structure NamesLead (state : State) : Prop where
  object : (state.graph.record CoreClass.object.id).name = some CoreClass.object.name
  found : ∀ {id path}, Name.IsPath path → (state.graph.record id).name = some (Name.join path) →
    state.ownClassAt? CoreClass.object.id path = some id

theorem NamesLead.of_sameNames (hlead : first.NamesLead)
    (hnames : ∀ id, (second.graph.record id).name = (first.graph.record id).name)
    (hkeeps : first.KeepsConstants second) : second.NamesLead where
  object := (hnames _).trans hlead.object
  found hpath hname := hkeeps.ownClassAt (hlead.found hpath ((hnames _).symm.trans hname))

theorem NamesLead.of_graph (hlead : first.NamesLead) (hgraph : second.graph = first.graph)
    (hnames : second.names = first.names) : second.NamesLead := by
  apply hlead.of_sameNames
  · rw [hgraph]
    exact fun _ => rfl
  · apply keepsConstants_of_sameTables
    · rw [hnames]
      exact List.prefix_rfl
    · rw [hgraph]
      exact fun _ => rfl

/-- The name that a class gets from a constant leads to it, where the constant is there. -/
theorem NamesLead.of_qualifiedName (hlead : state.NamesLead) {scope id : ClassId} {name : String}
    (hname : Name.isConstant name)
    (hconstant : state.graph.Has scope → state.ownConstant? scope name = some (.cls id))
    {path : List String} (hpath : Name.IsPath path)
    (hqualified : Name.join path = state.qualifiedName scope name) :
    state.ownClassAt? CoreClass.object.id path = some id := by
  rw [qualifiedName] at hqualified
  split at hqualified
  next hobject =>
    obtain rfl := hpath.eq_singleton hname hqualified
    have hscope : state.graph.Has scope := hobject ▸ Graph.has_of_name hlead.object
    exact hobject ▸ ownClassAt_cons (hconstant hscope) []
  next hinner =>
    obtain ⟨front, hfront, hscoped, rfl⟩ := hpath.eq_append hname hqualified
    cases hnamed : (state.graph.record scope).name with
    | some text =>
        rw [Graph.displayName_of_name hnamed] at hscoped
        have hscope := hlead.found hfront (hscoped ▸ hnamed)
        exact ownClassAt_append hscope (hconstant (Graph.has_of_name hnamed))
    | none =>
        -- a scope without a name is described by a text that is no path
        obtain ⟨first, rest, hchars, hcapital⟩ := hfront.exists_capital
        obtain ⟨others, hothers⟩ := Graph.displayName_of_none hnamed
        rw [hscoped, hothers] at hchars
        obtain ⟨rfl, -⟩ := List.cons.inj hchars
        exact absurd hcapital (by decide)

theorem NamesLead.nameClass (hlead : state.NamesLead) {scope id : ClassId} {name : String}
    (hname : Name.isConstant name) (hnone : (state.graph.record id).name = none)
    (hconstant : state.graph.Has scope → state.ownConstant? scope name = some (.cls id)) :
    ((Change.nameClass scope id (state.qualifiedName scope name)).apply state).NamesLead := by
  have hrecord := fun other => state.graph.record_update id other fun record =>
    { record with owner := some scope, name := some (state.qualifiedName scope name) }
  have hkeeps : state.KeepsConstants
      ((Change.nameClass scope id (state.qualifiedName scope name)).apply state) :=
    keepsConstants_changeClass state id fun _ => rfl
  constructor
  · rcases hrecord CoreClass.object.id with heq | ⟨rfl, -, -⟩
    · exact (congrArg ClassRecord.name heq).trans hlead.object
    · rw [hlead.object] at hnone
      cases hnone
  · intro other path hpath hnamed
    rcases hrecord other with heq | ⟨rfl, -, heq⟩
    · exact hkeeps.ownClassAt (hlead.found hpath ((congrArg ClassRecord.name heq).symm.trans hnamed))
    · have hqualified := Option.some.inj ((congrArg ClassRecord.name heq).symm.trans hnamed)
      exact hkeeps.ownClassAt (hlead.of_qualifiedName hname hconstant hpath hqualified.symm)

/-! ## Steps -/

/-- A name that a class has stays, and constants that are assigned again are counted. -/
structure NamesStay (first second : State) : Prop where
  name : ∀ {id text}, (first.graph.record id).name = some text →
    (second.graph.record id).name = some text
  reassignments : first.reassignments ≤ second.reassignments

theorem NamesStay.refl (state : State) : state.NamesStay state := ⟨fun hname => hname, Nat.le_refl _⟩

theorem NamesStay.trans (hfirst : first.NamesStay second) (hsecond : second.NamesStay state) :
    first.NamesStay state :=
  ⟨fun hname => hsecond.name (hfirst.name hname), hfirst.reassignments.trans hsecond.reassignments⟩

/-- A step that changes no name, assigns no constant again and leaves constants where they are. -/
theorem names_of_sameNames (hnames : ∀ id, (second.graph.record id).name = (first.graph.record id).name)
    (hcount : second.reassignments = first.reassignments) (hkeeps : first.KeepsConstants second) :
    first.NamesStay second ∧
      (second.reassignments = first.reassignments → first.NamesLead → second.NamesLead) :=
  ⟨⟨fun hname => (hnames _).trans hname, hcount.ge⟩, fun _ hlead => hlead.of_sameNames hnames hkeeps⟩

theorem names_assignConstant (state : State) (scope : ClassId) (name : String) (value : Value) :
    state.NamesStay (state.after (assignConstant scope name value)) ∧
      ((state.after (assignConstant scope name value)).reassignments = state.reassignments →
        state.NamesLead → (state.after (assignConstant scope name value)).NamesLead) := by
  by_cases hname : Name.isConstant name
  · rw [after_assignConstant _ _ _ hname]
    have hnames : ∀ id, ((state.withConstant scope name value).graph.record id).name =
        (state.graph.record id).name := by
      rw [graph_withConstant]
      exact @Graph.forall_record_update (fun before after => after.name = before.name) _ scope
        (.putConstant _ value) (fun _ => rfl) fun _ => rfl
    have hput : state.NamesStay (state.withConstant scope name value) :=
      ⟨fun hnamed => (hnames _).trans hnamed, by
        rw [reassignments_withConstant]
        exact Nat.le_add_right _ _⟩
    have hlead (honce : (state.withConstant scope name value).reassignments = state.reassignments)
        (hlead : state.NamesLead) : (state.withConstant scope name value).NamesLead :=
      hlead.of_sameNames hnames (keepsConstants_withConstant honce)
    rcases after_nameClass (state.withConstant scope name value) scope name value with
      hsame | ⟨id, rfl, hnone, hnamed⟩
    · rw [hsame]
      exact ⟨hput, hlead⟩
    · rw [hnamed]
      refine ⟨hput.trans ⟨?_, Nat.le_refl _⟩, fun honce hbefore => ?_⟩
      · intro other text htext
        have hother : other ≠ id := by
          rintro rfl
          rw [hnone] at htext
          cases htext
        exact (congrArg ClassRecord.name (Graph.record_update_of_ne hother _)).trans htext
      · refine (hlead honce hbefore).nameClass hname hnone fun hscope => ?_
        rw [graph_withConstant, Graph.has_update] at hscope
        exact ownConstant_withConstant hscope name (.cls id)
  · rw [after_assignConstant_of_not _ _ _ hname]
    exact ⟨.refl state, fun _ hlead => hlead⟩

/-- One step keeps names, and where no constant is assigned again, names lead on to classes. -/
theorem names_step (hstep : first.SparingStep second) : first.NamesStay second ∧
    (second.reassignments = first.reassignments → first.NamesLead → second.NamesLead) := by
  have hnames {id : ClassId} {change : ClassRecord → ClassRecord}
      (hchange : ∀ record : ClassRecord, (change record).name = record.name) (other : ClassId) :
      ((first.changeClass id change).graph.record other).name = (first.graph.record other).name :=
    @Graph.forall_record_update (fun before after => after.name = before.name) _ id change
      (fun _ => rfl) hchange other
  cases hstep with
  | rest hsame =>
      exact names_of_sameNames (fun id => (hsame.graph id).name) hsame.reassignments
        (keepsConstants_of_sameTables hsame.names fun id => (hsame.graph id).constants)
  | methods hchange =>
      exact names_of_sameNames (hnames fun record => (hchange record).2.1) rfl
        (keepsConstants_changeClass first _ fun record => (hchange record).1)
  | flags symbol _ hvalue =>
      exact names_of_sameNames (hnames fun _ => rfl) rfl (keepsConstants_flags first _ symbol hvalue)
  | freeze id =>
      exact names_of_sameNames (hnames fun _ => rfl) rfl
        (keepsConstants_changeClass first id fun _ => rfl)
  | assign name value => exact names_assignConstant first _ name value

theorem names_steps (hsteps : ReflTransGen SparingStep first second) : first.NamesStay second ∧
    (second.reassignments = first.reassignments → first.NamesLead → second.NamesLead) := by
  induction hsteps with
  | refl => exact ⟨.refl first, fun _ hlead => hlead⟩
  | tail _ hstep ih =>
      obtain ⟨hstay, hlead⟩ := names_step hstep
      refine ⟨ih.1.trans hstay, fun honce hfirst => ?_⟩
      -- the number cannot go up and then down again
      have hmiddle := (hstay.reassignments.trans honce.le).antisymm ih.1.reassignments
      exact hlead (honce.trans hmiddle.symm) (ih.2 hmiddle hfirst)

/-! ## Runs -/

/-- One move of an object model in which no constant is removed and none is assigned again: a program runs, and a session
hands over the defaults that it shares and takes the warnings. -/
inductive FreshActs (state : State) : State → Prop
  | evaluate (depth : Nat) {expression : Expr} (hspares : expression.Spares)
      (hfresh : (state.after (expression.evaluate (runBody depth) .nil [])).reassignments =
        state.reassignments) :
      FreshActs state (state.after (expression.evaluate (runBody depth) .nil []))
  | ready (defaults : Encoding.Defaults) : FreshActs state { state with defaults, warnings := [] }

/-- What runs without removing a constant goes on so, keeps names, and where names led to classes they still do. -/
theorem names_acts (hsparing : first.HasSparing) (hacts : ReflTransGen FreshActs first second) :
    second.HasSparing ∧
      (∀ {id text}, (first.graph.record id).name = some text →
        (second.graph.record id).name = some text) ∧
      (first.NamesLead → second.NamesLead) := by
  induction hacts with
  | refl => exact ⟨hsparing, fun hname => hname, fun hlead => hlead⟩
  | tail _ hacts ih =>
      obtain ⟨hmiddle, hnames, hlead⟩ := ih
      cases hacts with
      | evaluate depth hspares hfresh =>
          have hact : Sparing (Expr.evaluate (runBody depth) .nil [] _) := sparing_evaluate hspares .nil []
          have hsteps := hact.steps hmiddle
          obtain ⟨hstay, hnext⟩ := names_steps hsteps
          exact ⟨(sparedIn_of_steps hmiddle hsteps).hasSparing, fun hname => hstay.name (hnames hname),
            fun hfirst => hnext hfresh (hlead hfirst)⟩
      | ready defaults =>
          exact ⟨hmiddle, hnames, fun hfirst => (hlead hfirst).of_graph rfl rfl⟩

/-! ## The start -/

/-- The core classes with a name are constants of `Object`. -/
theorem namesLead_standard : standard.NamesLead := by
  obtain ⟨hobject, hcore⟩ :
      (standard.graph.record CoreClass.object.id).name = some CoreClass.object.name ∧
      ∀ index < standard.graph.size, ∀ text ∈ (standard.graph.record ⟨index⟩).name,
        Name.isConstant text ∧ standard.ownConstant? CoreClass.object.id text = some (.cls ⟨index⟩) := by
    decide +kernel
  constructor
  · exact hobject
  · intro id path hpath hname
    obtain ⟨hconstant, hfound⟩ := hcore id.index (Graph.has_of_name hname) _ hname
    rw [hpath.eq_singleton hconstant rfl]
    exact ownClassAt_cons hfound []

theorem namesLead_initial (options : Options) (defaults : Encoding.Defaults)
    (configuration : Config.Settings) : (initial options defaults configuration).NamesLead :=
  namesLead_standard.of_graph (graph_initial ..) (names_initial ..)

/-- As long as no constant is removed and none is assigned again, a class whose name is a path of constants is found
along that path from `Object`, each constant in the table of the class before it. So no two classes have such a name in
common; and a name that a class has is the name that it has later. -/
theorem found_under_name {options : Options} {defaults : Encoding.Defaults}
    {configuration : Config.Settings}
    (hstate : ReflTransGen FreshActs (initial options defaults configuration) state)
    (hlater : ReflTransGen FreshActs state later) :
    (∀ id path, Name.IsPath path → (state.graph.record id).name = some (Name.join path) →
      state.ownClassAt? CoreClass.object.id path = some id) ∧
    (∀ one other path, Name.IsPath path → (state.graph.record one).name = some (Name.join path) →
      (state.graph.record other).name = some (Name.join path) → one = other) ∧
    ∀ id name, (state.graph.record id).name = some name →
      (later.graph.record id).name = some name := by
  obtain ⟨hsparing, -, hlead⟩ := names_acts (hasSparing_initial options defaults configuration) hstate
  have hstands := hlead (namesLead_initial options defaults configuration)
  refine ⟨fun id path hpath hname => hstands.found hpath hname, ?_, fun id name hname => ?_⟩
  · intro one other path hpath hone hother
    exact Option.some.inj ((hstands.found hpath hone).symm.trans (hstands.found hpath hother))
  · exact (names_acts hsparing hlater).2.1 hname

/-- A class is defined in a module that has no name, and another one after the module got its name. -/
theorem found_under_name_nested :
    let program := Expr.sequence [.perform .newModule [] (some "module"),
      .perform (.defineClass "Early") [.named "module", .constant .nil] none,
      .perform (.constantSet "Outer") [.classAt ["Object"], .named "module"] none,
      .perform (.defineClass "Late") [.named "module", .constant .nil] none]
    let again := Expr.perform (.constantSet "Other") [.classAt ["Object"], .classAt ["Outer", "Late"]] none
    let state := plain.after (program.evaluate (runBody 1) .nil [])
    let later := state.after (again.evaluate (runBody 1) .nil [])
    ∃ early late, (state.graph.record early).name = some "#<Module:0x000000000000001e>::Early" ∧
      (state.graph.record late).name = some "Outer::Late" ∧
      state.ownClassAt? CoreClass.object.id ["Outer", "Early"] = some early ∧
      state.ownClassAt? CoreClass.object.id ["Outer", "Late"] = some late ∧
      later.ownClassAt? CoreClass.object.id ["Other"] = some late ∧
      (later.graph.record late).name = some "Outer::Late" := by
  intro program again state later
  obtain ⟨hfresh, hstill, hearly, hlate, hinner, hother⟩ :
      state.reassignments = plain.reassignments ∧ later.reassignments = state.reassignments ∧
        (state.graph.record ⟨32⟩).name = some "#<Module:0x000000000000001e>::Early" ∧
        (state.graph.record ⟨34⟩).name = some "Outer::Late" ∧
        state.ownClassAt? CoreClass.object.id ["Outer", "Early"] = some ⟨32⟩ ∧
        later.ownClassAt? CoreClass.object.id ["Other"] = some ⟨34⟩ := by
    decide +kernel
  have hprogram : program.Spares := by
    refine .of_parts rfl (List.forall_mem_cons.mpr ⟨?_, List.forall_mem_cons.mpr ⟨?_,
      List.forall_mem_cons.mpr ⟨?_, List.forall_mem_singleton.mpr ?_⟩⟩⟩)
    all_goals exact .perform_plain _ rfl rfl (by simp [Expr.operation?, Expr.parts])
  have hagain : again.Spares := .perform_plain _ rfl rfl (by simp [Expr.operation?, Expr.parts])
  have hstate : ReflTransGen FreshActs plain state := .single (.evaluate 1 hprogram hfresh)
  obtain ⟨hfound, -, hname⟩ := found_under_name hstate (.single (.evaluate 1 hagain hstill))
  refine ⟨⟨32⟩, ⟨34⟩, hearly, hlate, hinner, ?_, hother, hname _ _ hlate⟩
  exact hfound ⟨34⟩ ["Outer", "Late"] ⟨by decide, by decide⟩ hlate

end State

end ObjectModel
