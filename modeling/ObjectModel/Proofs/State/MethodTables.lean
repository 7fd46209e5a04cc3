import ObjectModel.Proofs.Graph.Listing
import ObjectModel.Proofs.State.Initial

/-! # How method tables change

Only three changes write to method tables: a method is put in, a method is taken out, and the builtin methods are
installed, which puts them in one by one. All other changes leave the tables as they are and give new classes empty ones.
So no table ever has two entries for one name.
-/

namespace ObjectModel

/-- The change writes to method tables. -/
def Change.WritesMethods : Change → Prop
  | putMethod .. | eraseMethod .. | installBuiltins => True
  | _ => False

namespace Graph

variable {first second third : Graph}

/-- The method tables are as they were, and those of new classes are empty. -/
def KeepsMethods (first second : Graph) : Prop :=
  ∀ id, (second.record id).methods = (first.record id).methods ∨
    (second.record id).methods = Table.empty

namespace KeepsMethods

theorem of_methods (hsame : ∀ id, (second.record id).methods = (first.record id).methods) :
    first.KeepsMethods second :=
  fun id => .inl (hsame id)

theorem mem (hkeeps : first.KeepsMethods second) {id : ClassId} {pair : Symbol × MethodEntry}
    (hpair : pair ∈ (second.record id).methods.entries) :
    pair ∈ (first.record id).methods.entries := by
  rcases hkeeps id with hsame | hempty
  · exact hsame ▸ hpair
  · rw [hempty] at hpair
    simp [Table.empty] at hpair

theorem distinctNames (hkeeps : first.KeepsMethods second) (hnames : first.DistinctNames) :
    second.DistinctNames := by
  intro id
  rcases hkeeps id with hsame | hempty
  · exact hsame ▸ hnames id
  · rw [hempty]
    exact List.nodup_nil

end KeepsMethods

theorem Extends.keepsMethods (hextends : first.Extends second) : first.KeepsMethods second := by
  intro id
  by_cases hid : first.Has id
  · obtain ⟨slot, _, hrecord⟩ := hextends.record hid
    exact .inl (by rw [hrecord])
  · by_cases hnew : second.Has id
    · obtain ⟨kind, superclass, attached, isCore, slot, hrecord⟩ := hextends.blank hnew hid
      exact .inr (by rw [hrecord]; rfl)
    · exact .inl (by rw [record_of_not_has hnew, record_of_not_has hid])

theorem keepsMethods_update (graph : Graph) (id : ClassId) {change : ClassRecord → ClassRecord}
    (hchange : ∀ record : ClassRecord, (change record).methods = record.methods) :
    graph.KeepsMethods (graph.update id change) :=
  .of_methods (@forall_record_update (fun first second => second.methods = first.methods) graph id _
    (fun _ => rfl) hchange)

/-- What a change that writes to no method table makes of a class graph: it adds blank records and fills empty
slots, mixes a module in, or changes a record outside its frame and its methods. -/
inductive Develops (graph : Graph) : Graph → Prop
  | extension {next : Graph} (hextends : graph.Extends next) : Develops graph next
  | mix {id mixin : ClassId} {change : ClassRecord → ClassRecord} (hchange : MixesIn mixin change) :
      Develops graph (graph.update id change)
  | rewrite {id : ClassId} {change : ClassRecord → ClassRecord}
      (hframe : ∀ record : ClassRecord, record.SameFrame (change record))
      (hmethods : ∀ record : ClassRecord, (change record).methods = record.methods) :
      Develops graph (graph.update id change)

theorem Develops.refl (graph : Graph) : graph.Develops graph := .extension (.refl graph)

theorem Develops.keepsMethods (hdevelops : first.Develops second) : first.KeepsMethods second := by
  cases hdevelops with
  | extension hextends => exact hextends.keepsMethods
  | mix hchange =>
      apply first.keepsMethods_update
      rcases hchange with rfl | rfl <;> exact fun _ => rfl
  | rewrite _ hmethods => exact first.keepsMethods_update _ hmethods

/-- What the tables hold after a method was put in. -/
theorem mem_putMethod {graph : Graph} {id other : ClassId} {name : Symbol} {entry : MethodEntry}
    {pair : Symbol × MethodEntry}
    (hpair : pair ∈ ((graph.update id (.putMethod name entry)).record other).methods.entries) :
    other = id ∧ pair = (name, entry) ∨ pair ∈ (graph.record other).methods.entries := by
  rcases graph.record_update id other (.putMethod name entry) with hsame | ⟨rfl, _, hput⟩
  · exact .inr (hsame ▸ hpair)
  · rw [hput] at hpair
    exact (Table.mem_insert hpair).imp_left fun heq => ⟨rfl, heq⟩

theorem mem_eraseMethod {graph : Graph} {id other : ClassId} {name : Symbol}
    {pair : Symbol × MethodEntry}
    (hpair : pair ∈ ((graph.update id (.eraseMethod name)).record other).methods.entries) :
    pair ∈ (graph.record other).methods.entries := by
  rcases graph.record_update id other (.eraseMethod name) with hsame | ⟨rfl, _, herase⟩
  · exact hsame ▸ hpair
  · rw [herase] at hpair
    exact Table.mem_erase hpair

theorem DistinctNames.update {graph : Graph} (hnames : graph.DistinctNames) (id : ClassId)
    {change : ClassRecord → ClassRecord}
    (hchange : ∀ record : ClassRecord, record.methods.keys.Nodup →
      (change record).methods.keys.Nodup) : (graph.update id change).DistinctNames := by
  intro other
  rcases graph.record_update id other change with hsame | ⟨_, _, hchanged⟩
  · exact hsame ▸ hnames other
  · rw [hchanged]
    exact hchange _ (hnames id)

theorem DistinctNames.putMethod {graph : Graph} (hnames : graph.DistinctNames) (id : ClassId)
    (name : Symbol) (entry : MethodEntry) : (graph.update id (.putMethod name entry)).DistinctNames :=
  hnames.update id fun _ hkeys => Table.nodup_keys_insert hkeys name entry

theorem DistinctNames.eraseMethod {graph : Graph} (hnames : graph.DistinctNames) (id : ClassId)
    (name : Symbol) : (graph.update id (.eraseMethod name)).DistinctNames :=
  hnames.update id fun _ hkeys => Table.nodup_keys_erase hkeys name

end Graph

namespace State

variable {state : State}

theorem develops_orSame {id : ClassId} {change : ClassRecord → ClassRecord} {mixin : ClassId}
    (hchange : Graph.MixesIn mixin change) {result : Except Fault (Bool × Graph)}
    (hresult : ∀ added graph, result = .ok (added, graph) →
      graph = state.graph ∨ graph = state.graph.update id change ∧ state.graph.Mixable id mixin) :
    state.graph.Develops (state.orSame result).graph := by
  cases hcase : result with
  | error fault => exact .refl _
  | ok pair =>
      obtain ⟨added, graph⟩ := pair
      rcases hresult added graph hcase with rfl | ⟨rfl, _⟩
      · exact .refl _
      · exact .mix hchange

/-- All changes but those of the method tables develop the class graph. -/
theorem Sound.develops (hsound : state.Sound) {change : Change} (hfits : change.Fits state)
    (hwrites : ¬ change.WritesMethods) : state.graph.Develops (change.apply state).graph := by
  have hstacked := hsound.graph.stacked
  cases change with
  | newClass superclass =>
      rw [Change.apply]
      cases hresult : state.graph.newClass superclass with
      | error fault => exact .refl _
      | ok pair => exact .extension (hstacked.extends_newClass hfits hresult).1
  | newModule => exact .extension hstacked.extends_newModule.1
  | metaclassOf id => exact .extension (hstacked.synthesizes hfits).path.extends_graph
  | newSingleton value id => exact .extension (state.graph.extends_add _ _ _ _)
  | includeModule id mixin =>
      exact develops_orSame (.inl rfl) fun _ _ hresult => Graph.includeModule_cases hresult
  | prependModule id mixin =>
      exact develops_orSame (.inr rfl) fun _ _ hresult => Graph.prependModule_cases hresult
  | putMethod => exact absurd trivial hwrites
  | eraseMethod => exact absurd trivial hwrites
  | installBuiltins => exact absurd trivial hwrites
  | putConstant | flagConstant | eraseConstant | nameClass =>
      exact .rewrite (fun record => record.sameFrame_with _ _ _ _ _ _) fun _ => rfl
  | putVariable value name content =>
      cases value with
      | cls id => exact .rewrite (fun record => record.sameFrame_with _ _ _ _ _ _) fun _ => rfl
      | _ => exact .refl _
  | freeze value =>
      cases value with
      | cls id => exact .rewrite (fun record => record.sameFrame_with _ _ _ _ _ _) fun _ => rfl
      | _ => exact .refl _
  | _ => exact .refl _

theorem Sound.keepsMethods (hsound : state.Sound) {change : Change} (hfits : change.Fits state)
    (hwrites : ¬ change.WritesMethods) :
    state.graph.KeepsMethods (change.apply state).graph :=
  (hsound.develops hfits hwrites).keepsMethods

/-- The class for which a builtin method is meant is there, or it is made. -/
theorem Sound.develops_builtinOwner (hsound : state.Sound) (builtin : Builtin) :
    state.graph.Develops (state.builtinOwner builtin).2.graph := by
  rw [State.builtinOwner]
  split
  · exact hsound.develops (hsound.graph.stacked.has_core builtin.owner) id
  · exact .refl _

/-- What putting one builtin method in keeps of a graph is kept by the whole installation. -/
theorem Sound.graph_installBuiltins (hsound : state.Sound) {motive : Graph → Prop}
    (hstart : motive state.graph)
    (hone : ∀ {reached : State} {registration : Registration}, reached.Sound →
      registration ∈ Builtin.registrations → motive reached.graph →
        motive (reached.installOne state.installations registration).graph) :
    motive state.installBuiltins.graph := by
  obtain ⟨hcounted, _⟩ := hsound.withInstallations (Nat.le_succ state.installations)
  suffices hfold : ∀ registrations ⊆ Builtin.registrations, ∀ reached : State, reached.Sound →
      state.installations < reached.installations → motive reached.graph →
        motive (registrations.foldl (State.installOne state.installations) reached).graph by
    have hall := hfold _ (List.Subset.refl _) _ hcounted (Nat.lt_succ_self _) hstart
    rw [State.foldl_installOne] at hall
    exact hall
  intro registrations
  induction registrations with
  | nil => exact fun _ _ _ _ hmotive => hmotive
  | cons registration rest ih =>
      intro hsubset reached hreached hlt hmotive
      obtain ⟨hmem, hrest⟩ := List.cons_subset.mp hsubset
      obtain ⟨hnext, _, hsame⟩ := hreached.installOne hlt registration
      exact ih hrest _ hnext (hsame.symm ▸ hlt) (hone hreached hmem hmotive)

theorem Sound.distinctNames_installOne (hsound : state.Sound) (hnames : state.graph.DistinctNames)
    (installation : Nat) (registration : Registration) :
    (state.installOne installation registration).graph.DistinctNames := by
  rw [installOne_eq]
  have hready := (hsound.develops_builtinOwner registration.builtin).keepsMethods
  exact (hready.distinctNames hnames).putMethod _ _ _

/-- Every change keeps the names in the tables distinct. -/
theorem Sound.distinctNames_apply (hsound : state.Sound) (hnames : state.graph.DistinctNames)
    {change : Change} (hfits : change.Fits state) :
    (change.apply state).graph.DistinctNames := by
  by_cases hwrites : change.WritesMethods
  · cases change with
    | putMethod id name body visibility => exact hnames.putMethod id name _
    | eraseMethod id name => exact hnames.eraseMethod id name
    | installBuiltins =>
        exact hsound.graph_installBuiltins hnames fun hstill _ hdistinct =>
          hstill.distinctNames_installOne hdistinct _ _
    | _ => exact hwrites.elim
  · exact (hsound.keepsMethods hfits hwrites).distinctNames hnames

theorem empty_methods_bare (id : ClassId) : (bare.graph.record id).methods = Table.empty := by
  by_cases hid : Graph.core.Has id
  · have hbare := isBare_core id.index hid
    simp only [ClassRecord.isBare, Bool.and_eq_true] at hbare
    exact congrArg Table.mk (List.isEmpty_iff.mp hbare.1.1.1.1)
  · exact congrArg ClassRecord.methods (Graph.record_of_not_has hid)

theorem distinctNames_bare : bare.graph.DistinctNames := by
  intro id
  rw [empty_methods_bare]
  exact List.nodup_nil

end State

end ObjectModel
