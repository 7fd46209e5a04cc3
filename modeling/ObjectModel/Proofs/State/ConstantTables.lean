import ObjectModel.Proofs.Reachable
import ObjectModel.Proofs.Sparing.Rules

/-! # How constant tables change

Only three changes write to constant tables: a constant is put in, its flags are set, or it is taken out. All other changes
leave the tables as they are and give new classes empty ones. So no table ever has two entries for one name; and since no
text is interned twice, a name that stands in a table is found again under its text.
-/

namespace ObjectModel

/-! ## Names -/

namespace Interner

variable {interner : Interner}

/-- No text has two symbols. -/
def Distinct (interner : Interner) : Prop := interner.names.Nodup

theorem Distinct.intern (hdistinct : interner.Distinct) (text : String) :
    (interner.intern text).2.Distinct := by
  rw [Interner.intern]
  cases hfind : interner.find? text with
  | some symbol => exact hdistinct
  | none =>
      have hnew : text ∉ interner.names := find?_eq_none_iff.mp hfind
      exact List.nodup_append.mpr ⟨hdistinct, List.nodup_singleton text, by
        rintro other hother _ hsame rfl
        exact hnew (List.mem_singleton.mp hsame ▸ hother)⟩

/-- The text of a symbol leads back to the symbol. -/
theorem Distinct.find_of_text (hdistinct : interner.Distinct) {symbol : Symbol} {text : String}
    (htext : interner.text? symbol = some text) : interner.find? text = some symbol := by
  obtain ⟨hlt, hthere⟩ := List.getElem?_eq_some_iff.mp htext
  cases hfind : interner.find? text with
  | none => exact absurd (hthere ▸ List.getElem_mem hlt) (find?_eq_none_iff.mp hfind)
  | some found =>
      obtain ⟨hfound, hother⟩ := List.getElem?_eq_some_iff.mp (text_of_find hfind)
      have hsame := hdistinct.getElem_inj_iff.mp (hother.trans hthere.symm)
      cases found
      cases symbol
      simpa using hsame

end Interner

/-! ## Tables -/

/-- The change writes to constant tables. -/
def Change.WritesConstants : Change → Prop
  | putConstant .. | flagConstant .. | eraseConstant .. => True
  | _ => False

namespace Graph

/-- The constant tables have an entry for each name at most once. -/
def DistinctConstants (graph : Graph) : Prop := ∀ id, (graph.record id).constants.keys.Nodup

/-- The constant tables are as they were. -/
def SameConstants (first second : Graph) : Prop :=
  ∀ id, (second.record id).constants = (first.record id).constants

variable {graph first second third : Graph}

theorem SameContent.sameConstants (hsame : first.SameContent second) : first.SameConstants second :=
  fun id => (hsame id).constants

theorem SameConstants.refl (graph : Graph) : graph.SameConstants graph := fun _ => rfl

theorem SameConstants.trans (hfirst : first.SameConstants second) (hsecond : second.SameConstants third) :
    first.SameConstants third :=
  fun id => (hsecond id).trans (hfirst id)

theorem SameConstants.distinctConstants (hsame : first.SameConstants second)
    (hdistinct : first.DistinctConstants) : second.DistinctConstants :=
  fun id => hsame id ▸ hdistinct id

theorem sameConstants_update (graph : Graph) (id : ClassId) {change : ClassRecord → ClassRecord}
    (hchange : ∀ record : ClassRecord, (change record).constants = record.constants) :
    graph.SameConstants (graph.update id change) :=
  @forall_record_update (fun before after => after.constants = before.constants) graph id change
    (fun _ => rfl) hchange

theorem DistinctConstants.update (hdistinct : graph.DistinctConstants) (id : ClassId)
    {change : ClassRecord → ClassRecord}
    (hchange : ∀ record : ClassRecord, record.constants.keys.Nodup →
      (change record).constants.keys.Nodup) : (graph.update id change).DistinctConstants := by
  intro other
  rcases graph.record_update id other change with hsame | ⟨_, _, hchanged⟩
  · exact hsame ▸ hdistinct other
  · rw [hchanged]
    exact hchange _ (hdistinct id)

end Graph

namespace State

variable {state : State}

theorem sameConstants_orSame {α : Type} {result : Except Fault (α × Graph)}
    (hresult : ∀ made graph, result = .ok (made, graph) → state.graph.SameContent graph) :
    state.graph.SameConstants (state.orSame result).graph := by
  cases hcase : result with
  | error fault => exact .refl _
  | ok pair => exact (hresult pair.1 pair.2 hcase).sameConstants

theorem sameConstants_installOne (state : State) (installation : Nat) (registration : Registration) :
    state.graph.SameConstants (state.installOne installation registration).graph := by
  have hready : state.graph.SameConstants (state.builtinOwner registration.builtin).2.graph := by
    rw [builtinOwner]
    split
    · exact (state.graph.sameContent_metaclassOf _).sameConstants
    · exact .refl _
  rw [installOne_eq]
  exact hready.trans (Graph.sameConstants_update _ _ fun _ => rfl)

/-- What putting one builtin method in keeps is kept by the whole installation, if it does not depend on the count. -/
theorem installBuiltins_induct {motive : State → Prop} (hstart : motive state)
    (hone : ∀ reached registration, motive reached →
      motive (reached.installOne state.installations registration))
    (hcount : ∀ {reached : State} installations, motive reached → motive { reached with installations }) :
    motive state.installBuiltins := by
  suffices hfold : ∀ (registrations : List Registration) (reached : State), motive reached →
      motive (registrations.foldl (State.installOne state.installations) reached) by
    have hall := hfold Builtin.registrations state hstart
    rw [installBuiltins]
    generalize Builtin.registrations.foldl (State.installOne state.installations) state = installed
      at hall ⊢
    exact hcount _ hall
  intro registrations
  induction registrations with
  | nil => exact fun _ hreached => hreached
  | cons registration rest ih => exact fun reached hreached => ih _ (hone reached registration hreached)

/-- All changes but the three leave the constant tables as they are. -/
theorem sameConstants_apply (state : State) {change : Change} (hwrites : ¬ change.WritesConstants) :
    state.graph.SameConstants (change.apply state).graph := by
  cases change with
  | putConstant => exact absurd trivial hwrites
  | flagConstant => exact absurd trivial hwrites
  | eraseConstant => exact absurd trivial hwrites
  | newClass superclass => exact sameConstants_orSame fun _ _ hresult => Graph.sameContent_newClass hresult
  | newModule => exact (Graph.sameContent_newModule _).sameConstants
  | metaclassOf id => exact (Graph.sameContent_metaclassOf _ _).sameConstants
  | newSingleton value id => exact (Graph.sameContent_add _ _ _ _ _).sameConstants
  | includeModule id mixin =>
      exact sameConstants_orSame fun _ _ hresult =>
        Graph.sameContent_mix (.inl rfl) (Graph.includeModule_cases hresult)
  | prependModule id mixin =>
      exact sameConstants_orSame fun _ _ hresult =>
        Graph.sameContent_mix (.inr rfl) (Graph.prependModule_cases hresult)
  | putMethod | eraseMethod | nameClass => exact Graph.sameConstants_update _ _ fun _ => rfl
  | putVariable value name content =>
      cases value with
      | cls id => exact Graph.sameConstants_update _ _ fun _ => rfl
      | _ => exact .refl _
  | freeze value =>
      cases value with
      | cls id => exact Graph.sameConstants_update _ _ fun _ => rfl
      | _ => exact .refl _
  | installBuiltins =>
      exact installBuiltins_induct (motive := fun reached => state.graph.SameConstants reached.graph) (.refl _)
        (fun reached registration hsame => hsame.trans (reached.sameConstants_installOne _ registration))
        fun _ hsame => hsame
  | _ => exact .refl _

theorem distinctConstants_apply (hdistinct : state.graph.DistinctConstants) (change : Change) :
    (change.apply state).graph.DistinctConstants := by
  by_cases hwrites : change.WritesConstants
  · cases change with
    | putConstant scope name value =>
        exact hdistinct.update scope fun _ hkeys => Table.nodup_keys_insert hkeys name _
    | flagConstant scope name change =>
        exact hdistinct.update scope fun _ hkeys => Table.nodup_keys_adjust hkeys name change
    | eraseConstant scope name =>
        exact hdistinct.update scope fun _ hkeys => Table.nodup_keys_erase hkeys name
    | _ => exact hwrites.elim
  · exact (state.sameConstants_apply hwrites).distinctConstants hdistinct

theorem names_orSame {α : Type} (state : State) (result : Except Fault (α × Graph)) :
    (state.orSame result).names = state.names := by
  cases result <;> rfl

theorem names_installOne (state : State) (installation : Nat) (registration : Registration) :
    (state.installOne installation registration).names =
      (state.names.intern registration.name).2 := rfl

/-- No change interns a text twice. -/
theorem distinct_names_apply (hdistinct : state.names.Distinct) (change : Change) :
    (change.apply state).names.Distinct := by
  cases change with
  | intern name => exact hdistinct.intern name
  | installBuiltins =>
      exact installBuiltins_induct (motive := fun reached => reached.names.Distinct) hdistinct
        (fun reached registration hnames => reached.names_installOne _ registration ▸ hnames.intern _)
        fun _ hnames => hnames
  | newClass | includeModule | prependModule =>
      rw [Change.apply, names_orSame]
      exact hdistinct
  | putVariable value name content => cases value <;> exact hdistinct
  | freeze value => cases value <;> exact hdistinct
  | _ => exact hdistinct

/-! ## Texts of symbols -/

theorem symbolText_of_find {name : String} {symbol : Symbol} (hname : state.names.find? name = some symbol) :
    state.symbolText symbol = name := by
  rw [symbolText, Interner.text_of_find hname, Option.getD_some]

/-- The text of a symbol that was handed out leads back to it. -/
theorem find_symbolText (hdistinct : state.names.Distinct) {symbol : Symbol}
    (hsymbol : state.names.Has symbol) : state.names.find? (state.symbolText symbol) = some symbol := by
  have htext : state.names.text? symbol = some state.names.names[symbol.index] :=
    List.getElem?_eq_getElem hsymbol
  rw [symbolText, htext]
  exact hdistinct.find_of_text htext

/-! ## Reachable states -/

/-- Each text has one symbol and each symbol one entry in a constant table. -/
structure Unambiguous (state : State) : Prop where
  names : state.names.Distinct
  constants : state.graph.DistinctConstants

theorem distinct_keys_core : ∀ index < Graph.core.size, (Graph.core.record ⟨index⟩).constants.keys.Nodup := by
  decide +kernel

theorem nodup_names_bare : bare.names.names.Nodup := by
  decide +kernel

theorem unambiguous_bare : bare.Unambiguous where
  names := nodup_names_bare
  constants id := by
    by_cases hid : Graph.core.Has id
    · exact distinct_keys_core id.index hid
    · change (Graph.core.record id).constants.keys.Nodup
      rw [Graph.record_of_not_has hid]
      exact List.nodup_nil

/-- In every state that can be reached names and entries are told apart. -/
theorem Reachable.unambiguous (hreachable : state.Reachable) : state.Unambiguous :=
  hreachable.induct unambiguous_bare
    (fun _ _ hbefore => ⟨distinct_names_apply hbefore.names _, distinctConstants_apply hbefore.constants _⟩)
    fun _ _ _ _ hbefore => ⟨hbefore.names, hbefore.constants⟩

end State

end ObjectModel
