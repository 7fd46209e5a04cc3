import ObjectModel.Proofs.Choice
import ObjectModel.Proofs.Later

/-! # Sealed core classes

When the core classes are sealed, nothing that goes through the guards changes what they give to their instances, and
the core stays enclosed. So the ancestors of core classes and the methods found along them are always the same, also
for the metaclasses of core classes that are made on the way, and with them the methods of all values that are no
handles.
-/

namespace ObjectModel

/-- A text that gets a symbol later than others gets one that was not handed out before. -/
theorem Interner.Grows.not_has_of_find {first second : Interner} (hgrows : first.Grows second)
    {text : String} (hfirst : first.find? text = none) {symbol : Symbol}
    (hsecond : second.find? text = some symbol) : ¬ first.Has symbol := by
  obtain ⟨rest, hrest⟩ := hgrows
  have hnone : first.names.findIdx? (· = text) = none := Option.map_eq_none_iff.mp hfirst
  rw [find?, ← hrest, List.findIdx?_append, hnone, Option.none_or, Option.map_map] at hsecond
  obtain ⟨index, _, rfl⟩ := Option.map_eq_some_iff.mp hsecond
  exact Nat.not_lt.mpr (Nat.le_add_left _ _)

namespace State

variable {first state later : State}

/-! ## The core is enclosed at the start -/

theorem Sound.enclosed_installOne (hsound : state.Sound) (henclosed : state.graph.Enclosed)
    (installation : Nat) (registration : Registration) :
    (state.installOne installation registration).graph.Enclosed := by
  have hstacked := hsound.graph.stacked
  have hready : (state.builtinOwner registration.builtin).2.graph.Enclosed := by
    rw [State.builtinOwner]
    split
    · exact henclosed.synthesis hstacked (hstacked.synthesizes (hstacked.has_core _)).path
    · exact henclosed
  have hthere := (hsound.builtinOwner registration.builtin).1.graph.stacked
  rw [installOne_eq]
  exact hready.of_sameFrame hthere (Graph.sameFrame_putMethod _ _ _ _)

theorem Sound.enclosed_nameEncoding (hsound : state.Sound) (henclosed : state.graph.Enclosed)
    (pair : EncodingId × String) : (state.nameEncoding pair).graph.Enclosed := by
  rcases state.nameEncoding_eq pair with heq | heq
  · rw [heq]
    exact henclosed
  · rw [heq]
    exact henclosed.of_sameFrame hsound.graph.stacked
      (state.graph.sameFrame_update _ fun record => record.sameFrame_with _ _ _ _ _ _)

theorem enclosed_standard : standard.graph.Enclosed := by
  have hinstalled : bare.installBuiltins.graph.Enclosed :=
    sound_bare.graph_installBuiltins Graph.enclosed_core
      fun hstill _ henclosed => hstill.enclosed_installOne henclosed _ _
  suffices hfold : ∀ pairs ⊆ encodingConstants, ∀ state : State, state.Sound →
      state.graph.Enclosed → (pairs.foldl nameEncoding state).graph.Enclosed from
    hfold _ (List.Subset.refl _) _ sound_bare.installBuiltins.1 hinstalled
  intro pairs
  induction pairs with
  | nil => exact fun _ _ _ henclosed => henclosed
  | cons pair rest ih =>
      intro hsubset state hsound henclosed
      obtain ⟨hmem, hrest⟩ := List.cons_subset.mp hsubset
      exact ih hrest _ (hsound.nameEncoding (lt_of_mem_encodingConstants hmem)).1
        (hsound.enclosed_nameEncoding henclosed pair)

/-- A new object model has the options with which it was set up. -/
theorem options_initial (options : Options) (defaults : Encoding.Defaults)
    (configuration : Config.Settings) : (initial options defaults configuration).options = options := by
  -- said of any state, so that the standard one is not evaluated
  have hsame : ∀ state : State,
      ({ state with options, defaults, configuration } : State).options = options := fun _ => rfl
  exact hsame standard

/-! ## The core stays enclosed -/

theorem enclosed_orSame (hsound : state.Sound) (henclosed : state.graph.Enclosed) {id mixin : ClassId}
    {change : ClassRecord → ClassRecord} (hchange : Graph.MixesIn mixin change)
    (houter : ¬ state.graph.isCore id) {result : Except Fault (Bool × Graph)}
    (hresult : ∀ added graph, result = .ok (added, graph) →
      graph = state.graph ∨ graph = state.graph.update id change ∧ state.graph.Mixable id mixin) :
    (state.orSame result).graph.Enclosed := by
  cases hcase : result with
  | error fault => exact henclosed
  | ok pair =>
      obtain ⟨added, graph⟩ := pair
      rcases hresult added graph hcase with rfl | ⟨rfl, _⟩
      · exact henclosed
      · exact henclosed.mix hsound.graph.stacked hchange houter

/-- A sealed class is not open. -/
theorem not_isMutable_of_isCore (hsealed : state.options.sealCore) {id : ClassId}
    (hcore : state.graph.isCore id) : ¬ state.IsMutable id :=
  fun hmutable => hmutable.2.1 ⟨hsealed, hcore⟩

/-- With sealed core classes, an allowed change mixes nothing into them. -/
theorem Sound.enclosed_apply (hsound : state.Sound) (henclosed : state.graph.Enclosed)
    (hsealed : state.options.sealCore) {change : Change} (hfits : change.Fits state)
    (hguarded : change.Guarded state) (hinstall : change ≠ .installBuiltins) :
    (change.apply state).graph.Enclosed := by
  have hstacked := hsound.graph.stacked
  have houter {id : ClassId} (hmutable : state.IsMutable id) : ¬ state.graph.isCore id :=
    fun hcore => not_isMutable_of_isCore hsealed hcore hmutable
  have hrewrite {id : ClassId} {change : ClassRecord → ClassRecord}
      (hframe : ∀ record : ClassRecord, record.SameFrame (change record)) :
      (state.changeClass id change).graph.Enclosed :=
    henclosed.of_sameFrame hstacked (state.graph.sameFrame_update id hframe)
  cases change with
  | newClass superclass =>
      rw [Change.apply]
      cases hresult : state.graph.newClass superclass with
      | error fault => exact henclosed
      | ok pair => exact henclosed.newClass hstacked hfits hresult
  | newModule => exact henclosed.newModule hstacked
  | metaclassOf id => exact henclosed.synthesis hstacked (hstacked.synthesizes hfits).path
  | newSingleton value id => exact henclosed.add_fresh hstacked _ _ _
  | includeModule id mixin =>
      exact enclosed_orSame hsound henclosed (.inl rfl) (houter hguarded)
        fun _ _ hresult => Graph.includeModule_cases hresult
  | prependModule id mixin =>
      exact enclosed_orSame hsound henclosed (.inr rfl) (houter hguarded)
        fun _ _ hresult => Graph.prependModule_cases hresult
  | putMethod | eraseMethod | putConstant | flagConstant | eraseConstant | nameClass =>
      exact hrewrite fun record => record.sameFrame_with _ _ _ _ _ _
  | putVariable value name content =>
      cases value with
      | cls id => exact hrewrite fun record => record.sameFrame_with _ _ _ _ _ _
      | _ => exact henclosed
  | freeze value =>
      cases value with
      | cls id => exact hrewrite fun record => record.sameFrame_with _ _ _ _ _ _
      | _ => exact henclosed
  | installBuiltins => exact absurd rfl hinstall
  | _ => exact henclosed

theorem Sound.enclosed_of_continues (hsound : first.Sound) (henclosed : first.graph.Enclosed)
    (hsealed : first.options.sealCore) (hcontinues : first.Continues later)
    (hinstalled : later.installations = first.installations) : later.graph.Enclosed := by
  refine hsound.continues_induct (motive := fun state => state.graph.Enclosed) ?_
    (fun _ hstill => hstill) hcontinues hinstalled henclosed
  intro state change hbefore hcount _ hstate hfits hguarded hinstall hstill
  rw [← hsound.options_of_continues hbefore hcount] at hsealed
  exact hstate.enclosed_apply hstill hsealed hfits hguarded hinstall

/-- A sealed core class behaves as it did, and one that is made on the way as one without methods. -/
theorem Sound.sameBehavior_of_isCore (hsound : first.Sound) (hsealed : first.options.sealCore)
    (hcontinues : first.Continues later) (hinstalled : later.installations = first.installations)
    {id : ClassId} (hcore : later.graph.isCore id) :
    (first.graph.record id).SameBehavior (later.graph.record id) := by
  apply hsound.sameBehavior_of_continues _ hcontinues hinstalled
  rintro state hbefore hcount hrest ⟨hid, hmutable⟩
  rw [hrest.graph.isCore hid] at hcore
  rw [← hsound.options_of_continues hbefore hcount] at hsealed
  exact not_isMutable_of_isCore hsealed hcore hmutable

/-! ## Methods of values that are no handles -/

/-- Looking a method up for a value of a core class is looking it up in that class. -/
theorem result_findMethod_core {value : Value} {core : CoreClass} (hcore : value.coreClass? = some core)
    (name : String) : state.result (findMethod value name) =
      .ok ((state.names.find? name).bind (state.graph.findMethod? core.id)) := by
  rw [result]
  cases hname : state.names.find? name with
  | none =>
      rw [run_findMethod_of_none hname]
      rfl
  | some symbol =>
      rw [findMethod, run_ask_bind, hname]
      dsimp only
      rw [run_dispatchClass_bind, start_of_coreClass hcore]
      rfl

/-- No method of a class stands under a symbol that was not handed out. -/
theorem Sound.findMethod_of_fresh (hsound : state.Sound) {name : Symbol}
    (hname : ¬ state.names.Has name) (id : ClassId) : state.graph.findMethod? id name = none := by
  rw [Graph.findMethod?, Option.filter_eq_none_iff]
  intro entry hentry
  obtain ⟨ancestor, _, hfind⟩ := List.exists_of_findSome?_eq_some hentry
  exact absurd ((hsound.record ancestor).methods _ (Table.mem_of_find hfind)).1 hname

/-- With sealed core classes, and with the builtin methods installed just once, every class of the core keeps the methods
and modules that it was given when it was set up, which for a metaclass that is made on the way are none. So between any
two states its ancestors stay the same, and so does the method that it has under a symbol; and looking a method up finds
the same entry for a number, a symbol, an encoding, nil or a truth value. -/
theorem sealed_core_stays {options : Options} {defaults : Encoding.Defaults}
    {configuration : Config.Settings} (hsealed : options.sealCore) (hdefaults : defaults.InCatalog)
    (hfirst : (initial options defaults configuration).Continues first)
    (hlater : first.Continues later)
    (hinstalled : later.installations = (initial options defaults configuration).installations) :
    (∀ id, (later.graph.record id).isCore →
      ((initial options defaults configuration).graph.record id).SameBehavior
        (later.graph.record id)) ∧
    (∀ id, (first.graph.record id).isCore →
      later.graph.ancestors id = first.graph.ancestors id ∧
        ∀ name, later.graph.findMethod? id name = first.graph.findMethod? id name) ∧
    ∀ value core, value.coreClass? = some core →
      later.classOf value = core.id ∧ first.classOf value = core.id ∧
        (first.graph.record core.id).isCore ∧
          ∀ name, later.result (findMethod value name) = first.result (findMethod value name) := by
  have hstart := sound_initial options configuration hdefaults
  have hsound := hstart.continues hfirst
  have hlast := hsound.1.continues hlater
  -- the count of installations is the same all the way
  have hmiddle : first.installations = (initial options defaults configuration).installations :=
    Nat.le_antisymm (Nat.le_trans hlast.2.installations (Nat.le_of_eq hinstalled))
      hsound.2.installations
  rw [← options_initial options defaults configuration] at hsealed
  have hstill : first.options.sealCore := by
    rwa [hstart.options_of_continues hfirst hmiddle]
  have henclosed : first.graph.Enclosed := by
    apply hstart.enclosed_of_continues _ hsealed hfirst hmiddle
    rw [graph_initial]
    exact enclosed_standard
  have hsame : ∀ id, first.graph.isCore id →
      (first.graph.record id).SameBehavior (later.graph.record id) := by
    intro id hcore
    apply hsound.1.sameBehavior_of_isCore hstill hlater (hinstalled.trans hmiddle.symm)
    rwa [hlast.2.graph.isCore (Graph.has_of_isCore hcore)]
  have hfound {id : ClassId} (hcore : first.graph.isCore id) (name : Symbol) :
      later.graph.findMethod? id name = first.graph.findMethod? id name :=
    Graph.findMethod_of_isCore henclosed hsound.1.graph.stacked hlast.1.graph.stacked hlast.2.graph
      hsame hcore name
  refine ⟨?_, ?_, ?_⟩
  · intro id hcore
    exact hstart.sameBehavior_of_isCore hsealed (hfirst.trans hlater) hinstalled hcore
  · intro id hcore
    exact ⟨Graph.ancestors_of_isCore henclosed hsound.1.graph.stacked hlast.1.graph.stacked
      hlast.2.graph hsame hcore, hfound hcore⟩
  · intro value core hvalue
    refine ⟨classOf_coreClass hvalue, classOf_coreClass hvalue, henclosed.core core, ?_⟩
    intro name
    rw [result_findMethod_core hvalue, result_findMethod_core hvalue]
    congr 1
    cases hname : first.names.find? name with
    | some symbol =>
        rw [hlast.2.names.find hname]
        exact hfound (henclosed.core core) symbol
    | none =>
        -- a name that is interned on the way is the name of no method of the core
        cases hnew : later.names.find? name with
        | none => rfl
        | some symbol =>
            have hfresh := hlast.2.names.not_has_of_find hname hnew
            exact (hfound (henclosed.core core) symbol).trans
              (hsound.1.findMethod_of_fresh hfresh core.id)

/-- With sealed core classes, a method of integers is not redefined, although a metaclass was made before that. -/
theorem sealed_integer_stays :
    let fresh := initial { Options.standard with sealCore := true } Encoding.Defaults.standard
      Config.Settings.empty
    let redefinition := (Expr.sequence [.metaclass (.metaclass (.metaclass (.classAt ["Integer"]))),
      .perform (.defineMethod "to_s" .receiver) [.classAt ["Integer"]] none]).evaluate (runBody 1)
        .nil []
    fresh.result redefinition = .error (.fault (.frozen "Integer")) ∧
      fresh.graph.size < (fresh.after redefinition).graph.size ∧
      (fresh.after redefinition).result (findMethod (.int 7) "to_s") =
        fresh.result (findMethod (.int 7) "to_s") := by
  intro fresh redefinition
  have hdefaults : Encoding.Defaults.standard.InCatalog := ⟨by decide, by decide⟩
  obtain ⟨hrefused, hlarger, hinstalled⟩ :
      fresh.result redefinition = .error (.fault (.frozen "Integer")) ∧
        fresh.graph.size < (fresh.after redefinition).graph.size ∧
        (fresh.after redefinition).installations = fresh.installations := by
    decide +kernel
  have hmetaclass : (Expr.metaclass (.metaclass (.metaclass (.classAt ["Integer"])))).Uses fresh.Has :=
    .metaclass (.metaclass (.metaclass (.classAt ["Integer"])))
  have hmethod : (Expr.perform (.defineMethod "to_s" .receiver) [.classAt ["Integer"]] none).Uses
      fresh.Has :=
    .perform none (List.forall_mem_singleton.mpr .receiver)
      (List.forall_mem_singleton.mpr (.classAt ["Integer"]))
  have hlater : fresh.Continues (fresh.after redefinition) :=
    .single (.evaluate 1 (.sequence (by simp [hmetaclass, hmethod])))
  have hstays := sealed_core_stays rfl hdefaults .refl hlater hinstalled
  exact ⟨hrefused, hlarger, (hstays.2.2 (.int 7) .integer rfl).2.2.2 "to_s"⟩

end State

end ObjectModel
