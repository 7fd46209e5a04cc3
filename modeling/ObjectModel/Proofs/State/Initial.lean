import ObjectModel.Proofs.State.Preservation
import ObjectModel.State.Initial

/-! # The laws hold at the start

The core graph with its names is a sound state, and so is what comes of it by putting in the builtin methods and the
constants for encodings.
-/

namespace ObjectModel

/-- A record has no methods and variables, its constants are core classes, and it is attached to a class,
if to anything. -/
def ClassRecord.isBare (record : ClassRecord) : Bool :=
  record.methods.isEmpty && record.ownVariables.isEmpty &&
    record.constants.entries.all (fun pair => pair.1.index < CoreClass.all.length &&
      CoreClass.all.any fun core => pair.2.value = .cls core.id) &&
    record.owner.all (· = CoreClass.object.id) &&
    record.attached.all fun value => value matches .cls _

theorem isBare_core : ∀ index < Graph.core.size, (Graph.core.record ⟨index⟩).isBare := by
  decide +kernel

namespace State

theorem size_bare : bare.names.size = CoreClass.all.length := by
  decide +kernel

theorem fitsRecord_bare (id : ClassId) : bare.FitsRecord id (Graph.core.record id) := by
  by_cases hid : Graph.core.Has id
  -- all that the core records hold is known from evaluating them
  · have hbare := isBare_core id.index hid
    simp only [ClassRecord.isBare, Bool.and_eq_true] at hbare
    obtain ⟨⟨⟨⟨hmethods, hvariables⟩, hconstants⟩, howner⟩, hattached⟩ := hbare
    refine ⟨?_, ?_, ?_, ?_, ?_⟩
    · intro pair hpair
      rw [List.isEmpty_iff.mp hmethods] at hpair
      simp at hpair
    · intro pair hpair
      have hplain := List.all_eq_true.mp hconstants pair hpair
      simp only [Bool.and_eq_true, decide_eq_true_eq, List.any_eq_true] at hplain
      obtain ⟨hname, core, _, hvalue⟩ := hplain
      refine ⟨Nat.lt_of_lt_of_eq hname size_bare.symm, ?_⟩
      rw [hvalue]
      exact Graph.sound_core.stacked.has_core core
    · intro pair hpair
      rw [List.isEmpty_iff.mp hvariables] at hpair
      simp at hpair
    · intro value hvalue
      rw [show (Graph.core.record ⟨id.index⟩).attached = some value from hvalue] at hattached
      cases value with
      | cls owner =>
          exact Graph.has_of_metaclass (Graph.sound_core.mirrored.metaclass_of_attached hvalue)
      | _ => simp at hattached
    · intro scope hscope
      rw [show (Graph.core.record ⟨id.index⟩).owner = some scope from hscope] at howner
      obtain rfl : scope = CoreClass.object.id := by simpa using howner
      exact Graph.sound_core.stacked.has_core .object
  · rw [Graph.record_of_not_has hid]
    exact FitsRecord.of_isBlank ⟨_, _, _, _, none, rfl⟩ (by simp [Graph.missing, ClassRecord.fresh])

theorem sound_bare : bare.Sound := by
  refine ⟨Graph.sound_core, fitsRecord_bare, ?_, ?_, ?_, by decide, ?_⟩
  · intro id object hobject
    simp [bare, Heap.empty, Heap.get?] at hobject
  · intro id value hvalue
    have hbare := isBare_core id.index (Graph.has_of_attached hvalue)
    simp only [ClassRecord.isBare, Bool.and_eq_true] at hbare
    have hattached := hbare.2
    rw [show (Graph.core.record ⟨id.index⟩).attached = some value from hvalue] at hattached
    cases value with
    | cls owner => exact .inl ⟨owner, rfl⟩
    | _ => simp at hattached
  · intro pair hpair
    simp [bare, Table.empty] at hpair
  · intro id hid
    simp [bare, Encoding.Defaults.standard] at hid

/-! ## Constants for encodings -/

theorem nameEncoding_eq (state : State) (pair : EncodingId × String) :
    state.nameEncoding pair = (Change.intern pair.2).apply state ∨
      state.nameEncoding pair =
        (Change.putConstant CoreClass.encoding.id (state.names.intern pair.2).1
          (.encoding pair.1)).apply ((Change.intern pair.2).apply state) := by
  simp only [nameEncoding]
  split
  · exact .inl rfl
  · exact .inr rfl

theorem Sound.nameEncoding {state : State} (hsound : state.Sound) {pair : EncodingId × String}
    (hpair : pair.1.index < Encoding.catalog.length) :
    (state.nameEncoding pair).Sound ∧ state.Grows (state.nameEncoding pair) := by
  obtain ⟨hnamed, hgrows⟩ := hsound.intern pair.2
  rcases state.nameEncoding_eq pair with heq | heq
  · rw [heq]
    exact ⟨hnamed, hgrows⟩
  · rw [heq]
    have hfits : (Change.putConstant CoreClass.encoding.id (state.names.intern pair.2).1
        (.encoding pair.1)).Fits ((Change.intern pair.2).apply state) :=
      ⟨hnamed.graph.stacked.has_core .encoding, state.names.has_intern pair.2, hpair⟩
    obtain ⟨hput, hlast⟩ := hnamed.apply hfits
    exact ⟨hput, hgrows.trans hlast⟩

theorem lt_of_mem_encodingConstants {pair : EncodingId × String}
    (hpair : pair ∈ encodingConstants) : pair.1.index < Encoding.catalog.length := by
  simp only [encodingConstants, List.mem_flatMap, List.mem_map] at hpair
  obtain ⟨id, hid, _, _, _, _, rfl⟩ := hpair
  obtain ⟨index, hindex, rfl⟩ := List.mem_map.mp hid
  exact List.mem_range.mp hindex

theorem Sound.foldl_nameEncoding {state : State} (hsound : state.Sound)
    {pairs : List (EncodingId × String)}
    (hpairs : ∀ pair ∈ pairs, pair.1.index < Encoding.catalog.length) :
    (pairs.foldl State.nameEncoding state).Sound := by
  induction pairs generalizing state with
  | nil => exact hsound
  | cons pair rest ih =>
      have hfirst := hsound.nameEncoding (hpairs pair List.mem_cons_self)
      exact ih hfirst.1 fun other hother => hpairs other (List.mem_cons_of_mem _ hother)

theorem sound_standard : standard.Sound :=
  sound_bare.installBuiltins.1.foldl_nameEncoding fun _ hpair => lt_of_mem_encodingConstants hpair

/-- What holds of the core classes without methods and is kept by every change that puts in no single method
holds before anything is chosen. -/
theorem standard_induct {motive : State → Prop} (hbare : motive bare)
    (hchange : ∀ {state : State} {change : Change}, state.Sound → change.Fits state →
      (∀ id name body visibility, change ≠ .putMethod id name body visibility) →
        motive state → motive (change.apply state)) : motive standard := by
  suffices hfold : ∀ pairs ⊆ encodingConstants, ∀ state : State, state.Sound → motive state →
      motive (pairs.foldl State.nameEncoding state) by
    have hinstalled : motive bare.installBuiltins :=
      @hchange bare .installBuiltins sound_bare trivial (by simp) hbare
    exact hfold _ (List.Subset.refl _) _ sound_bare.installBuiltins.1 hinstalled
  intro pairs
  induction pairs with
  | nil => exact fun _ _ _ hmotive => hmotive
  | cons pair rest ih =>
      intro hsubset state hsound hmotive
      obtain ⟨hmem, hrest⟩ := List.cons_subset.mp hsubset
      have hpair := lt_of_mem_encodingConstants hmem
      apply ih hrest _ (hsound.nameEncoding hpair).1
      -- the name is interned, and then the constant is put in unless it is there
      have hnamed := (hsound.intern pair.2).1
      have hinterned : motive ((Change.intern pair.2).apply state) :=
        hchange hsound trivial (by simp) hmotive
      rcases state.nameEncoding_eq pair with heq | heq
      · exact heq ▸ hinterned
      · rw [heq]
        exact hchange hnamed
          ⟨hnamed.graph.stacked.has_core .encoding, state.names.has_intern pair.2, hpair⟩ (by simp)
          hinterned

theorem Sound.withChoices {state : State} (hsound : state.Sound) (options : Options)
    {defaults : Encoding.Defaults} (configuration : Config.Settings)
    (hdefaults : (Change.assignDefaults defaults).Fits state) :
    ({ state with options, defaults, configuration } : State).Sound := by
  obtain ⟨hassigned, _⟩ := hsound.assignDefaults hdefaults
  exact (hassigned.withRest (List.prefix_refl _) (Nat.le_refl _) (fun _ hpair => .inl hpair) _
    options configuration).1

/-- A new object model obeys the laws, whatever options and configuration and which encodings of the
catalog are chosen. -/
theorem sound_initial (options : Options) {defaults : Encoding.Defaults}
    (configuration : Config.Settings)
    (hdefaults : (Change.assignDefaults defaults).Fits standard) :
    (initial options defaults configuration).Sound :=
  sound_standard.withChoices options configuration hdefaults

section

variable (options : Options) (defaults : Encoding.Defaults) (configuration : Config.Settings)

/-- What is chosen makes no difference to the classes of a new object model. -/
theorem graph_initial : (initial options defaults configuration).graph = standard.graph := by
  -- said of any state, so that the standard one is not evaluated
  have hsame : ∀ state : State,
      ({ state with options, defaults, configuration } : State).graph = state.graph := fun _ => rfl
  exact hsame standard

/-- What is chosen makes no difference to the names of a new object model. -/
theorem names_initial : (initial options defaults configuration).names = standard.names := by
  have hsame : ∀ state : State,
      ({ state with options, defaults, configuration } : State).names = state.names := fun _ => rfl
  exact hsame standard

end

end State

end ObjectModel
