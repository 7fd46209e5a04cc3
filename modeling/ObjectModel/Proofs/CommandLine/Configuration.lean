import ObjectModel.CommandLine.Answer
import ObjectModel.Proofs.Config.Listing

/-! # Configurations on the command line

What a configuration at a path holds and what is selected of it, said by rules. A configuration is loaded just if
the whole source follows its rule, and values are selected just if all requested keys are there.
-/

namespace ObjectModel.CommandLine

/-- The keys and values of the configuration at a path, or of the standard build. -/
inductive Holds (read : Reader) : Option String → List (String × String) → Prop
  | standard : Holds read none Config.Build.standard.parameters
  /-- Every line of the file is passed over or assigns a text, each under a key of its own. -/
  | file {path content : String} {pairs : List (String × String)} (hread : read path = .ok content)
      (hlines : Config.Assign (Config.lines content.toList) pairs) (hkeys : (pairs.map Prod.fst).Nodup) :
      Holds read (some path) pairs

theorem nodup_standard : (Config.Build.standard.parameters.map Prod.fst).Nodup := by decide +kernel

theorem Holds.nodup {read : Reader} {path : Option String} {pairs : List (String × String)}
    (hholds : Holds read path pairs) : (pairs.map Prod.fst).Nodup := by
  cases hholds with
  | standard => exact nodup_standard
  | file _ _ hkeys => exact hkeys

/-- The configuration that holds what was read. -/
def settingsOf (pairs : List (String × String)) : Config.Settings :=
  .ofTexts Options.standard.policy false pairs

theorem ofSource_standard :
    Config.Settings.ofSource standardSource Options.standard.policy =
      .ok (settingsOf Config.Build.standard.parameters) :=
  Config.ofSource_eq_ok_iff.mpr ⟨_, rfl, nodup_standard, rfl⟩

theorem loadConfiguration_eq_ok_iff {read : Reader} {path : Option String}
    {settings : Config.Settings} :
    loadConfiguration read path = .ok settings ↔
      ∃ pairs, Holds read path pairs ∧ settings = settingsOf pairs := by
  rw [loadConfiguration]
  cases path with
  | none =>
      change Config.Settings.ofSource standardSource Options.standard.policy = _ ↔ _
      rw [ofSource_standard]
      constructor
      · intro hmade
        exact ⟨_, .standard, (Except.ok.inj hmade).symm⟩
      · rintro ⟨pairs, ⟨⟩, rfl⟩
        rfl
  | some path =>
      rw [openSource]
      cases hread : read path with
      | error failure =>
          refine iff_of_false nofun ?_
          rintro ⟨pairs, hholds, -⟩
          cases hholds with
          | file hother => cases hread.symm.trans hother
      | ok content =>
          change Config.Settings.ofSource { origin := .text content, installed := false } _ = _ ↔ _
          rw [Config.ofSource_eq_ok_iff]
          constructor
          · rintro ⟨pairs, hpairs, hkeys, rfl⟩
            exact ⟨pairs, .file hread (Config.pairs_text_eq_ok_iff.mp hpairs) hkeys, rfl⟩
          · rintro ⟨pairs, hholds, rfl⟩
            cases hholds with
            | file hother hlines hkeys =>
                obtain rfl := Except.ok.inj (hread.symm.trans hother)
                exact ⟨pairs, Config.pairs_text_eq_ok_iff.mpr hlines, hkeys, rfl⟩

theorem Holds.unique {read : Reader} {path : Option String} {first second : List (String × String)}
    (hfirst : Holds read path first) (hsecond : Holds read path second) : first = second := by
  have hsame : settingsOf first = settingsOf second :=
    Except.ok.inj ((loadConfiguration_eq_ok_iff.mpr ⟨first, hfirst, rfl⟩).symm.trans
      (loadConfiguration_eq_ok_iff.mpr ⟨second, hsecond, rfl⟩))
  have hentries := congrArg Config.Settings.entries hsame
  rwa [settingsOf, settingsOf, Config.Settings.entries_ofTexts, Config.Settings.entries_ofTexts] at hentries

/-- The values of the requested keys in their order, each of which has to be there, or all values. -/
inductive Selects (pairs : List (String × String)) : List String → List (String × String) → Prop
  | all : Selects pairs [] pairs
  | requested {keys : List String} {selected : List (String × String)} (hkeys : keys ≠ [])
      (hselected : List.Forall₂ (fun key pair => pair.1 = key ∧ pair ∈ pairs) keys selected) :
      Selects pairs keys selected

theorem find_settingsOf {pairs : List (String × String)} (hkeys : (pairs.map Prod.fst).Nodup)
    {key value : String} : (settingsOf pairs).get? key = some value ↔ (key, value) ∈ pairs := by
  have hdifferent := hkeys
  rw [← Config.keys_keep (Options.standard.policy = .frozen)] at hdifferent
  rw [Config.Settings.get?, Option.map_eq_some_iff]
  constructor
  · rintro ⟨entry, hentry, rfl⟩
    obtain ⟨pair, hpair, heq⟩ := List.mem_map.mp (Table.mem_of_find hentry)
    obtain ⟨rfl, rfl⟩ := Prod.mk.inj heq
    exact hpair
  · intro hpair
    exact ⟨_, Table.look_of_mem hdifferent (List.mem_map_of_mem hpair), rfl⟩

theorem fetch_settingsOf {pairs : List (String × String)} (hkeys : (pairs.map Prod.fst).Nodup)
    {key value : String} : (settingsOf pairs).fetch key = .ok value ↔ (key, value) ∈ pairs := by
  rw [← find_settingsOf hkeys, Config.Settings.fetch]
  cases (settingsOf pairs).get? key with
  | none => exact iff_of_false nofun nofun
  | some found => exact ⟨fun heq => congrArg _ (Except.ok.inj heq), fun heq => congrArg _ (Option.some.inj heq)⟩

theorem selectValues_eq_ok_iff {pairs : List (String × String)} (hkeys : (pairs.map Prod.fst).Nodup)
    {keys : List String} {selected : List (String × String)} :
    selectValues (settingsOf pairs) keys = .ok selected ↔ Selects pairs keys selected := by
  cases keys with
  | nil =>
      have hall : selectValues (settingsOf pairs) [] = .ok pairs :=
        congrArg _ (Config.Settings.entries_ofTexts _ _ pairs)
      rw [hall]
      constructor
      · intro heq
        exact Except.ok.inj heq ▸ .all
      · intro hselects
        cases hselects with
        | all => rfl
        | requested hnone _ => exact absurd rfl hnone
  | cons key rest =>
      have hfetch : ∀ key pair, (do return (key, ← (settingsOf pairs).fetch key)) = Except.ok pair ↔
          pair.1 = key ∧ pair ∈ pairs := by
        intro key pair
        rw [bind_eq_ok_iff]
        constructor
        · rintro ⟨value, hvalue, heq⟩
          obtain rfl := Except.ok.inj heq
          exact ⟨rfl, (fetch_settingsOf hkeys).mp hvalue⟩
        · rintro ⟨rfl, hpair⟩
          exact ⟨pair.2, (fetch_settingsOf hkeys).mpr hpair, rfl⟩
      rw [selectValues, if_neg (by simp), mapM_eq_ok_iff]
      simp only [hfetch]
      constructor
      · exact .requested (by simp)
      · intro hselects
        cases hselects with
        | requested _ hselected => exact hselected

theorem Selects.unique {read : Reader} {path : Option String} {pairs : List (String × String)}
    (hholds : Holds read path pairs) {keys : List String} {first second : List (String × String)}
    (hfirst : Selects pairs keys first) (hsecond : Selects pairs keys second) : first = second :=
  Except.ok.inj (((selectValues_eq_ok_iff hholds.nodup).mpr hfirst).symm.trans
    ((selectValues_eq_ok_iff hholds.nodup).mpr hsecond))

end ObjectModel.CommandLine
