import ObjectModel.Proofs.Config.Document
import ObjectModel.Proofs.Outcome

/-! # Which sources make a configuration

A text is read line by line, and the pairs are added one by one. Both end well just if each line is passed over or assigns a
text to a key and no key comes twice, and then the configuration holds what the lines assign, in order.
-/

namespace ObjectModel.Config

open Text

/-! ## Lines that assign texts -/

/-- Lines each of which is passed over or assigns a text to a key, and what they assign. -/
inductive Assign : List (List Char) → List (String × String) → Prop
  | nil : Assign [] []
  | skipped {line : List Char} {rest : List (List Char)} {pairs : List (String × String)}
      (hline : isSkipped (trim line)) (hrest : Assign rest pairs) : Assign (line :: rest) pairs
  | assignment {line : List Char} {rest : List (List Char)} {key value : String}
      {pairs : List (String × String)} (hline : ¬ isSkipped (trim line))
      (hread : readAssignment (trim line) = some (.text key, .text value)) (hrest : Assign rest pairs) :
      Assign (line :: rest) ((key, value) :: pairs)

theorem Assign.readLines {lines : List (List Char)} {pairs : List (String × String)}
    (hassign : Assign lines pairs) (number : Nat) :
    readLines number lines = .ok (pairs.map fun pair => (.text pair.1, .text pair.2)) := by
  induction hassign generalizing number with
  | nil => rfl
  | skipped hline _ ih => rw [Config.readLines, if_pos hline, ih]
  | assignment hline hread _ ih =>
      rw [Config.readLines, if_neg hline, hread, ih]
      rfl

theorem assign_of_readLines {lines : List (List Char)} {pairs : List (String × String)} {number : Nat}
    (hread : readLines number lines = .ok (pairs.map fun pair => (.text pair.1, .text pair.2))) :
    Assign lines pairs := by
  induction lines generalizing number pairs with
  | nil =>
      have hnil : pairs.map _ = [] := (Except.ok.inj hread).symm
      obtain rfl := List.map_eq_nil_iff.mp hnil
      exact .nil
  | cons line rest ih =>
      rw [readLines] at hread
      split at hread
      next hline => exact .skipped hline (ih hread)
      next hline =>
        split at hread
        · cases hread
        next raw hraw =>
          obtain ⟨others, hrest, hmade⟩ := bind_eq_ok_iff.mp hread
          have hcons : pairs.map _ = raw :: others := (Except.ok.inj hmade).symm
          obtain ⟨pair, tail, rfl, rfl, rfl⟩ := List.map_eq_cons_iff.mp hcons
          exact .assignment hline hraw (ih hrest)

/-! ## Pairs that are added -/

/-- A pair may be added only if it is one of texts and its key is not taken. -/
theorem text_of_checkPair {table : Table String Entry} {raw : Raw × Raw} {pair : String × String}
    (hchecked : Settings.checkPair table raw = .ok pair) :
    raw = (.text pair.1, .text pair.2) ∧ table.find? pair.1 = none := by
  obtain ⟨key, value⟩ := raw
  cases key with
  | text key =>
      cases value with
      | text value =>
          rw [Settings.checkPair] at hchecked
          dsimp only at hchecked
          split at hchecked
          · cases hchecked
          next hfree =>
            obtain rfl := Except.ok.inj hchecked
            exact ⟨rfl, by simpa [Table.contains] using hfree⟩
      | _ => cases hchecked
  | _ => cases hchecked

/-- Pairs are added to a table only if they are texts under keys that are different and new to it. -/
theorem exists_texts_of_addPairs {frozen : Bool} {table made : Table String Entry}
    {raws : List (Raw × Raw)} (hadded : Settings.addPairs frozen table raws = .ok made) :
    ∃ pairs : List (String × String), raws = pairs.map (fun pair => (.text pair.1, .text pair.2)) ∧
      (pairs.map Prod.fst).Nodup ∧ ∀ key ∈ pairs.map Prod.fst, table.find? key = none := by
  induction raws generalizing table with
  | nil => exact ⟨[], rfl, List.nodup_nil, nofun⟩
  | cons raw rest ih =>
      obtain ⟨pair, hchecked, hrest⟩ := bind_eq_ok_iff.mp hadded
      obtain ⟨hraw, hfree⟩ := text_of_checkPair hchecked
      obtain ⟨pairs, rfl, hkeys, hnew⟩ := ih hrest
      refine ⟨pair :: pairs, ?_, ?_, ?_⟩
      · rw [hraw]
        rfl
      · refine List.nodup_cons.mpr ⟨?_, hkeys⟩
        intro hmem
        have hnone := hnew pair.1 hmem
        rw [Table.find?_insert_self] at hnone
        cases hnone
      · refine List.forall_mem_cons.mpr ⟨hfree, ?_⟩
        intro key hkey
        have hnone := hnew key hkey
        by_cases hsame : key = pair.1
        · rwa [hsame]
        · rwa [Table.find?_insert_of_ne hsame] at hnone

/-- The configuration that holds texts under keys. -/
def Settings.ofTexts (policy : Policy) (installed : Bool) (pairs : List (String × String)) : Settings :=
  { table := ⟨pairs.map (keep (policy = .frozen))⟩, installed }

theorem Settings.entries_ofTexts (policy : Policy) (installed : Bool) (pairs : List (String × String)) :
    (ofTexts policy installed pairs).entries = pairs := by
  rw [entries, ofTexts, List.map_map]
  exact List.map_id pairs

/-- A source makes a configuration just if its pairs are texts under different keys. -/
theorem ofSource_eq_ok_iff {source : Source} {policy : Policy} {settings : Settings} :
    Settings.ofSource source policy = .ok settings ↔
      ∃ pairs : List (String × String),
        source.pairs = .ok (pairs.map fun pair => (.text pair.1, .text pair.2)) ∧
          (pairs.map Prod.fst).Nodup ∧ settings = .ofTexts policy source.installed pairs := by
  have hadded : ∀ pairs : List (String × String), (pairs.map Prod.fst).Nodup →
      Settings.addPairs (policy = .frozen) Table.empty
        (pairs.map fun pair => (.text pair.1, .text pair.2)) =
          .ok ⟨pairs.map (keep (policy = .frozen))⟩ :=
    fun _ hkeys => addPairs_texts _ hkeys fun _ _ => rfl
  constructor
  · intro hmade
    obtain ⟨raws, hpairs, hrest⟩ := bind_eq_ok_iff.mp hmade
    obtain ⟨table, htable, hlast⟩ := bind_eq_ok_iff.mp hrest
    obtain ⟨pairs, rfl, hkeys, -⟩ := exists_texts_of_addPairs htable
    obtain rfl := Except.ok.inj ((hadded pairs hkeys).symm.trans htable)
    exact ⟨pairs, hpairs, hkeys, (Except.ok.inj hlast).symm⟩
  · rintro ⟨pairs, hpairs, hkeys, rfl⟩
    rw [Settings.ofSource, hpairs]
    change (Settings.addPairs (policy = .frozen) Table.empty _ >>= _) = _
    rw [hadded pairs hkeys]
    rfl

/-- A text is a source of texts just if each of its lines is passed over or assigns a text. -/
theorem pairs_text_eq_ok_iff {content : String} {installed : Bool} {pairs : List (String × String)} :
    Source.pairs { origin := .text content, installed } =
        .ok (pairs.map fun pair => (.text pair.1, .text pair.2)) ↔
      Assign (lines content.toList) pairs :=
  ⟨assign_of_readLines, fun hassign => hassign.readLines 1⟩

end ObjectModel.Config
