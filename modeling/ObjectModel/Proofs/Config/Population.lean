import Mathlib.Data.List.Induction
import Mathlib.Data.List.Nodup
import ObjectModel.Proofs.Config.Listing

/-! # Populating a configuration

The pairs of a source go into a configuration one by one, each of them after a look at the pairs before it. So either all
of them are texts under different keys, and then the configuration shows just these and in their order, or the source is
refused because of the first pair that offends.
-/

namespace ObjectModel.Config

/-! ## Pairs that offend -/

/-- A literal is a text. -/
def Raw.IsText : Raw → Prop
  | .text _ => True
  | _ => False

theorem Raw.isText_iff {raw : Raw} : raw.IsText ↔ ∃ content, raw = .text content := by
  cases raw with
  | text content => exact iff_of_true trivial ⟨content, rfl⟩
  | _ => exact iff_of_false id nofun

/-- All pairs are texts, and no key comes twice. -/
structure Acceptable (pairs : List (Raw × Raw)) : Prop where
  texts : ∀ pair ∈ pairs, pair.1.IsText ∧ pair.2.IsText
  keys : (pairs.map Prod.fst).Nodup

/-- What is wrong with a pair after other pairs. A key that is no text counts before a value that is none, and only a pair
of texts can repeat a key. -/
inductive Offends (earlier : List (Raw × Raw)) : Raw × Raw → Failure → Prop
  | key {key value : Raw} (hkey : ¬ key.IsText) :
      Offends earlier (key, value) (.keyNotText key.className)
  | value {key : String} {value : Raw} (hvalue : ¬ value.IsText) :
      Offends earlier (.text key, value) (.valueNotText key value.className)
  | duplicate {key value : String} (htaken : .text key ∈ earlier.map Prod.fst) :
      Offends earlier (.text key, .text value) (.duplicateKey key)

/-- What is wrong with the first pair of a list that offends after the pairs before it. -/
def FirstOffence (pairs : List (Raw × Raw)) (failure : Failure) : Prop :=
  ∃ earlier pair later, pairs = earlier ++ pair :: later ∧ Offends earlier pair failure ∧
    ∀ front other back reason, earlier = front ++ other :: back → ¬ Offends front other reason

variable {earlier pairs : List (Raw × Raw)} {pair : Raw × Raw}

theorem Acceptable.nil : Acceptable [] := ⟨nofun, List.nodup_nil⟩

/-- A pair may follow acceptable ones if it does not offend. -/
theorem acceptable_concat : Acceptable (earlier ++ [pair]) ↔
    Acceptable earlier ∧ ∀ failure, ¬ Offends earlier pair failure := by
  constructor
  · rintro ⟨htexts, hkeys⟩
    rw [List.map_append, List.nodup_append] at hkeys
    obtain ⟨hearlier, -, hnew⟩ := hkeys
    obtain ⟨hkey, hvalue⟩ := htexts pair (List.mem_append_right _ List.mem_cons_self)
    refine ⟨⟨fun other hother => htexts other (List.mem_append_left _ hother), hearlier⟩, ?_⟩
    intro failure hoffends
    cases hoffends with
    | key hnot => exact hnot hkey
    | value hnot => exact hnot hvalue
    | duplicate htaken => exact hnew _ htaken _ List.mem_cons_self rfl
  · rintro ⟨⟨htexts, hkeys⟩, hfine⟩
    obtain ⟨key, value⟩ := pair
    have hkey : key.IsText := by
      by_contra hnot
      exact hfine _ (.key hnot)
    obtain ⟨key, rfl⟩ := Raw.isText_iff.mp hkey
    have hvalue : value.IsText := by
      by_contra hnot
      exact hfine _ (.value hnot)
    obtain ⟨value, rfl⟩ := Raw.isText_iff.mp hvalue
    have hnew : .text key ∉ earlier.map Prod.fst := fun htaken => hfine _ (.duplicate htaken)
    refine ⟨?_, ?_⟩
    · intro other hother
      rcases List.mem_append.mp hother with hold | hlast
      · exact htexts other hold
      · obtain rfl := List.mem_singleton.mp hlast
        exact ⟨hkey, hvalue⟩
    · rw [List.map_append, List.nodup_append]
      refine ⟨hkeys, List.nodup_singleton _, ?_⟩
      rintro other hother _ hlast rfl
      obtain rfl := List.mem_singleton.mp hlast
      exact hnew hother

/-- Pairs are acceptable if none of them offends after the pairs before it. -/
theorem acceptable_iff : Acceptable pairs ↔
    ∀ front other back reason, pairs = front ++ other :: back → ¬ Offends front other reason := by
  induction pairs using List.reverseRecOn with
  | nil => exact iff_of_true .nil (by simp)
  | append_singleton earlier pair ih =>
      rw [acceptable_concat, ih]
      constructor
      · rintro ⟨hearlier, hlast⟩ front other back reason hsplit
        -- the pair that is asked for stands before the last one, or is the last one
        rcases List.eq_nil_or_concat' back with rfl | ⟨rest, last, rfl⟩
        · obtain ⟨rfl, hpair⟩ := List.append_inj' hsplit rfl
          obtain rfl := List.head_eq_of_cons_eq hpair
          exact hlast reason
        · rw [← List.cons_append, ← List.append_assoc] at hsplit
          exact hearlier front other rest reason (List.append_inj' hsplit rfl).1
      · intro hall
        refine ⟨?_, fun reason => hall earlier pair [] reason rfl⟩
        rintro front other back reason rfl
        exact hall front other (back ++ [pair]) reason (by simp)

/-- Acceptable pairs are those of texts under different keys. -/
theorem acceptable_iff_texts : Acceptable pairs ↔
    ∃ texts : List (String × String), pairs = texts.map (fun pair => (.text pair.1, .text pair.2)) ∧
      (texts.map Prod.fst).Nodup := by
  have hraws : ∀ texts : List (String × String),
      (texts.map fun pair => ((.text pair.1, .text pair.2) : Raw × Raw)).map Prod.fst =
        (texts.map Prod.fst).map Raw.text := by simp
  constructor
  · rintro ⟨htexts, hkeys⟩
    suffices hmade : ∃ texts : List (String × String),
        pairs = texts.map fun pair => (.text pair.1, .text pair.2) by
      obtain ⟨texts, rfl⟩ := hmade
      rw [hraws] at hkeys
      exact ⟨texts, rfl, hkeys.of_map Raw.text⟩
    clear hkeys
    induction pairs with
    | nil => exact ⟨[], rfl⟩
    | cons first rest ih =>
        obtain ⟨⟨hkey, hvalue⟩, hrest⟩ := List.forall_mem_cons.mp htexts
        obtain ⟨texts, rfl⟩ := ih hrest
        obtain ⟨key, value⟩ := first
        obtain ⟨key, rfl⟩ := Raw.isText_iff.mp hkey
        obtain ⟨value, rfl⟩ := Raw.isText_iff.mp hvalue
        exact ⟨(key, value) :: texts, rfl⟩
  · rintro ⟨texts, rfl, hkeys⟩
    refine ⟨?_, ?_⟩
    · rintro _ hpair
      obtain ⟨texts, -, rfl⟩ := List.mem_map.mp hpair
      exact ⟨trivial, trivial⟩
    · rw [hraws]
      exact List.Nodup.map (fun _ _ hsame => Raw.text.inj hsame) hkeys

/-! ## Pairs that are refused -/

/-- The keys of a table are those of the pairs. -/
def Holds (table : Table String Entry) (pairs : List (Raw × Raw)) : Prop :=
  ∀ key, table.contains key ↔ .text key ∈ pairs.map Prod.fst

/-- A pair is refused for what is wrong with it. -/
theorem checkPair_eq_error_iff {table : Table String Entry} {failure : Failure}
    (hholds : Holds table earlier) :
    Settings.checkPair table pair = .error failure ↔ Offends earlier pair failure := by
  obtain ⟨key, value⟩ := pair
  cases key with
  | text key =>
      cases value with
      | text value =>
          rw [Settings.checkPair]
          dsimp only
          split
          next htaken =>
            constructor
            · intro hrefused
              obtain rfl := Except.error.inj hrefused
              exact .duplicate ((hholds key).mp htaken)
            · intro hoffends
              cases hoffends with
              | key hnot => exact absurd trivial hnot
              | value hnot => exact absurd trivial hnot
              | duplicate => rfl
          next hfree =>
            refine iff_of_false (fun hrefused => by cases hrefused) ?_
            intro hoffends
            cases hoffends with
            | key hnot => exact hnot trivial
            | value hnot => exact hnot trivial
            | duplicate htaken => exact hfree ((hholds key).mpr htaken)
      | _ =>
          constructor
          · intro hrefused
            obtain rfl := Except.error.inj hrefused
            exact .value id
          · intro hoffends
            cases hoffends with
            | key hnot => exact absurd trivial hnot
            | value => rfl
  | _ =>
      constructor
      · intro hrefused
        obtain rfl := Except.error.inj hrefused
        exact .key id
      · intro hoffends
        cases hoffends
        rfl

theorem Holds.insert {table : Table String Entry} {key value : String} (hholds : Holds table earlier)
    (entry : Entry) : Holds (table.insert key entry) (earlier ++ [(.text key, .text value)]) := by
  intro other
  rw [List.map_append, List.mem_append, ← hholds other]
  by_cases hsame : other = key
  · subst hsame
    simp [Table.contains]
  · simp [Table.contains, Table.find?_insert_of_ne hsame, hsame]

/-- Pairs that are added after others are refused because of the first of them that offends. -/
theorem addPairs_eq_error_iff {frozen : Bool} {table : Table String Entry} {failure : Failure}
    (hholds : Holds table earlier) (hearlier : Acceptable earlier) :
    Settings.addPairs frozen table pairs = .error failure ↔
      ∃ before pair later, pairs = before ++ pair :: later ∧
        Offends (earlier ++ before) pair failure ∧ Acceptable (earlier ++ before) := by
  induction pairs generalizing earlier table with
  | nil => exact iff_of_false nofun (by simp)
  | cons first rest ih =>
      rw [Settings.addPairs]
      cases hchecked : Settings.checkPair table first with
      | error reason =>
          have hoffends := (checkPair_eq_error_iff hholds).mp hchecked
          constructor
          · intro hrefused
            obtain rfl := Except.error.inj hrefused
            exact ⟨[], first, rest, rfl, by simpa using hoffends, by simpa using hearlier⟩
          · rintro ⟨before, pair, later, hsplit, hother, hfine⟩
            cases before with
            | nil =>
                obtain ⟨rfl, rfl⟩ := List.cons.inj hsplit
                rw [List.append_nil] at hother
                rw [← hchecked, (checkPair_eq_error_iff hholds).mpr hother]
                rfl
            | cons head tail =>
                obtain ⟨rfl, -⟩ := List.cons.inj hsplit
                exact absurd hoffends
                  (acceptable_iff.mp hfine earlier first tail reason (by simp))
      | ok texts =>
          obtain ⟨rfl, -⟩ := text_of_checkPair hchecked
          have hfine : ∀ reason, ¬ Offends earlier (.text texts.1, .text texts.2) reason := by
            intro reason hoffends
            cases hchecked.symm.trans ((checkPair_eq_error_iff hholds).mpr hoffends)
          have hnext := acceptable_concat.mpr ⟨hearlier, hfine⟩
          change Settings.addPairs frozen (table.insert texts.1 { value := texts.2, frozen }) rest = _ ↔ _
          rw [ih (hholds.insert _) hnext]
          constructor
          · rintro ⟨before, pair, later, rfl, hoffends, hbefore⟩
            exact ⟨(.text texts.1, .text texts.2) :: before, pair, later, rfl, by simpa using hoffends,
              by simpa using hbefore⟩
          · rintro ⟨before, pair, later, hsplit, hoffends, hbefore⟩
            cases before with
            | nil =>
                obtain ⟨rfl, rfl⟩ := List.cons.inj hsplit
                rw [List.append_nil] at hoffends
                exact absurd hoffends (hfine failure)
            | cons head tail =>
                obtain ⟨rfl, rfl⟩ := List.cons.inj hsplit
                exact ⟨tail, pair, later, rfl, by simpa using hoffends, by simpa using hbefore⟩

/-! ## Populating -/

/-- A configuration shows pairs: they are its entries in order, no key comes twice, every way to read a key agrees with
the entries, and values are frozen just if the policy asks for that. -/
structure Settings.Shows (settings : Settings) (policy : Policy) (pairs : List (Raw × Raw)) : Prop where
  entries : settings.entries.map (fun pair => (.text pair.1, .text pair.2)) = pairs
  keys : (settings.entries.map Prod.fst).Nodup
  get : ∀ key value, settings.get? key = some value ↔ (key, value) ∈ settings.entries
  fetch : ∀ key value, settings.fetch key = .ok value ↔ (key, value) ∈ settings.entries
  missing : ∀ key failure, settings.fetch key = .error failure ↔
    key ∉ settings.entries.map Prod.fst ∧ failure = .missingKey key
  entry : ∀ key entry, settings.table.find? key = some entry ↔
    (key, entry.value) ∈ settings.entries ∧ (entry.frozen ↔ policy = .frozen)
  frozen : ∀ key frozen, settings.frozen? key = some frozen ↔
    key ∈ settings.entries.map Prod.fst ∧ (frozen ↔ policy = .frozen)

/-- The entry of a key holds its text, and whether it is frozen is told by the policy. -/
theorem Settings.find_ofTexts (policy : Policy) (installed : Bool) {texts : List (String × String)}
    (hkeys : (texts.map Prod.fst).Nodup) (key : String) (entry : Entry) :
    (ofTexts policy installed texts).table.find? key = some entry ↔
      (key, entry.value) ∈ texts ∧ (entry.frozen ↔ policy = .frozen) := by
  have hdifferent : ((texts.map (keep (policy = .frozen))).map Prod.fst).Nodup := by
    rwa [keys_keep]
  constructor
  · intro hfound
    obtain ⟨pair, hpair, hkept⟩ := List.mem_map.mp (Table.mem_of_find hfound)
    obtain ⟨rfl, rfl⟩ := Prod.mk.inj hkept
    exact ⟨hpair, decide_eq_true_iff⟩
  · rintro ⟨hpair, hfrozen⟩
    apply Table.look_of_mem hdifferent
    refine List.mem_map.mpr ⟨(key, entry.value), hpair, ?_⟩
    have hsame : decide (policy = .frozen) = entry.frozen := by
      rw [Bool.eq_iff_iff, decide_eq_true_iff, hfrozen]
    rw [keep, hsame]

theorem Settings.shows_ofTexts (policy : Policy) (installed : Bool) {texts : List (String × String)}
    (hkeys : (texts.map Prod.fst).Nodup) :
    (ofTexts policy installed texts).Shows policy
      (texts.map fun pair => (.text pair.1, .text pair.2)) := by
  have hfind := find_ofTexts policy installed hkeys
  have hentries := entries_ofTexts policy installed texts
  generalize ofTexts policy installed texts = settings at hfind hentries
  -- all ways to read a key come down to the entry that is found
  have hget : ∀ key value, settings.get? key = some value ↔ (key, value) ∈ texts := by
    intro key value
    rw [get?, Option.map_eq_some_iff]
    constructor
    · rintro ⟨entry, hentry, rfl⟩
      exact ((hfind key entry).mp hentry).1
    · intro hpair
      exact ⟨{ value, frozen := policy = .frozen }, (hfind key _).mpr ⟨hpair, decide_eq_true_iff⟩, rfl⟩
  have hthere : ∀ key, key ∈ texts.map Prod.fst ↔ ∃ value, (key, value) ∈ texts := by simp
  refine ⟨by rw [hentries], by rwa [hentries], ?_, ?_, ?_, ?_, ?_⟩
  · rw [hentries]
    exact hget
  · intro key value
    rw [hentries, ← hget, fetch]
    cases settings.get? key with
    | none => exact iff_of_false (fun hsame => by cases hsame) (Option.some_ne_none value).symm
    | some found => exact ⟨fun hsame => congrArg some (Except.ok.inj hsame), fun hsame => by cases hsame; rfl⟩
  · intro key failure
    rw [hentries, hthere, fetch]
    cases hfound : settings.get? key with
    | none =>
        have hnot : ¬ ∃ value, (key, value) ∈ texts := by
          rintro ⟨value, hpair⟩
          cases hfound.symm.trans ((hget key value).mpr hpair)
        exact ⟨fun hsame => ⟨hnot, (Except.error.inj hsame).symm⟩, fun hsame => by rw [hsame.2]; rfl⟩
    | some found =>
        exact iff_of_false (fun hsame => by cases hsame) fun hsame => hsame.1 ⟨found, (hget key found).mp hfound⟩
  · rw [hentries]
    exact hfind
  · intro key frozen
    rw [hentries, hthere, frozen?, Option.map_eq_some_iff]
    constructor
    · rintro ⟨entry, hentry, rfl⟩
      obtain ⟨hpair, hfrozen⟩ := (hfind key entry).mp hentry
      exact ⟨⟨entry.value, hpair⟩, hfrozen⟩
    · rintro ⟨⟨value, hpair⟩, hfrozen⟩
      exact ⟨{ value, frozen }, (hfind key _).mpr ⟨hpair, hfrozen⟩, rfl⟩

/-- A source is refused for what is wrong with the first of its pairs that offends. -/
theorem ofSource_eq_error_iff {source : Source} {policy : Policy} {failure : Failure}
    (hpairs : source.pairs = .ok pairs) :
    Settings.ofSource source policy = .error failure ↔ FirstOffence pairs failure := by
  have hempty : Holds Table.empty [] := fun key => by simp [Table.contains, Table.find?, Table.empty, Table.look]
  have hadded := @addPairs_eq_error_iff [] pairs (policy = .frozen) Table.empty failure hempty .nil
  rw [Settings.ofSource, hpairs]
  change (Settings.addPairs (policy = .frozen) Table.empty pairs >>= _) = _ ↔ _
  have hrefused : ∀ outcome : Except Failure (Table String Entry),
      (outcome >>= fun table => (.ok { table, installed := source.installed } : Except Failure Settings)) =
        .error failure ↔ outcome = .error failure := by
    intro outcome
    cases outcome with
    | error reason => exact ⟨fun hsame => congrArg _ (Except.error.inj hsame), fun hsame => by cases hsame; rfl⟩
    | ok table => exact iff_of_false (fun hsame => by cases hsame) (fun hsame => by cases hsame)
  refine (hrefused _).trans (hadded.trans ?_)
  simp only [List.nil_append]
  constructor
  · rintro ⟨before, pair, later, hsplit, hoffends, hfine⟩
    exact ⟨before, pair, later, hsplit, hoffends, acceptable_iff.mp hfine⟩
  · rintro ⟨before, pair, later, hsplit, hoffends, hfine⟩
    exact ⟨before, pair, later, hsplit, hoffends, acceptable_iff.mpr hfine⟩

/-- Take a source that yields pairs, and any policy. The source makes a configuration just if all keys and values are texts
and no key comes twice. The configuration then shows these pairs: its entries are the pairs in order, every way to read a
key agrees with them, and every entry is frozen just if the policy asks for that. Else the source is refused for what is
wrong with the first pair that offends: its key is no text, or else its value is none, or else its key came before. -/
theorem population_outcomes {source : Source} (hpairs : source.pairs = .ok pairs) (policy : Policy) :
    ((∃ settings, Settings.ofSource source policy = .ok settings) ↔
      (∀ pair ∈ pairs, pair.1.IsText ∧ pair.2.IsText) ∧ (pairs.map Prod.fst).Nodup) ∧
    (∀ settings, Settings.ofSource source policy = .ok settings → settings.Shows policy pairs) ∧
    ∀ failure, Settings.ofSource source policy = .error failure ↔ FirstOffence pairs failure := by
  refine ⟨?_, ?_, fun failure => ofSource_eq_error_iff hpairs⟩
  · rw [show _ ∧ _ ↔ Acceptable pairs from ⟨fun hfine => ⟨hfine.1, hfine.2⟩, fun hfine => ⟨hfine.1, hfine.2⟩⟩,
      acceptable_iff_texts]
    constructor
    · rintro ⟨settings, hmade⟩
      obtain ⟨texts, htexts, hkeys, -⟩ := ofSource_eq_ok_iff.mp hmade
      exact ⟨texts, Except.ok.inj (hpairs.symm.trans htexts), hkeys⟩
    · rintro ⟨texts, rfl, hkeys⟩
      exact ⟨_, ofSource_eq_ok_iff.mpr ⟨texts, hpairs, hkeys, rfl⟩⟩
  · intro settings hmade
    obtain ⟨texts, htexts, hkeys, rfl⟩ := ofSource_eq_ok_iff.mp hmade
    obtain rfl := Except.ok.inj (hpairs.symm.trans htexts)
    exact Settings.shows_ofTexts policy source.installed hkeys

/-- A key that comes again is what is reported, and not the key after it that is no text. Without these two pairs the source
makes a frozen configuration. -/
theorem population_of_repeated_key :
    let good : List (Raw × Raw) := [(.text "AR", .text "ar"), (.text "CC", .text "cc")]
    let source (pairs : List (Raw × Raw)) : Source := { origin := .pairs pairs, installed := false }
    Settings.ofSource (source (good ++ [(.text "AR", .text "llvm-ar"), (.null, .int 3)])) .frozen =
        .error (.duplicateKey "AR") ∧
      ∃ settings, Settings.ofSource (source good) .frozen = .ok settings ∧
        settings.fetch "CC" = .ok "cc" ∧ settings.frozen? "CC" = some true := by
  intro good source
  have hgood : Acceptable good :=
    acceptable_iff_texts.mpr ⟨[("AR", "ar"), ("CC", "cc")], rfl, by decide⟩
  have hall : (source (good ++ [(.text "AR", .text "llvm-ar"), (.null, .int 3)])).pairs =
      .ok (good ++ [(.text "AR", .text "llvm-ar"), (.null, .int 3)]) := rfl
  have hfew : (source good).pairs = .ok good := rfl
  obtain ⟨-, -, hrefused⟩ := population_outcomes hall .frozen
  obtain ⟨hmakes, hshows, -⟩ := population_outcomes hfew .frozen
  refine ⟨(hrefused _).mpr ⟨good, _, _, rfl, .duplicate List.mem_cons_self, acceptable_iff.mp hgood⟩, ?_⟩
  obtain ⟨settings, hmade⟩ := hmakes.mpr ⟨hgood.texts, hgood.keys⟩
  have hshown := hshows settings hmade
  have hentry : ("CC", "cc") ∈ settings.entries := by
    have hmem : ((.text "CC", .text "cc") : Raw × Raw) ∈ good := by simp [good]
    rw [← hshown.entries] at hmem
    simpa using hmem
  exact ⟨settings, hmade, (hshown.fetch _ _).mpr hentry,
    (hshown.frozen _ _).mpr ⟨List.mem_map_of_mem hentry, iff_of_true rfl rfl⟩⟩

end ObjectModel.Config
