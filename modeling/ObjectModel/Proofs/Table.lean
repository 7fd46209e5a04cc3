import ObjectModel.Table

/-! # What tables hold

An entry of a table after a change stood there before or is the one that was put in. A table that begins with different
keys goes on to have different keys, and then its entries do not depend on their order. A change goes the same way with the
keys renamed, if the key that it is for is told apart from the others.
-/

namespace ObjectModel.Table

variable {κ α : Type} [DecidableEq κ]

theorem mem_of_look {key : κ} {entry : α} {pairs : List (κ × α)}
    (hlook : look key pairs = some entry) : (key, entry) ∈ pairs := by
  induction pairs with
  | nil => simp [look] at hlook
  | cons pair rest ih =>
      rw [look] at hlook
      split at hlook
      next hsame =>
        obtain rfl := Option.some.inj hlook
        rw [← hsame]
        exact List.mem_cons_self
      · exact List.mem_cons_of_mem _ (ih hlook)

theorem mem_of_find {table : Table κ α} {key : κ} {entry : α} (hfind : table.find? key = some entry) :
    (key, entry) ∈ table.entries :=
  mem_of_look hfind

theorem mem_put {key : κ} {entry : α} {pairs : List (κ × α)} {pair : κ × α}
    (hpair : pair ∈ put key entry pairs) : pair = (key, entry) ∨ pair ∈ pairs := by
  induction pairs with
  | nil => exact .inl (List.mem_singleton.mp hpair)
  | cons first rest ih =>
      rw [put] at hpair
      split at hpair
      · rcases List.mem_cons.mp hpair with heq | hrest
        · exact .inl heq
        · exact .inr (List.mem_cons_of_mem _ hrest)
      · rcases List.mem_cons.mp hpair with rfl | hrest
        · exact .inr List.mem_cons_self
        · exact (ih hrest).imp_right (List.mem_cons_of_mem _)

theorem mem_insert {table : Table κ α} {key : κ} {entry : α} {pair : κ × α}
    (hpair : pair ∈ (table.insert key entry).entries) :
    pair = (key, entry) ∨ pair ∈ table.entries :=
  mem_put hpair

theorem mem_erase {table : Table κ α} {key : κ} {pair : κ × α}
    (hpair : pair ∈ (table.erase key).entries) : pair ∈ table.entries :=
  (List.mem_filter.mp hpair).1

theorem mem_adjust {table : Table κ α} {key : κ} {change : α → α} {pair : κ × α}
    (hpair : pair ∈ (table.adjust key change).entries) :
    (∃ entry, (key, entry) ∈ table.entries ∧ pair = (key, change entry)) ∨ pair ∈ table.entries := by
  rw [adjust] at hpair
  split at hpair
  next entry hfind =>
    exact (mem_insert hpair).imp_left fun heq => ⟨entry, mem_of_find hfind, heq⟩
  · exact .inr hpair

/-- A key that is not the one whose entry is changed keeps its entry. -/
theorem find_adjust {table : Table κ α} {key other : κ} {entry : α} (change : α → α)
    (hfind : table.find? other = some entry) :
    (table.adjust key change).find? other = some (if other = key then change entry else entry) := by
  rw [adjust]
  by_cases hother : other = key
  · subst hother
    rw [hfind, if_pos rfl]
    exact find?_insert_self table other _
  · rw [if_neg hother]
    split
    · rw [find?_insert_of_ne hother, hfind]
    · exact hfind

/-- The entry of a new key is put at the end. -/
theorem put_of_look_none {key : κ} {pairs : List (κ × α)} (hnew : look key pairs = none) (entry : α) :
    put key entry pairs = pairs ++ [(key, entry)] := by
  induction pairs with
  | nil => rfl
  | cons first rest ih =>
      rw [look] at hnew
      split at hnew
      · cases hnew
      next hother => rw [put, if_neg hother, ih hnew, List.cons_append]

/-- Putting in what is there. -/
theorem insert_of_find {table : Table κ α} {key : κ} {entry : α} (hfind : table.find? key = some entry) :
    table.insert key entry = table := by
  obtain ⟨pairs⟩ := table
  apply congrArg Table.mk
  change look key pairs = some entry at hfind
  induction pairs with
  | nil => cases hfind
  | cons pair rest ih =>
      rw [look] at hfind
      rw [put]
      split at hfind
      next hsame =>
        obtain rfl := Option.some.inj hfind
        rw [if_pos hsame, ← hsame]
      next hother => rw [if_neg hother, ih hfind]

/-! ## Leaving out a key -/

/-- Without its key a table is the same after an entry was put in. -/
theorem erase_insert (table : Table κ α) (key : κ) (entry : α) :
    (table.insert key entry).erase key = table.erase key := by
  obtain ⟨pairs⟩ := table
  change Table.mk _ = Table.mk _
  congr 1
  change (put key entry pairs).filter _ = pairs.filter _
  induction pairs with
  | nil => simp [put]
  | cons first rest ih =>
      rw [put]
      split
      next hsame => simp [hsame]
      next => rw [List.filter_cons, List.filter_cons, ih]

theorem erase_erase (table : Table κ α) (key : κ) : (table.erase key).erase key = table.erase key := by
  simp [erase, List.filter_filter]

theorem erase_adjust (table : Table κ α) (key : κ) (change : α → α) :
    (table.adjust key change).erase key = table.erase key := by
  rw [adjust]
  split
  · exact table.erase_insert key _
  · rfl

theorem find?_erase_of_ne {key other : κ} (hother : other ≠ key) (table : Table κ α) :
    (table.erase key).find? other = table.find? other := by
  obtain ⟨pairs⟩ := table
  change look other (pairs.filter fun pair => pair.1 ≠ key) = look other pairs
  induction pairs with
  | nil => rfl
  | cons pair rest ih =>
      by_cases hsame : pair.1 = key
      · rw [List.filter_cons_of_neg (by simpa using hsame), ih, look, if_neg]
        exact fun hpair => hother (hpair.symm.trans hsame)
      · rw [List.filter_cons_of_pos (by simpa using hsame), look, look, ih]

theorem find?_of_erase_eq {key other : κ} {first second : Table κ α}
    (hsame : second.erase key = first.erase key) (hother : other ≠ key) :
    second.find? other = first.find? other := by
  rw [← find?_erase_of_ne hother second, hsame, find?_erase_of_ne hother]

/-! ## Different keys -/

theorem nodup_keys_insert {table : Table κ α} (hkeys : table.keys.Nodup) (key : κ) (entry : α) :
    (table.insert key entry).keys.Nodup := by
  obtain ⟨pairs⟩ := table
  change ((put key entry pairs).map Prod.fst).Nodup
  induction pairs with
  | nil => exact List.pairwise_singleton _ key
  | cons first rest ih =>
      obtain ⟨hfirst, hrest⟩ := List.nodup_cons.mp hkeys
      rw [put]
      split
      next hsame => exact hsame ▸ hkeys
      next hother =>
        refine List.nodup_cons.mpr ⟨?_, ih hrest⟩
        intro hmem
        obtain ⟨pair, hpair, hkey⟩ := List.mem_map.mp hmem
        rcases mem_put hpair with rfl | hold
        · exact hother hkey.symm
        · exact hfirst (List.mem_map.mpr ⟨pair, hold, hkey⟩)

theorem nodup_keys_erase {table : Table κ α} (hkeys : table.keys.Nodup) (key : κ) :
    (table.erase key).keys.Nodup :=
  hkeys.sublist (List.filter_sublist.map Prod.fst)

theorem nodup_keys_adjust {table : Table κ α} (hkeys : table.keys.Nodup) (key : κ) (change : α → α) :
    (table.adjust key change).keys.Nodup := by
  rw [adjust]
  split
  · exact nodup_keys_insert hkeys key _
  · exact hkeys

theorem look_append (key : κ) (front back : List (κ × α)) :
    look key (front ++ back) = (look key front).or (look key back) := by
  induction front with
  | nil => rfl
  | cons pair rest ih =>
      rw [List.cons_append, look, look, ih]
      split <;> rfl

/-- If the keys are different, then every pair is found. -/
theorem look_of_mem {key : κ} {entry : α} {pairs : List (κ × α)} (hkeys : (pairs.map Prod.fst).Nodup)
    (hmem : (key, entry) ∈ pairs) : look key pairs = some entry := by
  induction pairs with
  | nil => simp at hmem
  | cons pair rest ih =>
      obtain ⟨hfirst, hrest⟩ := List.nodup_cons.mp hkeys
      rw [look]
      rcases List.mem_cons.mp hmem with rfl | hmem
      · exact if_pos rfl
      · rw [if_neg, ih hrest hmem]
        rintro hsame
        exact hfirst (List.mem_map.mpr ⟨_, hmem, hsame.symm⟩)

theorem look_perm {first second : List (κ × α)} (hkeys : (first.map Prod.fst).Nodup)
    (hperm : first.Perm second) (key : κ) : look key second = look key first := by
  have hother : (second.map Prod.fst).Nodup := (hperm.map Prod.fst).nodup_iff.mp hkeys
  refine Option.ext fun entry => ⟨fun hlook => ?_, fun hlook => ?_⟩
  · exact look_of_mem hkeys (hperm.mem_iff.mpr (mem_of_look hlook))
  · exact look_of_mem hother (hperm.mem_iff.mp (mem_of_look hlook))

/-! ## Keys -/

theorem mem_keys_iff {table : Table κ α} {key : κ} : key ∈ table.keys ↔ (table.find? key).isSome := by
  obtain ⟨pairs⟩ := table
  change key ∈ pairs.map Prod.fst ↔ (look key pairs).isSome
  induction pairs with
  | nil => simp [look]
  | cons pair rest ih =>
      rw [List.map_cons, List.mem_cons, ih, look]
      by_cases hsame : pair.1 = key
      · simp [hsame]
      · rw [if_neg hsame, or_iff_right (Ne.symm hsame)]

theorem find?_eq_none_iff {table : Table κ α} {key : κ} : table.find? key = none ↔ key ∉ table.keys := by
  rw [mem_keys_iff, Option.not_isSome_iff_eq_none]

/-- A new key is put at the end, and one that is there keeps its place. -/
theorem keys_insert (table : Table κ α) (key : κ) (entry : α) :
    (table.insert key entry).keys = if key ∈ table.keys then table.keys else table.keys ++ [key] := by
  obtain ⟨pairs⟩ := table
  change (put key entry pairs).map Prod.fst =
    if key ∈ pairs.map Prod.fst then pairs.map Prod.fst else pairs.map Prod.fst ++ [key]
  induction pairs with
  | nil => simp [put]
  | cons pair rest ih =>
      rw [put]
      by_cases hsame : pair.1 = key
      · simp [hsame]
      · have hmem : key ∈ pair.1 :: rest.map Prod.fst ↔ key ∈ rest.map Prod.fst :=
          List.mem_cons.trans (or_iff_right (Ne.symm hsame))
        rw [if_neg hsame, List.map_cons, ih, List.map_cons]
        simp only [hmem]
        split <;> rfl

theorem keys_adjust (table : Table κ α) (key : κ) (change : α → α) :
    (table.adjust key change).keys = table.keys := by
  rw [adjust]
  split
  next hfind => rw [keys_insert, if_pos (mem_keys_iff.mpr (Option.isSome_of_eq_some hfind))]
  · rfl

theorem keys_erase (table : Table κ α) (key : κ) :
    (table.erase key).keys = table.keys.filter (· ≠ key) := by
  rw [keys, erase, keys, List.filter_map]
  rfl

@[simp] theorem find?_erase_self (table : Table κ α) (key : κ) : (table.erase key).find? key = none := by
  rw [find?_eq_none_iff, keys_erase]
  simp

theorem find?_adjust_self (table : Table κ α) (key : κ) (change : α → α) :
    (table.adjust key change).find? key = (table.find? key).map change := by
  rw [adjust]
  split
  next hfind => rw [find?_insert_self, hfind, Option.map_some]
  next hfind => rw [hfind, Option.map_none]

theorem find?_adjust_of_ne {key other : κ} (hother : other ≠ key) (table : Table κ α)
    (change : α → α) : (table.adjust key change).find? other = table.find? other := by
  rw [adjust]
  split
  · exact find?_insert_of_ne hother table _
  · rfl

/-- Of two entries that are put in under one key the second stays. -/
theorem insert_insert (table : Table κ α) (key : κ) (first second : α) :
    (table.insert key first).insert key second = table.insert key second := by
  obtain ⟨pairs⟩ := table
  apply congrArg Table.mk
  change put key second (put key first pairs) = put key second pairs
  induction pairs with
  | nil => simp [put]
  | cons pair rest ih =>
      by_cases hsame : pair.1 = key
      · simp [put, hsame]
      · simp [put, hsame, ih]

theorem adjust_insert (table : Table κ α) (key : κ) (entry : α) (change : α → α) :
    (table.insert key entry).adjust key change = table.insert key (change entry) := by
  rw [adjust, find?_insert_self]
  exact table.insert_insert key entry _

/-- A key that is not there is left out without a change. -/
theorem erase_of_not_mem {table : Table κ α} {key : κ} (hkey : key ∉ table.keys) :
    table.erase key = table := by
  apply congrArg Table.mk
  refine List.filter_eq_self.mpr fun pair hpair => decide_eq_true ?_
  rintro rfl
  exact hkey (List.mem_map_of_mem hpair)

/-! ## Tables under other keys -/

section

variable {κ' : Type} [DecidableEq κ'] {rename : κ → κ'} {table : Table κ α} {key : κ}

/-- The table in which each entry stands under another key. -/
def mapKeys (rename : κ → κ') (table : Table κ α) : Table κ' α :=
  ⟨table.entries.map fun pair => (rename pair.1, pair.2)⟩

omit [DecidableEq κ] [DecidableEq κ'] in
theorem keys_mapKeys (rename : κ → κ') (table : Table κ α) :
    (table.mapKeys rename).keys = table.keys.map rename := by
  simp [keys, mapKeys]

omit [DecidableEq κ] [DecidableEq κ'] in
theorem mapKeys_congr {other : κ → κ'} (hsame : ∀ key ∈ table.keys, rename key = other key) :
    table.mapKeys rename = table.mapKeys other := by
  apply congrArg Table.mk
  refine List.map_congr_left fun pair hpair => ?_
  rw [hsame pair.1 (List.mem_map_of_mem hpair)]

/-- A key is told apart from those of the table under its other name. -/
def Apart (rename : κ → κ') (table : Table κ α) (key : κ) : Prop :=
  ∀ other ∈ table.keys, rename other = rename key → other = key

theorem Apart.find (hapart : table.Apart rename key) :
    (table.mapKeys rename).find? (rename key) = table.find? key := by
  obtain ⟨pairs⟩ := table
  change look (rename key) (pairs.map fun pair => (rename pair.1, pair.2)) = look key pairs
  induction pairs with
  | nil => rfl
  | cons pair rest ih =>
      obtain ⟨hfirst, hrest⟩ := List.forall_mem_cons.mp hapart
      have hsame : rename pair.1 = rename key ↔ pair.1 = key := ⟨hfirst, congrArg rename⟩
      rw [List.map_cons, look, look, ih hrest]
      simp only [hsame]

theorem Apart.insert (hapart : table.Apart rename key) (entry : α) :
    (table.insert key entry).mapKeys rename = (table.mapKeys rename).insert (rename key) entry := by
  obtain ⟨pairs⟩ := table
  apply congrArg Table.mk
  change (put key entry pairs).map _ = put (rename key) entry (pairs.map _)
  induction pairs with
  | nil => rfl
  | cons pair rest ih =>
      obtain ⟨hfirst, hrest⟩ := List.forall_mem_cons.mp hapart
      have hsame : rename pair.1 = rename key ↔ pair.1 = key := ⟨hfirst, congrArg rename⟩
      rw [List.map_cons, put, put]
      simp only [hsame]
      split
      · rfl
      · rw [List.map_cons, ih hrest]

theorem Apart.adjust (hapart : table.Apart rename key) (change : α → α) :
    (table.adjust key change).mapKeys rename = (table.mapKeys rename).adjust (rename key) change := by
  rw [Table.adjust, Table.adjust, hapart.find]
  split
  · exact hapart.insert _
  · rfl

theorem Apart.erase (hapart : table.Apart rename key) :
    (table.erase key).mapKeys rename = (table.mapKeys rename).erase (rename key) := by
  apply congrArg Table.mk
  rw [mapKeys, List.filter_map]
  refine congrArg _ (List.filter_congr fun pair hpair => ?_)
  have hsame : rename pair.1 = rename key ↔ pair.1 = key :=
    ⟨hapart pair.1 (List.mem_map_of_mem hpair), congrArg rename⟩
  simp [hsame]

end

end ObjectModel.Table
