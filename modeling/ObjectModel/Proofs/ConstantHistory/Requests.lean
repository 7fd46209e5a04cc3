import Mathlib.Data.List.DropRight
import ObjectModel.Class
import ObjectModel.Proofs.Table

/-! # What is asked of the constants of one table

A constant is assigned, made private or public, deprecated, or removed. The requests that were carried out on a table tell
all about it: a constant that was removed begins anew, so that what it is follows from the requests since its last removal,
and the constants stand in the order in which they came into being.
-/

namespace ObjectModel

/-- What may be asked of a constant. -/
inductive ConstantRequest
  | assign (value : Value)
  | setPrivate (isPrivate : Bool)
  | markDeprecated
  | remove
  deriving DecidableEq, Repr

/-- Requests with the names of the constants that they are for, the earliest first. -/
abbrev ConstantHistory := List (String × ConstantRequest)

namespace ConstantRequest

variable {κ : Type} [DecidableEq κ]

/-! ## Carrying out a request -/

/-- What a request makes of the entry of its constant. -/
def change : ConstantRequest → Option ConstantEntry → Option ConstantEntry
  | .assign value, none => some { value, isPrivate := false, isDeprecated := false }
  | .assign value, some entry => some { entry with value }
  | .setPrivate isPrivate, found => found.map fun entry => { entry with isPrivate }
  | .markDeprecated, found => found.map fun entry => { entry with isDeprecated := true }
  | .remove, _ => none

/-- What a request makes of the list of the constants of a table. -/
def relist (key : κ) (keys : List κ) : ConstantRequest → List κ
  | .assign _ => if key ∈ keys then keys else keys ++ [key]
  | .setPrivate _ | .markDeprecated => keys
  | .remove => keys.erase key

/-- What a request makes of a table of constants. -/
def carryOut (key : κ) (table : Table κ ConstantEntry) : ConstantRequest → Table κ ConstantEntry
  | .assign value =>
      table.insert key (match table.find? key with
        | some entry => { entry with value }
        | none => { value, isPrivate := false, isDeprecated := false })
  | .setPrivate isPrivate => table.adjust key fun entry => { entry with isPrivate }
  | .markDeprecated => table.adjust key fun entry => { entry with isDeprecated := true }
  | .remove => table.erase key

theorem find?_carryOut_self (key : κ) (table : Table κ ConstantEntry) (request : ConstantRequest) :
    (request.carryOut key table).find? key = request.change (table.find? key) := by
  cases request with
  | assign value =>
      rw [carryOut, Table.find?_insert_self]
      cases table.find? key <;> rfl
  | setPrivate isPrivate => exact table.find?_adjust_self key _
  | markDeprecated => exact table.find?_adjust_self key _
  | remove => exact table.find?_erase_self key

theorem find?_carryOut_of_ne {key other : κ} (hother : other ≠ key) (table : Table κ ConstantEntry)
    (request : ConstantRequest) : (request.carryOut key table).find? other = table.find? other := by
  cases request with
  | assign value => exact Table.find?_insert_of_ne hother table _
  | setPrivate isPrivate => exact Table.find?_adjust_of_ne hother table _
  | markDeprecated => exact Table.find?_adjust_of_ne hother table _
  | remove => exact Table.find?_erase_of_ne hother table

theorem keys_carryOut {table : Table κ ConstantEntry} (hkeys : table.keys.Nodup) (key : κ)
    (request : ConstantRequest) : (request.carryOut key table).keys = request.relist key table.keys := by
  cases request with
  | assign value => exact table.keys_insert key _
  | setPrivate isPrivate => exact table.keys_adjust key _
  | markDeprecated => exact table.keys_adjust key _
  | remove =>
      rw [carryOut, Table.keys_erase, relist, hkeys.erase_eq_filter]
      exact List.filter_congr fun other _ => by simp [bne, beq_eq_decide]

theorem nodup_keys_carryOut {table : Table κ ConstantEntry} (hkeys : table.keys.Nodup) (key : κ)
    (request : ConstantRequest) : (request.carryOut key table).keys.Nodup := by
  cases request with
  | assign value => exact Table.nodup_keys_insert hkeys key _
  | setPrivate isPrivate => exact Table.nodup_keys_adjust hkeys key _
  | markDeprecated => exact Table.nodup_keys_adjust hkeys key _
  | remove => exact Table.nodup_keys_erase hkeys key

/-- The key of the request is the only one that it can bring in. -/
theorem mem_keys_carryOut {table : Table κ ConstantEntry} {key other : κ} {request : ConstantRequest}
    (hother : other ∈ (request.carryOut key table).keys) : other = key ∨ other ∈ table.keys := by
  by_cases hsame : other = key
  · exact .inl hsame
  · rw [Table.mem_keys_iff, find?_carryOut_of_ne hsame, ← Table.mem_keys_iff] at hother
    exact .inr hother

/-- It does not matter whether the constants are renamed before the request is carried out or afterwards. -/
theorem mapKeys_carryOut {κ' : Type} [DecidableEq κ'] {rename : κ → κ'} {table : Table κ ConstantEntry}
    {key : κ} (hapart : table.Apart rename key) (request : ConstantRequest) :
    (request.carryOut key table).mapKeys rename =
      request.carryOut (rename key) (table.mapKeys rename) := by
  cases request with
  | assign value => rw [carryOut, carryOut, hapart.insert, hapart.find]
  | setPrivate isPrivate => exact hapart.adjust _
  | markDeprecated => exact hapart.adjust _
  | remove => exact hapart.erase

end ConstantRequest

namespace ConstantHistory

open ConstantRequest

/-! ## Lives -/

variable {history : ConstantHistory} {name other : String} {request : ConstantRequest}

/-- The requests that are for a constant. -/
def requests (history : ConstantHistory) (name : String) : List ConstantRequest :=
  (history.filter fun pair => pair.1 = name).map Prod.snd

/-- The requests for a constant since it was last removed. -/
def life (history : ConstantHistory) (name : String) : List ConstantRequest :=
  (history.requests name).rtakeWhile (· ≠ .remove)

/-- The value that was assigned last. -/
def lastValue (life : List ConstantRequest) : Option Value :=
  (life.filterMap fun request => match request with
    | .assign value => some value
    | _ => none).getLast?

/-- What was last said about being private. -/
def lastPrivate (life : List ConstantRequest) : Option Bool :=
  (life.filterMap fun request => match request with
    | .setPrivate isPrivate => some isPrivate
    | _ => none).getLast?

/-- A constant to which a value was assigned has the last one, is private if that was said last, and is deprecated if that
was ever asked for. -/
def recorded (life : List ConstantRequest) : Option ConstantEntry :=
  (lastValue life).map fun value =>
    { value, isPrivate := (lastPrivate life).getD false, isDeprecated := .markDeprecated ∈ life }

/-- One constant came into being before another: once the first was there and the other was not, and since then the first
was not removed. -/
def CreatedBefore (history : ConstantHistory) (first second : String) : Prop :=
  ∃ earlier later : ConstantHistory, history = earlier ++ later ∧ earlier.life first ≠ [] ∧
    (first, .remove) ∉ later ∧ earlier.life second = []

/-- What comes after does not change which of two constants came first, unless it removes that one. -/
theorem CreatedBefore.append {first second : String} {next : String × ConstantRequest}
    (hbefore : history.CreatedBefore first second) (hnext : next ≠ (first, .remove)) :
    CreatedBefore (history ++ [next]) first second := by
  obtain ⟨earlier, later, rfl, hfirst, hlater, hsecond⟩ := hbefore
  refine ⟨earlier, later ++ [next], List.append_assoc _ _ _, hfirst, ?_, hsecond⟩
  rw [List.mem_append, List.mem_singleton]
  exact not_or.mpr ⟨hlater, hnext.symm⟩

theorem life_append_of_ne (hother : other ≠ name) :
    life (history ++ [(name, request)]) other = history.life other := by
  rw [life, requests, List.filter_append, List.filter_cons_of_neg (by simpa using hother.symm)]
  simp [life, requests]

theorem requests_append_self (history : ConstantHistory) (name : String) (request : ConstantRequest) :
    requests (history ++ [(name, request)]) name = history.requests name ++ [request] := by
  simp [requests]

theorem life_append_self (hrequest : request ≠ .remove) :
    life (history ++ [(name, request)]) name = history.life name ++ [request] := by
  rw [life, requests_append_self, List.rtakeWhile_concat_pos _ _ _ (by simpa using hrequest), life]

theorem life_append_remove : life (history ++ [(name, .remove)]) name = [] := by
  rw [life, requests_append_self, List.rtakeWhile_concat_neg _ _ _ (by simp)]

theorem lastValue_append (life : List ConstantRequest) (request : ConstantRequest) :
    lastValue (life ++ [request]) = match request with
      | .assign value => some value
      | _ => lastValue life := by
  cases request <;> simp [lastValue]

theorem lastPrivate_append (life : List ConstantRequest) (request : ConstantRequest) :
    lastPrivate (life ++ [request]) = match request with
      | .setPrivate isPrivate => some isPrivate
      | _ => lastPrivate life := by
  cases request <;> simp [lastPrivate]

/-- A life that begins is one of a constant to which a value was assigned. -/
def Begins (life : List ConstantRequest) : Prop :=
  life = [] ∨ ∃ value rest, life = .assign value :: rest

theorem Begins.append {life : List ConstantRequest} (hbegins : Begins life)
    (hrequest : (∃ value, request = .assign value) ∨ life ≠ []) : Begins (life ++ [request]) := by
  rcases hbegins with rfl | ⟨value, rest, rfl⟩
  · obtain ⟨value, rfl⟩ := hrequest.resolve_right (· rfl)
    exact .inr ⟨value, [], rfl⟩
  · exact .inr ⟨value, rest ++ [request], rfl⟩

theorem Begins.recorded_isSome {life : List ConstantRequest} (hbegins : Begins life) :
    (recorded life).isSome ↔ life ≠ [] := by
  rcases hbegins with rfl | ⟨value, rest, rfl⟩
  · exact iff_of_false Bool.false_ne_true (· rfl)
  · refine iff_of_true ?_ (List.cons_ne_nil _ _)
    simp [recorded, lastValue]

/-- One more request of a life changes the entry as if it was carried out. -/
theorem Begins.recorded_append {life : List ConstantRequest} (hbegins : Begins life)
    (hrequest : request ≠ .remove) :
    recorded (life ++ [request]) = request.change (recorded life) := by
  cases request with
  | assign value =>
      rw [recorded, lastValue_append, lastPrivate_append]
      by_cases hlife : life = []
      · subst hlife
        rfl
      · obtain ⟨entry, hentry⟩ := Option.isSome_iff_exists.mp (hbegins.recorded_isSome.mpr hlife)
        obtain ⟨old, hold, rfl⟩ := Option.map_eq_some_iff.mp hentry
        rw [hentry]
        simp [change]
  | setPrivate isPrivate =>
      rw [recorded, lastValue_append, lastPrivate_append, recorded, change, Option.map_map]
      simp [Function.comp_def]
  | markDeprecated =>
      rw [recorded, lastValue_append, lastPrivate_append, recorded, change, Option.map_map]
      simp [Function.comp_def]
  | remove => exact absurd rfl hrequest

/-! ## Tables with a history -/

/-- A table is as its history has it. -/
structure Accounts (history : ConstantHistory) (table : Table String ConstantEntry) : Prop where
  entry : ∀ name, table.find? name = recorded (history.life name)
  begins : ∀ name, Begins (history.life name)
  nodup : table.keys.Nodup
  order : table.keys.Pairwise history.CreatedBefore

namespace Accounts

variable {table : Table String ConstantEntry}

theorem mem_keys_iff (haccounts : history.Accounts table) :
    name ∈ table.keys ↔ history.life name ≠ [] := by
  rw [Table.mem_keys_iff, haccounts.entry, (haccounts.begins name).recorded_isSome]

theorem nil : Accounts [] Table.empty where
  entry _ := rfl
  begins _ := .inl rfl
  nodup := List.nodup_nil
  order := .nil

/-- The next request that is carried out goes into the history. All but assignments are for constants that are there. -/
theorem carryOut (haccounts : history.Accounts table) (name : String) (request : ConstantRequest)
    (hrequest : (∃ value, request = .assign value) ∨ name ∈ table.keys) :
    Accounts (history ++ [(name, request)]) (request.carryOut name table) where
  entry other := by
    by_cases hother : other = name
    · subst hother
      rw [find?_carryOut_self, haccounts.entry]
      by_cases hremove : request = .remove
      · subst hremove
        rw [life_append_remove]
        rfl
      · rw [life_append_self hremove, (haccounts.begins other).recorded_append hremove]
    · rw [find?_carryOut_of_ne hother, life_append_of_ne hother, haccounts.entry]
  begins other := by
    by_cases hother : other = name
    · subst hother
      by_cases hremove : request = .remove
      · subst hremove
        rw [life_append_remove]
        exact .inl rfl
      · rw [life_append_self hremove]
        exact (haccounts.begins other).append (hrequest.imp_right haccounts.mem_keys_iff.mp)
    · rw [life_append_of_ne hother]
      exact haccounts.begins other
  nodup := nodup_keys_carryOut haccounts.nodup name request
  order := by
    rw [keys_carryOut haccounts.nodup]
    have hkept : request ≠ .remove →
        table.keys.Pairwise (CreatedBefore (history ++ [(name, request)])) := fun hremove =>
      haccounts.order.imp fun hbefore => hbefore.append fun hsame => hremove (Prod.mk.inj hsame).2
    cases request with
    | assign value =>
        rw [relist]
        split
        · exact hkept nofun
        next hnew =>
          refine List.pairwise_append.mpr ⟨hkept nofun, List.pairwise_singleton _ _, ?_⟩
          intro other hother last hlast
          obtain rfl := List.mem_singleton.mp hlast
          exact ⟨history, _, rfl, haccounts.mem_keys_iff.mp hother, by simp,
            not_not.mp (mt haccounts.mem_keys_iff.mpr hnew)⟩
    | setPrivate isPrivate => exact hkept nofun
    | markDeprecated => exact hkept nofun
    | remove =>
        -- the constant that is removed is no longer one of those that are compared
        refine (haccounts.order.sublist List.erase_sublist).imp_of_mem fun {first second} hfirst _ hbefore =>
          hbefore.append ?_
        rintro hsame
        exact haccounts.nodup.not_mem_erase ((Prod.mk.inj hsame).1 ▸ hfirst)

end Accounts

/-! ## What was there at the start -/

/-- The requests by which an entry could have come about. -/
def madeBy (entry : ConstantEntry) : List ConstantRequest :=
  .assign entry.value :: ((if entry.isPrivate then [.setPrivate true] else []) ++
    if entry.isDeprecated then [.markDeprecated] else [])

/-- The requests by which a table could have come about. -/
def past (table : Table String ConstantEntry) : ConstantHistory :=
  table.entries.flatMap fun pair => (madeBy pair.2).map (pair.1, ·)

namespace Accounts

variable {table : Table String ConstantEntry}

/-- An entry is made by the requests for it. -/
theorem made (haccounts : history.Accounts table) (hname : name ∉ table.keys) (entry : ConstantEntry) :
    Accounts (history ++ (madeBy entry).map (name, ·)) (table.insert name entry) := by
  obtain ⟨value, isPrivate, isDeprecated⟩ := entry
  -- the constant is put in without flags, which are then set one after the other
  have hassigned := haccounts.carryOut name (.assign value) (.inl ⟨value, rfl⟩)
  rw [ConstantRequest.carryOut, Table.find?_eq_none_iff.mpr hname] at hassigned
  have hthere (entry : ConstantEntry) : name ∈ (table.insert name entry).keys := by
    rw [Table.mem_keys_iff, Table.find?_insert_self]
    rfl
  have hflagged : Accounts (history ++ [(name, .assign value)] ++
      (if isPrivate then [.setPrivate true] else []).map (name, ·))
      (table.insert name ⟨value, isPrivate, false⟩) := by
    cases isPrivate with
    | false => simpa using hassigned
    | true =>
        have hnext := hassigned.carryOut name (.setPrivate true) (.inr (hthere _))
        rwa [ConstantRequest.carryOut, Table.adjust_insert] at hnext
  have hall : Accounts (history ++ [(name, .assign value)] ++
      (if isPrivate then [.setPrivate true] else []).map (name, ·) ++
      (if isDeprecated then [.markDeprecated] else []).map (name, ·))
      (table.insert name ⟨value, isPrivate, isDeprecated⟩) := by
    cases isDeprecated with
    | false => simpa using hflagged
    | true =>
        have hnext := hflagged.carryOut name .markDeprecated (.inr (hthere _))
        rwa [ConstantRequest.carryOut, Table.adjust_insert] at hnext
  simpa [madeBy] using hall

/-- A table whose names are different is as its past has it. -/
theorem past (hkeys : table.keys.Nodup) : (past table).Accounts table := by
  obtain ⟨entries⟩ := table
  induction entries using List.reverseRecOn with
  | nil => exact .nil
  | append_singleton front last ih =>
      rw [Table.keys, List.map_append] at hkeys
      obtain ⟨hfront, -, happart⟩ := List.nodup_append.mp hkeys
      have hnew : last.1 ∉ front.map Prod.fst :=
        fun hmem => happart _ hmem _ (List.mem_singleton.mpr rfl) rfl
      have hmade := (ih hfront).made hnew last.2
      have hput : (Table.mk front).insert last.1 last.2 = ⟨front ++ [last]⟩ :=
        congrArg Table.mk (Table.put_of_look_none (Table.find?_eq_none_iff.mpr hnew) last.2)
      rw [hput] at hmade
      simpa [ConstantHistory.past] using hmade

end Accounts

end ConstantHistory

end ObjectModel
