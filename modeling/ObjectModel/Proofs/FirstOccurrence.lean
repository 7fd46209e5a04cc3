import Mathlib.Data.List.Nodup

/-! # First occurrences

What leaving out later occurrences does to a list: nothing stands twice, and what stood before a first
occurrence still stands before it.
-/

namespace ObjectModel

variable {α : Type} [DecidableEq α]

/-- The induction that follows the way in which repetitions are left out: the tail loses what equals the head. -/
theorem eraseDupsInduction {motive : List α → Prop} (hnil : motive [])
    (hcons : ∀ first rest, motive (rest.filter fun item => !item == first) → motive (first :: rest))
    (items : List α) : motive items := by
  -- the filtered tail is no part of the list, so the induction is on the length
  induction hlength : items.length using Nat.strongRecOn generalizing items with
  | ind length ih =>
      cases items with
      | nil => exact hnil
      | cons first rest =>
          have hle := List.length_filter_le (fun item => !item == first) rest
          simp only [List.length_cons] at hlength
          exact hcons first rest (ih _ (by omega) _ rfl)

theorem nodup_eraseDups (items : List α) : items.eraseDups.Nodup := by
  induction items using eraseDupsInduction with
  | hnil => simp
  | hcons first rest ih =>
      rw [List.eraseDups_cons, List.nodup_cons]
      exact ⟨by simp, ih⟩

/-- An item that is kept stood somewhere after nothing but items that are kept before it. -/
theorem exists_split_of_eraseDups {items front back : List α} {item : α}
    (hkept : items.eraseDups = front ++ item :: back) :
    ∃ before after, items = before ++ item :: after ∧ ∀ other ∈ before, other ∈ front := by
  induction items using eraseDupsInduction generalizing front with
  | hnil => simp at hkept
  | hcons first rest ih =>
      rw [List.eraseDups_cons] at hkept
      cases front with
      | nil =>
          obtain ⟨rfl, _⟩ := List.cons.inj hkept
          exact ⟨[], rest, rfl, by simp⟩
      | cons head front =>
          obtain ⟨rfl, hrest⟩ := List.cons.inj hkept
          obtain ⟨before, after, hsplit, hbefore⟩ := ih hrest
          obtain ⟨left, right, rfl, hleft, hright⟩ := List.filter_eq_append_iff.mp hsplit
          obtain ⟨skipped, tail, rfl, hskipped, _, _⟩ := List.filter_eq_cons_iff.mp hright
          refine ⟨first :: (left ++ skipped), tail, by simp, ?_⟩
          intro other hother
          rcases List.mem_cons.mp hother with rfl | hother
          · exact List.mem_cons_self
          · by_cases heq : other = first
            · exact heq ▸ List.mem_cons_self
            · apply List.mem_cons_of_mem
              apply hbefore
              rcases List.mem_append.mp hother with hother | hother
              · rw [← hleft]
                exact List.mem_filter.mpr ⟨hother, by simpa using heq⟩
              -- what was skipped repeats the head
              · exact absurd (by simpa using heq) (hskipped other hother)

theorem eraseDups_filter (items : List α) (keep : α → Bool) :
    (items.filter keep).eraseDups = items.eraseDups.filter keep := by
  induction items using eraseDupsInduction with
  | hnil => simp
  | hcons first rest ih =>
      rw [List.eraseDups_cons]
      by_cases hfirst : keep first
      · rw [List.filter_cons_of_pos hfirst, List.filter_cons_of_pos hfirst, List.eraseDups_cons,
          ← ih, List.filter_filter, List.filter_filter]
        simp only [Bool.and_comm]
      · rw [List.filter_cons_of_neg hfirst, List.filter_cons_of_neg hfirst, ← ih,
          List.filter_filter]
        congr 1
        apply List.filter_congr
        intro item _
        by_cases heq : item = first
        · simp [heq, hfirst]
        · simp [heq]

/-- Leaving out repetitions in a list of two parts: the second part loses what the first one has. -/
theorem eraseDups_append_filter (first second : List α) :
    (first ++ second).eraseDups =
      first.eraseDups ++ second.eraseDups.filter fun item => item ∉ first := by
  rw [List.eraseDups_append, ← eraseDups_filter]
  congr 2
  simp [List.removeAll]

theorem eraseDups_concat (items : List α) (item : α) :
    (items ++ [item]).eraseDups = if item ∈ items then items.eraseDups else items.eraseDups ++ [item] := by
  rw [eraseDups_append_filter, List.eraseDups_cons, List.filter_nil, List.eraseDups_nil]
  split
  next hmem => simp [hmem]
  next hnew => simp [hnew]

/-- Before the first occurrence of an item only those are kept that stand before it. -/
theorem exists_eraseDups_append {before : List α} {item : α} (hfirst : item ∉ before) (after : List α) :
    ∃ rest, (before ++ item :: after).eraseDups = before.eraseDups ++ item :: rest := by
  rw [eraseDups_append_filter, List.eraseDups_cons, List.filter_cons_of_pos (by simpa using hfirst)]
  exact ⟨_, rfl⟩

/-! ## The first answer -/

theorem findSome?_congr {α β : Type} {items : List α} {first second : α → Option β}
    (hsame : ∀ item ∈ items, first item = second item) :
    items.findSome? first = items.findSome? second := by
  induction items with
  | nil => rfl
  | cons item rest ih =>
      rw [List.findSome?_cons, List.findSome?_cons, hsame item List.mem_cons_self,
        ih fun other hother => hsame other (List.mem_cons_of_mem _ hother)]

/-- Items that give no answer can be left out. -/
theorem findSome?_filter {α β : Type} {items : List α} {keep : α → Bool} {answer : α → Option β}
    (hnone : ∀ item ∈ items, keep item = false → answer item = none) :
    (items.filter keep).findSome? answer = items.findSome? answer := by
  induction items with
  | nil => rfl
  | cons item rest ih =>
      have hrest := ih fun other hother => hnone other (List.mem_cons_of_mem _ hother)
      cases hkeep : keep item with
      | true => rw [List.filter_cons_of_pos hkeep, List.findSome?_cons, List.findSome?_cons, hrest]
      | false =>
          rw [List.filter_cons_of_neg (by simp [hkeep]), List.findSome?_cons,
            hnone item List.mem_cons_self hkeep, hrest]

/-- A repetition never gives the first answer. -/
theorem findSome?_eraseDups {β : Type} (items : List α) (answer : α → Option β) :
    items.eraseDups.findSome? answer = items.findSome? answer := by
  induction items using eraseDupsInduction with
  | hnil => simp
  | hcons first rest ih =>
      rw [List.eraseDups_cons, List.findSome?_cons, List.findSome?_cons, ih]
      cases hfirst : answer first with
      | some entry => rfl
      | none =>
          apply findSome?_filter
          intro item _ hdropped
          obtain rfl : item = first := by simpa using hdropped
          exact hfirst

end ObjectModel
