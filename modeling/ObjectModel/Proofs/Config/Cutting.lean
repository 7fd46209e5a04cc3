import ObjectModel.Config.Items

/-! # Cutting lists

The reader that cuts a list at its commas can come through a text to a place without making a cut on the way. If it
comes through each of several items to the place at which it began, then the pieces of the joined items are these items,
and inside of brackets the joined items are not cut at all.
-/

namespace ObjectModel.Config

/-! ## Coming through a text -/

/-- Puts a text in front of the first of several pieces. -/
def attachAll (text : List Char) (pieces : List (List Char)) : List (List Char) :=
  text.foldr attachFirst pieces

theorem attachAll_cons (text first : List Char) (rest : List (List Char)) :
    attachAll text (first :: rest) = (text ++ first) :: rest := by
  induction text with
  | nil => rfl
  | cons character text ih => rw [attachAll, List.foldr_cons, ← attachAll, ih]; rfl

/-- A reader that stands at a place comes through a text to another place, and makes no cut on the way. -/
structure Place.Crosses (place : Place) (text : List Char) (last : Place) : Prop where
  ends : text.foldl Place.step place = last
  keeps : ∀ rest, cut place (text ++ rest) = attachAll text (cut last rest)

namespace Place.Crosses

variable {first middle last : Place}

theorem nil (place : Place) : place.Crosses [] place := ⟨rfl, fun _ => rfl⟩

theorem cons {character : Char} {text : List Char} (hwhole : first.separates character = false)
    (hrest : (first.step character).Crosses text last) : first.Crosses (character :: text) last where
  ends := hrest.ends
  keeps rest := by
    rw [List.cons_append, cut, hrest.keeps, hwhole, if_neg Bool.false_ne_true]
    rfl

theorem append {front back : List Char} (hfront : first.Crosses front middle)
    (hback : middle.Crosses back last) : first.Crosses (front ++ back) last where
  ends := by rw [List.foldl_append, hfront.ends, hback.ends]
  keeps rest := by
    rw [List.append_assoc, hfront.keeps, hback.keeps, attachAll, attachAll, attachAll, List.foldr_append]

end Place.Crosses

/-- A character that opens and closes nothing and separates nothing. -/
def isPlain (character : Char) : Bool :=
  !isQuote character && character ≠ '[' && character ≠ ']' && character ≠ ','

theorem Place.separates_of_ne {character : Char} (hcomma : character ≠ ',') (place : Place) :
    place.separates character = false := by
  simp [separates, hcomma]

theorem crosses_plain {text : List Char} (hplain : ∀ character ∈ text, isPlain character)
    (depth : Nat) : (Place.outside depth).Crosses text (.outside depth) := by
  induction text with
  | nil => exact .nil _
  | cons character rest ih =>
      have hfirst := hplain character List.mem_cons_self
      simp only [isPlain, Bool.and_eq_true, Bool.not_eq_true', decide_eq_true_eq] at hfirst
      obtain ⟨⟨⟨hquote, hopens⟩, hcloses⟩, hcomma⟩ := hfirst
      have hstep : (Place.outside depth).step character = .outside depth := by
        simp [Place.step, hquote, hopens, hcloses]
      refine .cons (Place.separates_of_ne hcomma _) ?_
      rw [hstep]
      exact ih fun other hother => hplain other (List.mem_cons_of_mem _ hother)

/-! ## Joined items -/

/-- Inside of brackets commas make no cut. -/
theorem crosses_intercalate {items : List (List Char)} {depth : Nat}
    (hitems : ∀ item ∈ items, (Place.outside (depth + 1)).Crosses item (.outside (depth + 1))) :
    (Place.outside (depth + 1)).Crosses ([',', ' '].intercalate items) (.outside (depth + 1)) := by
  have hcomma : (Place.outside (depth + 1)).Crosses [',', ' '] (.outside (depth + 1)) :=
    .cons rfl (.cons rfl (.nil _))
  induction items with
  | nil => exact .nil _
  | cons first rest ih =>
      obtain ⟨hfirst, hrest⟩ := List.forall_mem_cons.mp hitems
      cases rest with
      | nil => rwa [List.intercalate_singleton]
      | cons second rest =>
          rw [List.intercalate_cons_cons]
          exact (hfirst.append hcomma).append (ih hrest)

/-- The pieces of written items that are joined are the items, with a blank in front of all but the first. -/
theorem cut_intercalate {first : List Char} {rest : List (List Char)}
    (hitems : ∀ item ∈ first :: rest, (Place.outside 0).Crosses item (.outside 0)) :
    cut (.outside 0) ([',', ' '].intercalate (first :: rest)) = first :: rest.map (' ' :: ·) := by
  induction rest generalizing first with
  | nil =>
      have hkeeps := (hitems first List.mem_cons_self).keeps []
      rw [List.append_nil] at hkeeps
      rw [List.intercalate_singleton, hkeeps, cut, attachAll_cons, List.append_nil, List.map_nil]
  | cons second rest ih =>
      obtain ⟨hfirst, hrest⟩ := List.forall_mem_cons.mp hitems
      have hcut (text : List Char) : cut (.outside 0) (',' :: ' ' :: text) =
          [] :: attachFirst ' ' (cut (.outside 0) text) := rfl
      rw [List.intercalate_cons_cons, List.append_assoc, hfirst.keeps, List.cons_append,
        List.singleton_append, hcut, ih hrest, attachAll_cons, attachFirst, List.append_nil,
        List.map_cons]

theorem foldl_intercalate {items : List (List Char)}
    (hitems : ∀ item ∈ items, (Place.outside 0).Crosses item (.outside 0)) :
    ([',', ' '].intercalate items).foldl Place.step (.outside 0) = .outside 0 := by
  induction items with
  | nil => rfl
  | cons first rest ih =>
      obtain ⟨hfirst, hrest⟩ := List.forall_mem_cons.mp hitems
      cases rest with
      | nil => rw [List.intercalate_singleton, hfirst.ends]
      | cons second rest =>
          rw [List.intercalate_cons_cons, List.foldl_append, List.foldl_append, hfirst.ends]
          exact ih hrest

theorem splitItems_intercalate {first : List Char} {rest : List (List Char)}
    (hitems : ∀ item ∈ first :: rest, (Place.outside 0).Crosses item (.outside 0)) :
    splitItems ([',', ' '].intercalate (first :: rest)) = some (first :: rest.map (' ' :: ·)) := by
  rw [splitItems, foldl_intercalate hitems, cut_intercalate hitems]
  rfl

end ObjectModel.Config
