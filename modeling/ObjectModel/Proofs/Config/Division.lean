import ObjectModel.Proofs.Config.Quotes
import ObjectModel.Proofs.Config.Render

/-! # Lists are divided into items

A list is cut at the commas that stand outside of quotes and inside of no brackets, at all of them and nowhere else, and
nothing of it is lost. Each item alone has its quotes closed again, and so has what stands between its brackets. So reading
a list comes down to reading shorter texts, until there are no more lists.
-/

namespace ObjectModel.Config

open Text

variable {text front back item : List Char} {items pieces : List (List Char)} {character : Char}
  {place : Place}

/-! ## Joined pieces -/

/-- Several items are joined by commas, one of which stands between the front and the back. -/
def JoinedAt (items : List (List Char)) (front back : List Char) : Prop :=
  ∃ before after, before ≠ [] ∧ after ≠ [] ∧ items = before ++ after ∧
    [','].intercalate before = front ∧ [','].intercalate after = back

theorem intercalate_attachFirst (character : Char) (hpieces : pieces ≠ []) :
    [','].intercalate (attachFirst character pieces) = character :: [','].intercalate pieces := by
  cases pieces with
  | nil => exact absurd rfl hpieces
  | cons first rest => cases rest <;> simp [attachFirst]

theorem Place.separates_iff : place.separates character ↔ place = .outside 0 ∧ character = ',' := by
  simp [separates]

/-- The pieces of a text joined by commas are the text. -/
theorem intercalate_cut (place : Place) (text : List Char) : [','].intercalate (cut place text) = text := by
  induction text generalizing place with
  | nil => rfl
  | cons character rest ih =>
      have hpieces := cut_ne_nil (place.step character) rest
      rw [cut]
      split
      next hseparates =>
        obtain ⟨-, rfl⟩ := Place.separates_iff.mp hseparates
        rw [List.intercalate_cons_of_ne_nil hpieces, ih]
        rfl
      next => rw [intercalate_attachFirst character hpieces, ih]

theorem joinedAt_nil_cons (hpieces : pieces ≠ []) : JoinedAt ([] :: pieces) front back ↔
    (front = [] ∧ back = [','].intercalate pieces) ∨
      ∃ rest, front = ',' :: rest ∧ JoinedAt pieces rest back := by
  constructor
  · rintro ⟨before, after, hbefore, hafter, hsplit, rfl, rfl⟩
    obtain ⟨first, before, rfl⟩ := List.exists_cons_of_ne_nil hbefore
    obtain ⟨rfl, rfl⟩ := List.cons.inj hsplit
    by_cases hlast : before = []
    · subst hlast
      exact .inl ⟨rfl, rfl⟩
    · refine .inr ⟨_, ?_, before, after, hlast, hafter, rfl, rfl, rfl⟩
      rw [List.intercalate_cons_of_ne_nil hlast]
      rfl
  · rintro (⟨rfl, rfl⟩ | ⟨_, rfl, before, after, hbefore, hafter, rfl, rfl, rfl⟩)
    · exact ⟨[[]], pieces, List.cons_ne_nil _ _, hpieces, rfl, rfl, rfl⟩
    · refine ⟨[] :: before, after, List.cons_ne_nil _ _, hafter, rfl, ?_, rfl⟩
      rw [List.intercalate_cons_of_ne_nil hbefore]
      rfl

theorem joinedAt_attachFirst (hpieces : pieces ≠ []) : JoinedAt (attachFirst character pieces) front back ↔
    ∃ rest, front = character :: rest ∧ JoinedAt pieces rest back := by
  constructor
  · rintro ⟨before, after, hbefore, hafter, hsplit, rfl, rfl⟩
    obtain ⟨first, pieces, rfl⟩ := List.exists_cons_of_ne_nil hpieces
    obtain ⟨head, before, rfl⟩ := List.exists_cons_of_ne_nil hbefore
    obtain ⟨rfl, rfl⟩ := List.cons.inj hsplit
    exact ⟨_, intercalate_attachFirst character (List.cons_ne_nil first before), first :: before, after,
      List.cons_ne_nil _ _, hafter, rfl, rfl, rfl⟩
  · rintro ⟨_, rfl, before, after, hbefore, hafter, rfl, rfl, rfl⟩
    obtain ⟨first, before, rfl⟩ := List.exists_cons_of_ne_nil hbefore
    exact ⟨(character :: first) :: before, after, List.cons_ne_nil _ _, hafter, rfl,
      intercalate_attachFirst character hbefore, rfl⟩

/-! ## Where a text is cut -/

/-- The pieces of a text are joined at the commas at which the reader is outside of quotes and brackets. -/
theorem joinedAt_cut_iff : JoinedAt (cut place text) front back ↔
    text = front ++ ',' :: back ∧ front.foldl Place.step place = .outside 0 := by
  induction text generalizing place front with
  | nil =>
      refine iff_of_false ?_ (by simp)
      rintro ⟨before, after, hbefore, hafter, hsplit, -, -⟩
      rw [cut] at hsplit
      have hlength := congrArg List.length hsplit
      have := List.length_pos_of_ne_nil hbefore
      have := List.length_pos_of_ne_nil hafter
      rw [List.length_append, List.length_singleton] at hlength
      omega
  | cons character rest ih =>
      have hpieces := cut_ne_nil (place.step character) rest
      -- a comma that is not at the very front is one of the rest
      have hlater (head : Char) (front : List Char) :
          (∃ tail, head :: front = character :: tail ∧
            JoinedAt (cut (place.step character) rest) tail back) ↔
          character :: rest = head :: front ++ ',' :: back ∧
            (head :: front).foldl Place.step place = .outside 0 := by
        constructor
        · rintro ⟨_, hsame, hjoined⟩
          obtain ⟨rfl, rfl⟩ := List.cons.inj hsame
          obtain ⟨rfl, hplace⟩ := ih.mp hjoined
          exact ⟨rfl, hplace⟩
        · rintro ⟨hsame, hplace⟩
          obtain ⟨rfl, rfl⟩ := List.cons.inj hsame
          exact ⟨front, rfl, ih.mpr ⟨rfl, hplace⟩⟩
      rw [cut]
      split
      next hseparates =>
        obtain ⟨rfl, rfl⟩ := Place.separates_iff.mp hseparates
        rw [joinedAt_nil_cons hpieces, intercalate_cut]
        cases front with
        | nil => simp [eq_comm]
        | cons head front => exact (or_iff_right fun hfront => List.cons_ne_nil _ _ hfront.1).trans (hlater head front)
      next hwhole =>
        rw [joinedAt_attachFirst hpieces]
        cases front with
        | nil =>
            refine iff_of_false ?_ ?_
            · rintro ⟨_, hfront, -⟩
              cases hfront
            · rintro ⟨hsame, rfl⟩
              exact hwhole (Place.separates_iff.mpr ⟨rfl, (List.cons.inj hsame).1⟩)
        | cons head front => exact hlater head front

/-- A reader that stands at a place comes through an item without a cut, and then no quote is open. -/
def Place.Completes (place : Place) (item : List Char) : Prop :=
  ∃ last, place.Crosses item last ∧ last.isClosed

/-- The first piece of a text is read from where the text is read, and each other piece from outside of quotes and
brackets. -/
theorem completes_cut {first : List Char} (hclosed : (text.foldl Place.step place).isClosed)
    (hcut : cut place text = first :: items) :
    place.Completes first ∧ ∀ item ∈ items, (Place.outside 0).Completes item := by
  induction text generalizing place first items with
  | nil =>
      obtain ⟨rfl, rfl⟩ := List.cons.inj hcut
      exact ⟨⟨place, .nil _, hclosed⟩, nofun⟩
  | cons character rest ih =>
      rw [cut] at hcut
      obtain ⟨head, tail, hrest⟩ := List.exists_cons_of_ne_nil (cut_ne_nil (place.step character) rest)
      obtain ⟨hhead, htail⟩ := ih hclosed hrest
      rw [hrest] at hcut
      split at hcut
      next hseparates =>
        obtain ⟨rfl, rfl⟩ := Place.separates_iff.mp hseparates
        obtain ⟨rfl, rfl⟩ := List.cons.inj hcut
        exact ⟨⟨_, .nil _, rfl⟩, List.forall_mem_cons.mpr ⟨hhead, htail⟩⟩
      next hwhole =>
        obtain ⟨rfl, rfl⟩ := List.cons.inj hcut
        obtain ⟨last, hcrosses, hlast⟩ := hhead
        exact ⟨⟨last, .cons ((Bool.not_eq_true _).mp hwhole) hcrosses, hlast⟩, htail⟩

theorem splitItems_eq_none_iff : splitItems text = none ↔ LeavesOpen text := by
  rw [leavesOpen_iff, balanced_iff, splitItems]
  split
  next hclosed => exact iff_of_false (Option.some_ne_none _) (not_not.mpr hclosed)
  next hopen => exact iff_of_true rfl hopen

theorem splitItems_eq_some_iff :
    splitItems text = some items ↔ Balanced text ∧ cut (.outside 0) text = items := by
  rw [balanced_iff, splitItems]
  split
  next hclosed => simp [hclosed]
  next hopen => simp [hopen]

/-- An item alone is not divided further. -/
theorem splitItems_item (hitems : splitItems text = some items) (hitem : item ∈ items) :
    splitItems item = some [item] := by
  obtain ⟨hbalanced, rfl⟩ := splitItems_eq_some_iff.mp hitems
  obtain ⟨first, rest, hcut⟩ := List.exists_cons_of_ne_nil (cut_ne_nil (.outside 0) text)
  obtain ⟨hfirst, hrest⟩ := completes_cut (balanced_iff.mp hbalanced) hcut
  rw [hcut] at hitem
  obtain ⟨last, hcrosses, hlast⟩ : (Place.outside 0).Completes item := by
    rcases List.mem_cons.mp hitem with rfl | hitem
    · exact hfirst
    · exact hrest item hitem
  refine splitItems_eq_some_iff.mpr ⟨balanced_iff.mpr (hcrosses.ends ▸ hlast), ?_⟩
  have hkeeps := hcrosses.keeps []
  rwa [List.append_nil, cut, attachAll_cons, List.append_nil] at hkeeps

/-! ## Reading items -/

theorem isQuote_of_isBlank (hblank : isBlank character) : isQuote character = false := by
  by_contra hquote
  have hcases : character = '\"' ∨ character = '\x27' := by simpa [isQuote, or_iff_not_imp_left] using hquote
  rcases hcases with rfl | rfl <;> exact absurd hblank (by decide)

/-- Taking the blanks off leaves a text balanced. -/
theorem balanced_trim (hbalanced : Balanced text) : Balanced (trim text) := by
  have hfront : Balanced (text.dropWhile isBlank) := by
    induction text with
    | nil => exact hbalanced
    | cons first rest ih =>
        rw [List.dropWhile_cons]
        split
        next hblank => exact ih (hbalanced.of_cons (isQuote_of_isBlank hblank))
        next => exact hbalanced
  obtain ⟨blanks, hsplit, hblanks⟩ := exists_blanks (text.dropWhile isBlank)
  rw [hsplit] at hfront
  exact hfront.of_append fun character hcharacter => isQuote_of_isBlank (hblanks character hcharacter)

/-- What stands between the brackets of a balanced text is balanced. -/
theorem balanced_bracketed {rest inner : List Char} (hbalanced : Balanced ('[' :: rest))
    (hinner : bracketed rest = some inner) : Balanced inner := by
  rw [bracketed] at hinner
  split at hinner
  next hlast =>
    obtain rfl := Option.some.inj hinner
    obtain ⟨front, rfl⟩ := List.getLast?_eq_some_iff.mp hlast
    rw [List.dropLast_concat]
    have hrest : Balanced (front ++ [']']) := hbalanced.of_cons rfl
    exact balanced_trim (hrest.of_concat rfl)
  next => cases hinner

/-- The value of a text, if the values of the items of a list are read in a given way. -/
def readWith (read : List Char → Option Raw) : List Char → Option Raw
  | [] => some (readWord [])
  | first :: rest =>
      if isQuote first then (readQuoted first rest).map fun content => .text (String.ofList content)
      else if first = '[' then do
        let inner ← bracketed rest
        if inner = [] then some (.list [])
        else do
          let items ← splitItems inner
          (items.mapM fun item => read (trim item)).map .list
      else some (readWord (first :: rest))

/-- A text that is a list asks for the values of its items. -/
inductive Asks (text : List Char) : List Char → Prop
  | item {rest inner item : List Char} {items : List (List Char)} (htext : text = '[' :: rest)
      (hinner : bracketed rest = some inner) (hthere : inner ≠ []) (hitems : splitItems inner = some items)
      (hitem : item ∈ items) : Asks text (trim item)

theorem length_add_one_le_extent (hitem : item ∈ items) : item.length + 1 ≤ extent items := by
  induction items with
  | nil => cases hitem
  | cons first rest ih =>
      rcases List.mem_cons.mp hitem with rfl | hrest
      · exact length_lt_extent item rest
      · exact Nat.le_of_lt (Nat.lt_of_le_of_lt (ih hrest) (extent_lt_extent first rest))

theorem Asks.length_lt {asked : List Char} (hasks : Asks text asked) : asked.length < text.length := by
  obtain @⟨rest, inner, item, items, rfl, hinner, -, hitems, hitem⟩ := hasks
  calc (trim item).length ≤ item.length := length_trim_le item
    _ < extent items := length_add_one_le_extent hitem
    _ = inner.length + 1 := extent_splitItems hitems
    _ ≤ rest.length := length_bracketed hinner
    _ < ('[' :: rest).length := Nat.lt_succ_self _

theorem readItems_eq_mapM (items : List (List Char)) :
    readItems items = items.mapM fun item => readValue (trim item) := by
  induction items with
  | nil =>
      rw [readItems]
      rfl
  | cons first rest ih => rw [readItems, ih, List.mapM_cons]

/-- A list is read by reading its items. -/
theorem readValue_eq_readWith (text : List Char) : readValue text = readWith readValue text := by
  cases text with
  | nil => rw [readValue, readWith]
  | cons first rest =>
      rw [readValue, readWith]
      split
      · rfl
      split
      · split
        next hnone =>
          rw [hnone]
          rfl
        next hempty =>
          rw [hempty]
          rfl
        next inner hthere hinner =>
          have hfilled : ¬ inner = [] := hthere
          split
          next hnone => simp [hinner, hfilled, hnone]
          next items hitems => simp [hinner, hfilled, hitems, readItems_eq_mapM]
      · rfl

theorem mapM_congr {read other : List Char → Option Raw}
    (hsame : ∀ item ∈ items, read item = other item) : items.mapM read = items.mapM other := by
  induction items with
  | nil => rfl
  | cons first rest ih =>
      obtain ⟨hfirst, hrest⟩ := List.forall_mem_cons.mp hsame
      rw [List.mapM_cons, List.mapM_cons, hfirst, ih hrest]

/-- Only the values that a text asks for matter. -/
theorem readWith_congr {read other : List Char → Option Raw}
    (hsame : ∀ asked, Asks text asked → read asked = other asked) : readWith read text = readWith other text := by
  cases text with
  | nil => rfl
  | cons first rest =>
      rw [readWith, readWith]
      split
      · rfl
      split
      next hopens =>
        subst hopens
        cases hinner : bracketed rest with
        | none => rfl
        | some inner =>
            by_cases hthere : inner = []
            · simp [hthere]
            · cases hitems : splitItems inner with
              | none => simp [hthere, hitems]
              | some items =>
                  have hvalues : (items.mapM fun item => read (trim item)) =
                      items.mapM fun item => other (trim item) :=
                    mapM_congr fun item hitem => hsame _ (.item rfl hinner hthere hitems hitem)
                  simp [hthere, hitems, hvalues]
      · rfl

theorem wellFounded_asks : WellFounded fun asked text => Asks text asked :=
  Subrelation.wf Asks.length_lt (measure List.length).wf

/-- There is one way to read values in which lists are read by reading their items. -/
theorem eq_readValue {read : List Char → Option Raw} (hread : ∀ text, read text = readWith read text) :
    read = readValue := by
  funext text
  induction text using wellFounded_asks.induction with
  | h text ih => rw [hread, readWith_congr ih, ← readValue_eq_readWith]

/-! ## Division -/

/-- Take any text. It is not divided just if the last quote that is opened in it is never closed. Else the items joined by
commas are the text, and the commas at which they are joined are just those that stand outside of quotes and inside of no
brackets. Each item alone, with the blanks around it or without them, has its quotes closed, and it is not divided again. So
has a text with its quotes closed what stands between its brackets, which is shorter and can be divided. A list is read by
reading its items, which are shorter than the list, so that this comes to an end: there is no other way to read values that
reads lists like this. -/
theorem lists_divided_at_outer_commas (text : List Char) :
    (splitItems text = none ↔ LeavesOpen text) ∧
    (∀ items, splitItems text = some items →
      [','].intercalate items = text ∧
      (∀ front back, JoinedAt items front back ↔ text = front ++ ',' :: back ∧ Outside front 0) ∧
      ∀ item ∈ items, Balanced item ∧ Balanced (trim item) ∧ splitItems item = some [item]) ∧
    (∀ rest inner, text = '[' :: rest → bracketed rest = some inner →
      inner.length < text.length ∧ (Balanced text → ∃ items, splitItems inner = some items)) ∧
    (∀ asked, Asks text asked → asked.length < text.length) ∧
    (WellFounded fun asked text => Asks text asked) ∧
    readValue text = readWith readValue text ∧
    ∀ read : List Char → Option Raw, (∀ text, read text = readWith read text) → read = readValue := by
  refine ⟨splitItems_eq_none_iff, ?_, ?_, fun _ hasks => hasks.length_lt, wellFounded_asks,
    readValue_eq_readWith text, fun _ hread => eq_readValue hread⟩
  · intro items hitems
    refine ⟨?_, ?_, ?_⟩
    · obtain ⟨-, rfl⟩ := splitItems_eq_some_iff.mp hitems
      exact intercalate_cut _ text
    · intro front back
      obtain ⟨-, rfl⟩ := splitItems_eq_some_iff.mp hitems
      rw [joinedAt_cut_iff, outside_iff]
    · intro item hitem
      have hitself := splitItems_item hitems hitem
      obtain ⟨hbalanced, -⟩ := splitItems_eq_some_iff.mp hitself
      exact ⟨hbalanced, balanced_trim hbalanced, hitself⟩
  · rintro rest inner rfl hinner
    refine ⟨Nat.lt_succ_of_lt (length_bracketed hinner), ?_⟩
    intro hbalanced
    exact ⟨_, splitItems_eq_some_iff.mpr ⟨balanced_bracketed hbalanced hinner, rfl⟩⟩

/-- The commas after the stray bracket and after the quoted text divide this list, and those in quotes or in brackets do
not. The last item is a list itself. A quote that is left open makes it no list at all. -/
theorem divided_after_stray_bracket :
    let items := ["x]", "'a,\\',b'", "[c,\"d]\"]"].map String.toList
    splitItems "x],'a,\\',b',[c,\"d]\"]".toList = some items ∧
      Outside "x],'a,\\',b'".toList 0 ∧ Balanced "[c,\"d]\"]".toList ∧
      (∃ inside, splitItems "c,\"d]\"".toList = some inside) ∧
      Asks "[c,\"d]\"]".toList ['c'] ∧ ['c'].length < "[c,\"d]\"]".toList.length ∧
      LeavesOpen "x],'a,\\',b".toList := by
  intro items
  have hitems : splitItems "x],'a,\\',b',[c,\"d]\"]".toList = some items := by decide
  have hjoinedAt : JoinedAt items "x],'a,\\',b'".toList "[c,\"d]\"]".toList :=
    ⟨items.take 2, items.drop 2, by decide, by decide, rfl, rfl, rfl⟩
  have hinner : bracketed "c,\"d]\"]".toList = some "c,\"d]\"".toList := by decide
  have hinside : splitItems "c,\"d]\"".toList = some [['c'], "\"d]\"".toList] := by decide
  have hasks : Asks "[c,\"d]\"]".toList (trim ['c']) :=
    .item rfl hinner (by decide) hinside List.mem_cons_self
  obtain ⟨-, hdivided, -⟩ := lists_divided_at_outer_commas "x],'a,\\',b',[c,\"d]\"]".toList
  obtain ⟨-, hjoined, halone⟩ := hdivided items hitems
  obtain ⟨-, -, hnested, hshorter, -⟩ := lists_divided_at_outer_commas "[c,\"d]\"]".toList
  obtain ⟨hopen, -⟩ := lists_divided_at_outer_commas "x],'a,\\',b".toList
  obtain ⟨hbalanced, -⟩ := halone "[c,\"d]\"]".toList (by decide)
  exact ⟨hitems, ((hjoined _ _).mp hjoinedAt).2, hbalanced, (hnested _ _ rfl hinner).2 hbalanced,
    hasks, hshorter _ hasks, hopen.mp (by decide)⟩

end ObjectModel.Config
