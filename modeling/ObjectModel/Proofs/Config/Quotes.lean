import Mathlib.Data.List.Basic
import Mathlib.Data.List.Induction
import ObjectModel.Config.Items

/-! # Quotes and brackets of a text

What it means that a text ends outside of quotes, and inside how many brackets, is said here by the way the text is put
together, without a reader that goes through it. The reader of lists stands outside of quotes just after these texts, and
it finds a quote open at the end just if the last quote that was opened is never closed.
-/

namespace ObjectModel.Config

/-! ## How texts are put together -/

/-- What can stand between two quotes of a kind: characters other than this quote and the backslash, and backslashes with
any character after each of them. -/
inductive Enclosed (quote : Char) : List Char → Prop
  | nil : Enclosed quote []
  | plain {character : Char} {rest : List Char} (hquote : character ≠ quote) (hslash : character ≠ '\\')
      (hrest : Enclosed quote rest) : Enclosed quote (character :: rest)
  | escape {character : Char} {rest : List Char} (hrest : Enclosed quote rest) :
      Enclosed quote ('\\' :: character :: rest)

/-- The text ends outside of quotes, inside the given number of brackets. Outside of quotes a backslash is a character like
others. -/
inductive Outside : List Char → Nat → Prop
  | nil : Outside [] 0
  | plain {front : List Char} {depth : Nat} {character : Char} (hfront : Outside front depth)
      (hquote : isQuote character = false) (hopens : character ≠ '[') (hcloses : character ≠ ']') :
      Outside (front ++ [character]) depth
  | opens {front : List Char} {depth : Nat} (hfront : Outside front depth) :
      Outside (front ++ ['[']) (depth + 1)
  | closes {front : List Char} {depth : Nat} (hfront : Outside front (depth + 1)) :
      Outside (front ++ [']']) depth
  /-- There is no bracket to be closed. -/
  | stray {front : List Char} (hfront : Outside front 0) : Outside (front ++ [']']) 0
  | quoted {front body : List Char} {depth : Nat} {quote : Char} (hfront : Outside front depth)
      (hquote : isQuote quote) (hbody : Enclosed quote body) :
      Outside (front ++ quote :: (body ++ [quote])) depth

/-- Every quote that is opened is closed. -/
def Balanced (text : List Char) : Prop := ∃ depth, Outside text depth

/-- The last quote that is opened is never closed. -/
def LeavesOpen (text : List Char) : Prop :=
  ∃ front quote rest, text = front ++ quote :: rest ∧ Balanced front ∧ isQuote quote ∧
    ∀ body back, Enclosed quote body → rest ≠ body ++ quote :: back

variable {quote character : Char} {text front body : List Char} {depth : Nat}

theorem ne_slash_of_isQuote (hquote : isQuote quote) : quote ≠ '\\' := by
  rintro rfl
  exact absurd hquote (by decide)

namespace Enclosed

theorem append {back : List Char} (hbody : Enclosed quote body) (hback : Enclosed quote back) :
    Enclosed quote (body ++ back) := by
  induction hbody with
  | nil => exact hback
  | plain hquote hslash _ ih => exact .plain hquote hslash ih
  | escape _ ih => exact .escape ih

theorem tail (hslash : character ≠ '\\') (hbody : Enclosed quote (character :: body)) :
    Enclosed quote body := by
  cases hbody with
  | plain _ _ hrest => exact hrest
  | escape => exact absurd rfl hslash

/-- The first quote that is not escaped ends what is enclosed. -/
theorem ne_append {back : List Char} (hquote : isQuote quote) (hbody : Enclosed quote body)
    {inner : List Char} (hinner : Enclosed quote inner) : inner ≠ body ++ quote :: back := by
  rintro rfl
  induction hbody with
  | nil =>
      cases hinner with
      | plain hother => exact hother rfl
      | escape => exact ne_slash_of_isQuote hquote rfl
  | plain _ hslash _ ih => exact ih (hinner.tail hslash)
  | escape _ ih =>
      rw [List.cons_append, List.cons_append] at hinner
      cases hinner with
      | plain _ hslash => exact hslash rfl
      | escape hrest => exact ih hrest

/-- Between two quotes the reader stays inside of them. -/
theorem foldl (hbody : Enclosed quote body) :
    body.foldl Place.step (.inside quote depth) = .inside quote depth := by
  induction hbody with
  | nil => rfl
  | plain hquote hslash _ ih => rwa [List.foldl_cons, Place.step, if_neg hslash, if_neg hquote]
  | escape _ ih => exact ih

end Enclosed

/-! ## Where the reader stands -/

theorem Place.step_of_isQuote (hquote : isQuote quote) :
    (Place.outside depth).step quote = .inside quote depth := if_pos hquote

theorem Place.step_of_closing (hquote : isQuote quote) :
    (Place.inside quote depth).step quote = .outside depth := by
  rw [step, if_neg (ne_slash_of_isQuote hquote), if_pos rfl]

/-- After a text that ends outside of quotes the reader stands there. -/
theorem Outside.foldl (houtside : Outside text depth) :
    text.foldl Place.step (.outside 0) = .outside depth := by
  induction houtside with
  | nil => rfl
  | plain _ hquote hopens hcloses ih =>
      simp [List.foldl_append, ih, Place.step, hquote, hopens, hcloses]
  | opens _ ih | closes _ ih | stray _ ih =>
      rw [List.foldl_append, ih]
      rfl
  | quoted _ hquote hbody ih =>
      rw [List.foldl_append, ih, List.foldl_cons, Place.step_of_isQuote hquote, List.foldl_append,
        hbody.foldl]
      exact Place.step_of_closing hquote

/-- What the reader has read when it stands at a place. -/
def Place.Follows (text : List Char) : Place → Prop
  | .outside depth => Outside text depth
  | .inside quote depth =>
      ∃ front body, text = front ++ quote :: body ∧ Outside front depth ∧ isQuote quote ∧ Enclosed quote body
  | .escaped quote depth =>
      ∃ front body, text = front ++ quote :: (body ++ ['\\']) ∧ Outside front depth ∧ isQuote quote ∧
        Enclosed quote body

theorem Place.Follows.step {place : Place} (hfollows : place.Follows text) (character : Char) :
    (place.step character).Follows (text ++ [character]) := by
  cases place with
  | outside depth =>
      have houtside : Outside text depth := hfollows
      simp only [Place.step]
      split
      next hquote => exact ⟨text, [], rfl, houtside, hquote, .nil⟩
      next hquote =>
        split
        next hopens =>
          subst hopens
          exact houtside.opens
        next hopens =>
          split
          next hcloses =>
            subst hcloses
            cases depth with
            | zero => exact houtside.stray
            | succ depth => exact houtside.closes
          next hcloses => exact houtside.plain ((Bool.not_eq_true _).mp hquote) hopens hcloses
  | inside quote depth =>
      obtain ⟨front, body, rfl, hfront, hquote, hbody⟩ := hfollows
      simp only [Place.step]
      split
      next hslash =>
        subst hslash
        exact ⟨front, body, by simp, hfront, hquote, hbody⟩
      next hslash =>
        split
        next hcloses =>
          subst hcloses
          rw [List.append_assoc]
          exact hfront.quoted hquote hbody
        next hother =>
          exact ⟨front, body ++ [character], by simp, hfront, hquote,
            hbody.append (.plain hother hslash .nil)⟩
  | escaped quote depth =>
      obtain ⟨front, body, rfl, hfront, hquote, hbody⟩ := hfollows
      exact ⟨front, body ++ ['\\', character], by simp, hfront, hquote, hbody.append (.escape .nil)⟩

/-- Where the reader stands tells how the text that it has read is put together. -/
theorem follows_foldl (text : List Char) : (text.foldl Place.step (.outside 0)).Follows text := by
  induction text using List.reverseRecOn with
  | nil => exact .nil
  | append_singleton front character ih =>
      rw [List.foldl_append]
      exact ih.step character

theorem outside_iff : Outside text depth ↔ text.foldl Place.step (.outside 0) = .outside depth := by
  refine ⟨Outside.foldl, ?_⟩
  intro hplace
  have hfollows := follows_foldl text
  rwa [hplace] at hfollows

theorem balanced_iff : Balanced text ↔ (text.foldl Place.step (.outside 0)).isClosed := by
  constructor
  · rintro ⟨depth, houtside⟩
    rw [houtside.foldl]
    rfl
  · intro hclosed
    cases hplace : text.foldl Place.step (.outside 0) with
    | outside depth => exact ⟨depth, outside_iff.mpr hplace⟩
    | inside | escaped =>
        rw [hplace] at hclosed
        cases hclosed

/-- A reader that starts inside of quotes and ends outside has come to the closing quote. -/
theorem exists_enclosed (hclosed : (text.foldl Place.step (.inside quote depth)).isClosed) :
    ∃ body back, text = body ++ quote :: back ∧ Enclosed quote body := by
  induction text using List.twoStepInduction with
  | nil => cases hclosed
  | singleton character =>
      rw [List.foldl_cons, List.foldl_nil, Place.step] at hclosed
      split at hclosed
      · cases hclosed
      next hslash =>
        split at hclosed
        next hcloses => exact ⟨[], [], by rw [hcloses]; rfl, .nil⟩
        · cases hclosed
  | cons_cons first second rest ihrest ihtail =>
      rw [List.foldl_cons, Place.step] at hclosed
      split at hclosed
      next hslash =>
        -- the character after a backslash is passed over
        obtain ⟨body, back, rfl, hbody⟩ := ihrest hclosed
        exact ⟨'\\' :: second :: body, back, by rw [hslash]; rfl, hbody.escape⟩
      next hslash =>
        split at hclosed
        next hcloses => exact ⟨[], second :: rest, by rw [hcloses]; rfl, .nil⟩
        next hother =>
          obtain ⟨body, back, htail, hbody⟩ := ihtail second hclosed
          exact ⟨first :: body, back, by rw [htail]; rfl, hbody.plain hother hslash⟩

theorem leavesOpen_iff : LeavesOpen text ↔ ¬ Balanced text := by
  constructor
  · rintro ⟨front, quote, rest, rfl, ⟨depth, hfront⟩, hquote, hnever⟩ hbalanced
    rw [balanced_iff, List.foldl_append, hfront.foldl, List.foldl_cons, Place.step_of_isQuote hquote] at hbalanced
    obtain ⟨body, back, hrest, hbody⟩ := exists_enclosed hbalanced
    exact hnever body back hbody hrest
  · intro hopen
    have hfollows := follows_foldl text
    cases hplace : text.foldl Place.step (.outside 0) with
    | outside depth =>
        exact absurd ⟨depth, outside_iff.mpr hplace⟩ hopen
    | inside quote depth =>
        rw [hplace] at hfollows
        obtain ⟨front, body, rfl, hfront, hquote, hbody⟩ := hfollows
        exact ⟨front, quote, body, rfl, ⟨depth, hfront⟩, hquote, fun _ _ hinner => hinner.ne_append hquote hbody⟩
    | escaped quote depth =>
        rw [hplace] at hfollows
        obtain ⟨front, body, rfl, hfront, hquote, hbody⟩ := hfollows
        refine ⟨front, quote, body ++ ['\\'], rfl, ⟨depth, hfront⟩, hquote, ?_⟩
        intro inner back hinner hsplit
        -- the quote would stand before the backslash at the end
        rcases List.eq_nil_or_concat' back with rfl | ⟨back, last, rfl⟩
        · exact ne_slash_of_isQuote hquote (List.cons.inj (List.append_inj_right' hsplit rfl)).1.symm
        · rw [← List.cons_append, ← List.append_assoc] at hsplit
          exact hinner.ne_append hquote hbody (List.append_inj_left' hsplit rfl)

/-! ## Parts of balanced texts -/

/-- A character that is no quote closes none. -/
theorem Balanced.of_concat (hquote : isQuote character = false) (hbalanced : Balanced (text ++ [character])) :
    Balanced text := by
  rw [balanced_iff, List.foldl_append] at hbalanced
  have hfollows := follows_foldl text
  cases hplace : text.foldl Place.step (.outside 0) with
  | outside depth => exact ⟨depth, outside_iff.mpr hplace⟩
  | inside quote depth =>
      rw [hplace] at hfollows hbalanced
      obtain ⟨-, -, -, -, hopened, -⟩ := hfollows
      have hother : character ≠ quote := by
        rintro rfl
        exact absurd (hquote.symm.trans hopened) (by decide)
      rw [List.foldl_cons, Place.step, if_neg hother] at hbalanced
      split at hbalanced <;> cases hbalanced
  | escaped quote depth =>
      rw [hplace] at hbalanced
      cases hbalanced

theorem Balanced.of_append {back : List Char} (hback : ∀ character ∈ back, isQuote character = false)
    (hbalanced : Balanced (text ++ back)) : Balanced text := by
  induction back using List.reverseRecOn with
  | nil => rwa [List.append_nil] at hbalanced
  | append_singleton back last ih =>
      rw [← List.append_assoc] at hbalanced
      exact ih (fun character hcharacter => hback character (List.mem_append_left _ hcharacter))
        (hbalanced.of_concat (hback last (List.mem_append_right _ List.mem_cons_self)))

/-- The quote inside of which a place is, and whether a backslash stands just before it. -/
def Place.openQuote : Place → Option (Char × Bool)
  | .outside _ => none
  | .inside quote _ => some (quote, false)
  | .escaped quote _ => some (quote, true)

/-- The open quote after one more character. -/
def openAfter : Option (Char × Bool) → Char → Option (Char × Bool)
  | none, character => if isQuote character then some (character, false) else none
  | some (quote, false), character =>
      if character = '\\' then some (quote, true) else if character = quote then none else some (quote, false)
  | some (quote, true), _ => some (quote, false)

/-- Which quote is open does not depend on the brackets. -/
theorem Place.openQuote_step (place : Place) (character : Char) :
    (place.step character).openQuote = openAfter place.openQuote character := by
  cases place with
  | outside depth =>
      rw [step, openQuote, openAfter]
      split
      · rfl
      · split
        · rfl
        · split <;> rfl
  | inside quote depth =>
      rw [step, openQuote, openAfter]
      split
      · rfl
      · split <;> rfl
  | escaped quote depth => rfl

theorem balanced_iff_openAfter : Balanced text ↔ text.foldl openAfter none = none := by
  have hopen : text.foldl openAfter (Place.outside 0).openQuote = (text.foldl Place.step (.outside 0)).openQuote :=
    List.foldl_hom Place.openQuote fun place character => (Place.openQuote_step place character).symm
  rw [balanced_iff, show none = (Place.outside 0).openQuote from rfl, hopen]
  cases text.foldl Place.step (.outside 0) <;> simp [Place.isClosed, Place.openQuote]

/-- A text from which a first character is taken that is no quote stays balanced. -/
theorem Balanced.of_cons (hquote : isQuote character = false) (hbalanced : Balanced (character :: text)) :
    Balanced text := by
  rw [balanced_iff_openAfter, List.foldl_cons, openAfter, hquote] at hbalanced
  exact balanced_iff_openAfter.mpr hbalanced

end ObjectModel.Config
