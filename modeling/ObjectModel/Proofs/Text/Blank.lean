import ObjectModel.Text.Blank

/-! # Texts without blanks at their ends

Taking the blanks off changes nothing in a text whose ends are not blank, and what is left of any text is such a text.
-/

namespace ObjectModel.Text

variable {text : List Char} {character : Char}

/-- Neither the first nor the last character of a text is blank. -/
structure IsTrimmed (text : List Char) : Prop where
  head : ∀ character ∈ text.head?, isBlank character = false
  last : ∀ character ∈ text.getLast?, isBlank character = false

/-- A text that holds no blanks at all. -/
theorem IsTrimmed.of_forall (hsolid : ∀ character ∈ text, isBlank character = false) :
    IsTrimmed text :=
  ⟨fun _ hhead => hsolid _ (List.mem_of_head? hhead),
    fun _ hlast => hsolid _ (List.mem_of_getLast? hlast)⟩

theorem isTrimmed_append {front back : List Char} (hfront : IsTrimmed front) (hback : IsTrimmed back)
    (hfirst : front ≠ []) (hlast : back ≠ []) (middle : List Char) :
    IsTrimmed (front ++ middle ++ back) := by
  constructor
  · rw [List.append_assoc, List.head?_append, Option.or_of_isSome (List.isSome_head?.mpr hfirst)]
    exact hfront.head
  · rw [List.getLast?_append, Option.or_of_isSome (List.getLast?_isSome.mpr hlast)]
    exact hback.last

theorem dropWhile_of_head (hhead : ∀ character ∈ text.head?, isBlank character = false) :
    text.dropWhile isBlank = text := by
  cases text with
  | nil => rfl
  | cons first rest => rw [List.dropWhile_cons, hhead first rfl]; rfl

theorem trimEnd_of_last (hlast : ∀ character ∈ text.getLast?, isBlank character = false) :
    trimEnd text = text := by
  rw [trimEnd, dropWhile_of_head, List.reverse_reverse]
  rwa [List.head?_reverse]

theorem trim_of_isTrimmed (htrimmed : IsTrimmed text) : trim text = text := by
  rw [trim, dropWhile_of_head htrimmed.head, trimEnd_of_last htrimmed.last]

theorem head_dropWhile (text : List Char) :
    ∀ character ∈ (text.dropWhile isBlank).head?, isBlank character = false := by
  intro character hcharacter
  have hhead := List.head?_dropWhile_not isBlank text
  rw [Option.mem_def.mp hcharacter] at hhead
  exact hhead

/-- What is left at the end is the beginning of the text. -/
theorem trimEnd_prefix (text : List Char) : trimEnd text <+: text := by
  rw [trimEnd, ← List.reverse_suffix, List.reverse_reverse]
  exact List.dropWhile_suffix isBlank

/-- Only blanks are taken off the end. -/
theorem exists_blanks (text : List Char) :
    ∃ blanks, text = trimEnd text ++ blanks ∧ ∀ character ∈ blanks, isBlank character := by
  refine ⟨(text.reverse.takeWhile isBlank).reverse, ?_, ?_⟩
  · rw [trimEnd, ← List.reverse_append, List.takeWhile_append_dropWhile, List.reverse_reverse]
  · intro character hcharacter
    exact List.all_eq_true.mp List.all_takeWhile character (List.mem_reverse.mp hcharacter)

theorem isTrimmed_trim (text : List Char) : IsTrimmed (trim text) := by
  constructor
  · intro character hcharacter
    obtain ⟨rest, hrest⟩ := trimEnd_prefix (text.dropWhile isBlank)
    apply head_dropWhile text
    rw [← hrest, List.head?_append, ← trim, Option.mem_def.mp hcharacter]
    rfl
  · intro character hcharacter
    rw [trim, trimEnd, List.getLast?_reverse] at hcharacter
    exact head_dropWhile _ character hcharacter

/-- A blank in front is taken off. -/
theorem trim_cons (hblank : isBlank character) (text : List Char) :
    trim (character :: text) = trim text := by
  rw [trim, trim, List.dropWhile_cons, if_pos hblank]

/-- A blank at the end is taken off. -/
theorem trim_concat (hblank : isBlank character) (text : List Char) :
    trim (text ++ [character]) = trim text := by
  have hend (front : List Char) : trimEnd (front ++ [character]) = trimEnd front := by
    rw [trimEnd, List.reverse_concat, List.dropWhile_cons, if_pos hblank, trimEnd]
  rw [trim, trim, List.dropWhile_append]
  split
  next hempty =>
    rw [List.isEmpty_iff.mp hempty, List.dropWhile_cons, if_pos hblank, List.dropWhile_nil]
  · exact hend _

end ObjectModel.Text
