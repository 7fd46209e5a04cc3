import ObjectModel.Config.Literal
import ObjectModel.Proofs.Config.Cutting
import ObjectModel.Proofs.Text.Blank

/-! # Literals are read back

Every literal can be written down so that it is read back as it was. Three readers look at what is written: the one
that cuts a list at its commas, the one that takes a text out of its quotes, and the one that finds out which kind of
literal there is. The first of them comes through a written literal without making a cut, whatever the literal holds, so
the other two get to see just the items of a list.
-/

namespace ObjectModel.Config

open Text

/-! ## Writing -/

/-- How a character of a text is written between quotes. -/
def escape (character : Char) : List Char :=
  if character = '\\' then ['\\', '\\']
  else if character = '\"' then ['\\', '\"']
  else if character = '\n' then ['\\', 'n']
  else if character = '\t' then ['\\', 't']
  else [character]

namespace Raw

mutual

/-- How a literal is written. -/
def render : Raw → List Char
  | .text content => '\"' :: content.toList.flatMap escape ++ ['\"']
  | .int number => (toString number).toList
  | .bool true => "true".toList
  | .bool false => "false".toList
  | .null => "nil".toList
  | .list items => '[' :: [',', ' '].intercalate (renderAll items) ++ [']']

/-- How several literals are written. -/
def renderAll : List Raw → List (List Char)
  | [] => []
  | item :: rest => item.render :: renderAll rest

end

theorem renderAll_eq_map (items : List Raw) : renderAll items = items.map render := by
  induction items with
  | nil => rw [renderAll, List.map_nil]
  | cons item rest ih => rw [renderAll, ih, List.map_cons]

/-- The integers in a literal have 64 bits. -/
inductive Fits : Raw → Prop
  | text (content : String) : Fits (.text content)
  | int {number : Int} (hlow : -0x8000000000000000 ≤ number) (hhigh : number < 0x8000000000000000) :
      Fits (.int number)
  | bool (flag : Bool) : Fits (.bool flag)
  | null : Fits .null
  | list {items : List Raw} (hitems : ∀ item ∈ items, Fits item) : Fits (.list items)

end Raw

/-! ## Quoted texts -/

theorem readQuoted_cons {quote character : Char} (hplain : character ≠ '\\') (rest : List Char) :
    readQuoted quote (character :: rest) =
      if character = quote then (if rest.all isBlank then some [] else none)
      else (readQuoted quote rest).map (character :: ·) := by
  rw [readQuoted]
  · rintro rfl
    exact absurd rfl hplain
  · rintro _ _ rfl
    exact absurd rfl hplain

/-- An escaped character is read as the one that was meant. -/
theorem readQuoted_escape (character : Char) (rest : List Char) :
    readQuoted '\"' (escape character ++ rest) = (readQuoted '\"' rest).map (character :: ·) := by
  rw [escape]
  split
  next hsame => subst hsame; rfl
  · split
    next hsame => subst hsame; rfl
    · split
      next hsame => subst hsame; rfl
      · split
        next hsame => subst hsame; rfl
        next hslash hquote _ _ =>
          rw [List.singleton_append, readQuoted_cons hslash, if_neg hquote]

theorem readQuoted_flatMap_escape (content : List Char) :
    readQuoted '\"' (content.flatMap escape ++ ['\"']) = some content := by
  induction content with
  | nil => rfl
  | cons character rest ih =>
      rw [List.flatMap_cons, List.append_assoc, readQuoted_escape, ih, Option.map_some]

/-! ## Integers -/

theorem readDigits_toDigits (number : Nat) : readDigits (Nat.toDigits 10 number) = some number := by
  have hall : (Nat.toDigits 10 number).all Char.isDigit :=
    List.all_eq_true.mpr fun _ hdigit => Nat.isDigit_of_mem_toDigits (by decide) (by decide) hdigit
  have hvalue : (Nat.toDigits 10 number).foldl
      (fun number digit => number * 10 + (digit.toNat - 48)) 0 = number := by
    have hread := @Nat.ofDigitChars_toDigits 10 number (by decide) (by decide)
    simp only [Nat.ofDigitChars, Nat.mul_comm 10] at hread
    exact hread
  rw [readDigits, if_pos (by simp [Nat.toDigits_ne_nil, hall]), hvalue]

/-- The digits of a number begin with no sign. -/
theorem toDigits_ne_cons {number : Nat} {sign : Char} (hsign : sign.isDigit = false)
    (rest : List Char) : Nat.toDigits 10 number ≠ sign :: rest := by
  intro hdigits
  have hdigit : sign ∈ Nat.toDigits 10 number := by
    rw [hdigits]
    exact List.mem_cons_self
  exact absurd (Nat.isDigit_of_mem_toDigits (by decide) (by decide) hdigit)
    (Bool.eq_false_iff.mp hsign)

theorem readInt_toString {number : Int} (hlow : -0x8000000000000000 ≤ number)
    (hhigh : number < 0x8000000000000000) : readInt (toString number).toList = some number := by
  have hinside : (decide (-0x8000000000000000 ≤ number) &&
      decide (number < 0x8000000000000000)) = true := by
    rw [decide_eq_true hlow, decide_eq_true hhigh, Bool.and_self]
  rw [Int.toString_eq_repr]
  cases number with
  | ofNat number =>
      have hminus := @toDigits_ne_cons number '-' (by decide)
      have hplus := @toDigits_ne_cons number '+' (by decide)
      rw [Int.repr, Nat.toList_repr, readInt, readDigits_toDigits]
      · exact Option.filter_some_pos hinside
      · exact hminus
      · exact hplus
  | negSucc number =>
      rw [Int.repr, String.toList_append, Nat.toList_repr]
      change readInt ('-' :: Nat.toDigits 10 (number + 1)) = _
      rw [readInt, readDigits_toDigits]
      exact Option.filter_some_pos hinside

/-! ## Coming through a literal -/

/-- Inside of quotes the reader stays there over every escaped character. -/
theorem crosses_escape (character : Char) (depth : Nat) :
    (Place.inside '\"' depth).Crosses (escape character) (.inside '\"' depth) := by
  have hescaped (meant : Char) :
      (Place.inside '\"' depth).Crosses ['\\', meant] (.inside '\"' depth) :=
    .cons rfl (.cons rfl (.nil _))
  rw [escape]
  split
  · exact hescaped _
  · split
    · exact hescaped _
    · split
      · exact hescaped _
      · split
        · exact hescaped _
        next hslash hquote _ _ =>
          have hstep : (Place.inside '\"' depth).step character = .inside '\"' depth := by
            rw [Place.step, if_neg hslash, if_neg hquote]
          refine .cons rfl ?_
          rw [hstep]
          exact .nil _

theorem crosses_flatMap_escape (content : List Char) (depth : Nat) :
    (Place.inside '\"' depth).Crosses (content.flatMap escape) (.inside '\"' depth) := by
  induction content with
  | nil => exact .nil _
  | cons character rest ih => exact (crosses_escape character depth).append ih

theorem isPlain_of_isDigit {character : Char} (hdigit : character.isDigit) :
    isPlain character ∧ isBlank character = false := by
  have hrange : 48 ≤ character.toNat ∧ character.toNat ≤ 57 := Char.isDigit_iff_toNat.mp hdigit
  have hother {other : Char} (hother : other.isDigit = false) : character ≠ other := by
    rintro rfl
    exact absurd hdigit (Bool.eq_false_iff.mp hother)
  constructor
  · have hquote : isQuote character = false := by
      rw [isQuote, decide_eq_false (hother (by decide)), decide_eq_false (hother (by decide))]
      rfl
    rw [isPlain, hquote, decide_eq_true (hother (by decide)), decide_eq_true (hother (by decide)),
      decide_eq_true (hother (by decide))]
    rfl
  · simp only [isBlank, inRanges, blankRanges, List.any_cons, List.any_nil, Bool.or_false,
      Bool.or_eq_false_iff, Bool.and_eq_false_iff, decide_eq_false_iff_not]
    omega

/-- An integer is written without quotes, brackets, commas and blanks. -/
theorem isPlain_of_mem_toString {number : Int} {character : Char}
    (hcharacter : character ∈ (toString number).toList) :
    isPlain character ∧ isBlank character = false := by
  have hdigits {digits : Nat} (hmem : character ∈ Nat.toDigits 10 digits) :
      isPlain character ∧ isBlank character = false :=
    isPlain_of_isDigit (Nat.isDigit_of_mem_toDigits (by decide) (by decide) hmem)
  rw [Int.toString_eq_repr] at hcharacter
  cases number with
  | ofNat number =>
      rw [Int.repr, Nat.toList_repr] at hcharacter
      exact hdigits hcharacter
  | negSucc number =>
      rw [Int.repr, String.toList_append, Nat.toList_repr] at hcharacter
      rcases List.mem_append.mp hcharacter with hsign | hmem
      · obtain rfl := List.mem_singleton.mp hsign
        decide
      · exact hdigits hmem

/-- So are truth values and nothing. -/
theorem isPlain_of_mem_word {word : String} (hword : word ∈ ["true", "false", "nil"])
    {character : Char} (hcharacter : character ∈ word.toList) :
    isPlain character ∧ isBlank character = false := by
  have hwords : ["true", "false", "nil"].all (fun word =>
      word.toList.all fun character => isPlain character && !isBlank character) = true := by
    decide
  have hboth := List.all_eq_true.mp (List.all_eq_true.mp hwords word hword) character hcharacter
  rwa [Bool.and_eq_true, Bool.not_eq_true'] at hboth

/-- A reader outside of quotes comes through a written literal to where it was. -/
theorem crosses_render {value : Raw} (hfits : value.Fits) (depth : Nat) :
    (Place.outside depth).Crosses value.render (.outside depth) := by
  induction hfits generalizing depth with
  | text content =>
      rw [Raw.render]
      exact .cons (Place.separates_of_ne (by decide) _)
        ((crosses_flatMap_escape content.toList depth).append (.cons rfl (.nil _)))
  | int =>
      rw [Raw.render]
      exact crosses_plain (fun _ hcharacter => (isPlain_of_mem_toString hcharacter).1) depth
  | bool flag =>
      cases flag <;>
        exact crosses_plain (fun _ hmem => (isPlain_of_mem_word (by decide) hmem).1) depth
  | null => exact crosses_plain (fun _ hmem => (isPlain_of_mem_word (by decide) hmem).1) depth
  | @list items _ ih =>
      rw [Raw.render, Raw.renderAll_eq_map]
      have hitems : ∀ item ∈ items.map Raw.render,
          (Place.outside (depth + 1)).Crosses item (.outside (depth + 1)) :=
        List.forall_mem_map.mpr fun item hitem => ih item hitem (depth + 1)
      exact .cons (Place.separates_of_ne (by decide) _)
        ((crosses_intercalate hitems).append (.cons rfl (.nil _)))

/-! ## Reading -/

theorem render_ne_nil (value : Raw) : value.render ≠ [] := by
  cases value with
  | text content => exact List.cons_ne_nil _ _
  | int number =>
      rw [Raw.render, Int.toString_eq_repr]
      cases number with
      | ofNat number =>
          rw [Int.repr, Nat.toList_repr]
          exact Nat.toDigits_ne_nil
      | negSucc number =>
          rw [Int.repr, String.toList_append]
          exact List.cons_ne_nil _ _
  | bool flag => cases flag <;> exact List.cons_ne_nil _ _
  | null => exact List.cons_ne_nil _ _
  | list items => exact List.cons_ne_nil _ _

/-- What is written has no blanks at its ends. -/
theorem isTrimmed_render (value : Raw) : IsTrimmed value.render := by
  have hends {first last : Char} (hfirst : isBlank first = false) (hlast : isBlank last = false)
      (middle : List Char) : IsTrimmed (first :: middle ++ [last]) :=
    isTrimmed_append (.of_forall (by simp [hfirst])) (.of_forall (by simp [hlast]))
      (List.cons_ne_nil first []) (List.cons_ne_nil last []) middle
  cases value with
  | text content => exact hends (by decide) (by decide) _
  | int number => exact .of_forall fun _ hcharacter => (isPlain_of_mem_toString hcharacter).2
  | bool flag =>
      cases flag <;> exact .of_forall fun _ hmem => (isPlain_of_mem_word (by decide) hmem).2
  | null => exact .of_forall fun _ hmem => (isPlain_of_mem_word (by decide) hmem).2
  | list items => exact hends (by decide) (by decide) _

/-- Written items that are joined have no blanks at their ends, and they are there. -/
theorem isTrimmed_intercalate (first : Raw) (rest : List Raw) :
    IsTrimmed ([',', ' '].intercalate ((first :: rest).map Raw.render)) ∧
      [',', ' '].intercalate ((first :: rest).map Raw.render) ≠ [] := by
  induction rest generalizing first with
  | nil =>
      rw [List.map_singleton, List.intercalate_singleton]
      exact ⟨isTrimmed_render first, render_ne_nil first⟩
  | cons second rest ih =>
      rw [List.map_cons, List.map_cons, List.intercalate_cons_cons, ← List.map_cons]
      obtain ⟨htrimmed, hthere⟩ := ih second
      exact ⟨isTrimmed_append (isTrimmed_render first) htrimmed (render_ne_nil first) hthere _,
        List.append_ne_nil_of_right_ne_nil _ hthere⟩

/-- A text that begins with no quote and no bracket is a word. -/
theorem readValue_word {text : List Char} (hplain : ∀ first ∈ text.head?, isPlain first) :
    readValue text = some (readWord text) := by
  cases text with
  | nil => rw [readValue]
  | cons first rest =>
      have hfirst := hplain first rfl
      simp only [isPlain, Bool.and_eq_true, Bool.not_eq_true', decide_eq_true_eq] at hfirst
      obtain ⟨⟨⟨hquote, hopens⟩, _⟩, _⟩ := hfirst
      rw [readValue, hquote, if_neg Bool.false_ne_true, if_neg hopens]

theorem readValue_named {word : String} (hword : word ∈ ["true", "false", "nil"]) :
    readValue word.toList = some (readWord word.toList) :=
  readValue_word fun _ hfirst => (isPlain_of_mem_word hword (List.mem_of_head? hfirst)).1

theorem readWord_of_readInt {text : List Char} {number : Int} (hread : readInt text = some number) :
    readWord text = .int number := by
  have hother {word : List Char} (hnone : readInt word = none) : text ≠ word := by
    rintro rfl
    rw [hnone] at hread
    cases hread
  rw [readWord, if_neg (hother (by decide)), if_neg (hother (by decide)), if_neg (hother (by decide)),
    hread]

theorem readValue_quoted (rest : List Char) : readValue ('\"' :: rest) =
    (readQuoted '\"' rest).map fun content => .text (String.ofList content) := by
  rw [readValue, if_pos (by decide)]

theorem bracketed_concat (inner : List Char) : bracketed (inner ++ [']']) = some (trim inner) := by
  rw [bracketed, if_pos List.getLast?_concat, List.dropLast_concat]

theorem readValue_list {rest inner : List Char} {items : List (List Char)}
    (hbracketed : bracketed rest = some inner) (hinner : inner ≠ [])
    (hitems : splitItems inner = some items) :
    readValue ('[' :: rest) = (readItems items).map .list := by
  rw [readValue, if_neg (by decide), if_pos rfl]
  split
  next hnone =>
    rw [hbracketed] at hnone
    cases hnone
  next hempty =>
    rw [hbracketed] at hempty
    exact absurd (Option.some.inj hempty) hinner
  next hfound =>
    obtain rfl := Option.some.inj (hbracketed.symm.trans hfound)
    split
    next hnone =>
      rw [hitems] at hnone
      cases hnone
    next hcuts =>
      obtain rfl := Option.some.inj (hitems.symm.trans hcuts)
      rfl

theorem readValue_empty {rest : List Char} (hbracketed : bracketed rest = some []) :
    readValue ('[' :: rest) = some (.list []) := by
  rw [readValue, if_neg (by decide), if_pos rfl]
  split
  next hnone =>
    rw [hbracketed] at hnone
    cases hnone
  next => rfl
  next inner hthere hfound =>
    rw [hbracketed] at hfound
    exact absurd (Option.some.inj hfound).symm hthere

/-- Items that are read back one by one are read back from the pieces of the list. -/
theorem readItems_render {first : Raw} {rest : List Raw}
    (hitems : ∀ item ∈ first :: rest, readValue item.render = some item) :
    readItems (first.render :: (rest.map Raw.render).map (' ' :: ·)) = some (first :: rest) := by
  obtain ⟨hfirst, hrest⟩ := List.forall_mem_cons.mp hitems
  have hpieces : readItems ((rest.map Raw.render).map (' ' :: ·)) = some rest := by
    clear hitems
    induction rest with
    | nil => rw [List.map_nil, List.map_nil, readItems]
    | cons item rest ih =>
        obtain ⟨hitem, hrest⟩ := List.forall_mem_cons.mp hrest
        rw [List.map_cons, List.map_cons, readItems, trim_cons (by decide),
          trim_of_isTrimmed (isTrimmed_render item), hitem, ih hrest]
        rfl
  rw [readItems, trim_of_isTrimmed (isTrimmed_render first), hfirst, hpieces]
  rfl

/-- A literal that is written down is read back. -/
theorem readValue_render {value : Raw} (hfits : value.Fits) : readValue value.render = some value := by
  induction hfits with
  | text content =>
      rw [Raw.render, List.cons_append, readValue_quoted, readQuoted_flatMap_escape, Option.map_some,
        String.ofList_toList]
  | @int number hlow hhigh =>
      have hplain : ∀ first ∈ (toString number).toList.head?, isPlain first := fun _ hfirst =>
        (isPlain_of_mem_toString (List.mem_of_head? hfirst)).1
      rw [Raw.render, readValue_word hplain, readWord_of_readInt (readInt_toString hlow hhigh)]
  | bool flag => cases flag <;> rw [Raw.render, readValue_named (by decide)] <;> rfl
  | null =>
      rw [Raw.render, readValue_named (by decide)]
      rfl
  | @list items hitems ih =>
      rw [Raw.render, Raw.renderAll_eq_map, List.cons_append]
      cases items with
      | nil => exact readValue_empty (bracketed_concat [])
      | cons first rest =>
          obtain ⟨htrimmed, hthere⟩ := isTrimmed_intercalate first rest
          have hbracketed := bracketed_concat ([',', ' '].intercalate ((first :: rest).map Raw.render))
          rw [trim_of_isTrimmed htrimmed] at hbracketed
          have hpieces := splitItems_intercalate (List.forall_mem_map.mpr fun item hitem =>
            crosses_render (hitems item hitem) 0)
          rw [readValue_list hbracketed hthere hpieces, readItems_render ih, Option.map_some]

end ObjectModel.Config
