import Mathlib
import ObjectModel.Name

/-! # Spellings as constants

The constant names of a text are constant names indeed, and there are any just if the text begins with a letter. One of them
has capital letters only. It depends on the letters of the text but not on their case, so texts that are the same but for the
case of their letters have it in common.
-/

namespace ObjectModel.Name

variable {character : Char} {text other spelling : String}

/-! ## Letters and digits -/

theorem isCapital_eq_isUpper (character : Char) : isCapital character = character.isUpper :=
  (Bool.decide_and _ _).symm

theorem isSmall_eq_isLower (character : Char) : isSmall character = character.isLower := rfl

theorem isNumeral_eq_isDigit (character : Char) : isNumeral character = character.isDigit := rfl

theorem isLetterOrNumeral_eq_isAlphanum (character : Char) :
    isLetterOrNumeral character = character.isAlphanum := by
  rw [isLetterOrNumeral, isCapital_eq_isUpper, isSmall_eq_isLower, isNumeral_eq_isDigit]
  rfl

theorem capital_eq_toUpper : capital = Char.toUpper := by
  funext character
  rw [capital, isSmall_eq_isLower]
  split
  next hlower => exact (Char.toUpper_eq_of_isLower hlower).symm
  next hlower => exact (Char.toUpper_eq_of_not_isLower hlower).symm

theorem isDigit_of_isAlpha (halpha : character.isAlpha) : character.isDigit = false := by
  simp only [Char.isAlpha, Char.isUpper, Char.isLower, Char.isDigit, Bool.or_eq_true, Bool.and_eq_true,
    Bool.and_eq_false_iff, decide_eq_true_eq, decide_eq_false_iff_not, ge_iff_le,
    UInt32.le_iff_toNat_le] at halpha ⊢
  have hbounds : ('A'.val.toNat = 65 ∧ 'a'.val.toNat = 97) ∧ '9'.val.toNat = 57 := by decide
  omega

theorem isDigit_toUpper (character : Char) : character.toUpper.isDigit = character.isDigit := by
  by_cases hlower : character.isLower
  · have halpha : character.isAlpha := (Bool.or_eq_true _ _).mpr (.inr hlower)
    rw [isDigit_of_isAlpha halpha, isDigit_of_isAlpha ((Char.isAlpha_toUpper_eq_isAlpha _).trans halpha)]
  · rw [Char.toUpper_eq_of_not_isLower hlower]

theorem isAlphanum_toUpper (character : Char) : character.toUpper.isAlphanum = character.isAlphanum := by
  rw [Char.isAlphanum, Char.isAlphanum, Char.isAlpha_toUpper_eq_isAlpha, isDigit_toUpper]

theorem innerForm_eq (character : Char) :
    innerForm character = if character.isAlphanum then character else '_' := by
  rw [innerForm, isLetterOrNumeral_eq_isAlphanum]

theorem toUpper_innerForm (character : Char) : (innerForm character).toUpper = innerForm character.toUpper := by
  rw [innerForm_eq, innerForm_eq, isAlphanum_toUpper]
  split <;> rfl

theorem isAlpha_innerForm : (innerForm character).isAlpha = character.isAlpha := by
  rw [innerForm_eq]
  split
  next => rfl
  next hother =>
    rw [Char.isAlphanum, Bool.or_eq_true, not_or] at hother
    rw [(Bool.not_eq_true _).mp hother.1]
    rfl

theorem isInner_iff : isInner character ↔ character.isAlphanum ∨ character = '_' := by
  rw [isInner, Bool.or_eq_true, decide_eq_true_eq, isLetterOrNumeral_eq_isAlphanum]

theorem isInner_innerForm : isInner (innerForm character) := by
  rw [isInner_iff, innerForm_eq]
  split
  next halphanum => exact .inl halphanum
  next => exact .inr rfl

theorem isInner_toUpper (hinner : isInner character) : isInner character.toUpper := by
  rw [isInner_iff, isAlphanum_toUpper]
  rcases isInner_iff.mp hinner with halphanum | rfl
  · exact .inl halphanum
  · exact .inr rfl

/-! ## Constant names -/

theorem isConstantChars_cons {first : Char} {rest : List Char} : isConstantChars (first :: rest) ↔
    isCapital first ∧ ∀ character ∈ rest, isInner character := by
  rw [isConstantChars, Bool.and_eq_true, List.all_eq_true]

/-- A constant name is a capital letter with letters, digits and underscores after it. -/
theorem isConstant_iff : isConstant text ↔ ∃ first rest, text.toList = first :: rest ∧ first.isUpper ∧
    ∀ character ∈ rest, character.isAlphanum ∨ character = '_' := by
  rw [isConstant]
  cases text.toList with
  | nil => exact iff_of_false Bool.false_ne_true nofun
  | cons first rest =>
      rw [isConstantChars_cons, isCapital_eq_isUpper]
      simp only [isInner_iff]
      constructor
      · exact fun hchars => ⟨first, rest, rfl, hchars⟩
      · rintro ⟨_, _, hsame, hchars⟩
        obtain ⟨rfl, rfl⟩ := List.cons.inj hsame
        exact hchars

/-- No constant name ends in a line break. -/
theorem not_isConstant_append (text : String) : ¬ isConstant (text ++ "\n") := by
  intro hconstant
  obtain ⟨first, rest, hchars, hfirst, hrest⟩ := isConstant_iff.mp hconstant
  have hbreak : '\n' ∈ first :: rest := by
    rw [← hchars, String.toList_append]
    exact List.mem_append_right _ List.mem_cons_self
  rcases List.mem_cons.mp hbreak with rfl | hinner
  · exact absurd hfirst (by decide)
  · exact absurd (hrest _ hinner) (by decide)

/-! ## Spellings -/

/-- A text whose first character is a letter. -/
def BeginsWithLetter (text : String) : Prop := ∃ first, text.toList.head? = some first ∧ first.isAlpha

/-- A text in capital letters, with an underscore for each character that is neither a letter nor a digit. -/
def capitalSpelling (text : String) : String :=
  (text.map fun character => if character.isAlphanum then character else '_').toUpper

theorem toList_capitalSpelling (text : String) :
    (capitalSpelling text).toList = text.toList.map fun character => (innerForm character).toUpper := by
  rw [capitalSpelling, String.toUpper, String.toList_map, String.toList_map, List.map_map]
  exact List.map_congr_left fun character _ => congrArg Char.toUpper (innerForm_eq character).symm

theorem map_toUpper_constantForm (text : String) :
    (constantForm text.toList).map Char.toUpper = (capitalSpelling text).toList := by
  rw [toList_capitalSpelling]
  cases text.toList with
  | nil => rfl
  | cons first rest =>
      rw [constantForm, capital_eq_toUpper, List.map_cons, List.map_map, Char.toUpper_toUpper_eq_toUpper]
      rfl

theorem isConstantChars_constantForm : isConstantChars (constantForm text.toList) ↔ BeginsWithLetter text := by
  rw [BeginsWithLetter]
  cases text.toList with
  | nil => exact iff_of_false Bool.false_ne_true nofun
  | cons first rest =>
      simp [constantForm, isConstantChars_cons, isCapital_eq_isUpper, capital_eq_toUpper, isAlpha_innerForm,
        isInner_innerForm]

/-- The spellings of a text that begins with a letter are its constant form and that form in capital letters. -/
theorem mem_constantSpellings : spelling ∈ constantSpellings text ↔ BeginsWithLetter text ∧
    (spelling = String.ofList (constantForm text.toList) ∨ spelling = capitalSpelling text) := by
  rw [constantSpellings, capital_eq_toUpper, map_toUpper_constantForm, String.ofList_toList,
    ← isConstantChars_constantForm]
  split
  next hconstant =>
    rw [and_iff_right hconstant, List.mem_cons]
    split
    next hsame =>
      rw [← hsame, String.ofList_toList]
      simp
    next hother => simp
  next hother => simp [hother]

theorem isConstant_of_mem (hspelling : spelling ∈ constantSpellings text) : isConstant spelling := by
  obtain ⟨hletter, hcases⟩ := mem_constantSpellings.mp hspelling
  have hform := isConstantChars_constantForm.mpr hletter
  rw [isConstant]
  rcases hcases with rfl | rfl
  · rwa [String.toList_ofList]
  · rw [← map_toUpper_constantForm]
    cases hchars : constantForm text.toList with
    | nil => rwa [hchars] at hform
    | cons first rest =>
        obtain ⟨hfirst, hrest⟩ := isConstantChars_cons.mp (hchars ▸ hform)
        rw [List.map_cons, isConstantChars_cons, isCapital_eq_isUpper, Char.isUpper_toUpper_eq_isAlpha]
        rw [isCapital_eq_isUpper] at hfirst
        exact ⟨(Bool.or_eq_true _ _).mpr (.inl hfirst),
          List.forall_mem_map.mpr fun character hcharacter => isInner_toUpper (hrest character hcharacter)⟩

theorem constantSpellings_eq_nil_iff : constantSpellings text = [] ↔ ¬ BeginsWithLetter text := by
  rw [List.eq_nil_iff_forall_not_mem]
  simp only [mem_constantSpellings]
  exact ⟨fun hnone hletter => hnone _ ⟨hletter, .inl rfl⟩, fun hother _ hspelling => hother hspelling.1⟩

/-- There is one spelling, or there are two that are different. -/
theorem nodup_constantSpellings (text : String) :
    (constantSpellings text).Nodup ∧ (constantSpellings text).length ≤ 2 := by
  rw [constantSpellings]
  split
  · split
    · simp
    next hother =>
      have hdifferent : constantForm text.toList ≠ (constantForm text.toList).map capital := fun hsame => hother hsame.symm
      simp [String.ofList_inj, hdifferent]
  · simp

/-! ## Capital letters -/

theorem toList_toUpper (text : String) : text.toUpper.toList = text.toList.map Char.toUpper :=
  String.toList_map

theorem toUpper_capitalSpelling (text : String) : (capitalSpelling text).toUpper = capitalSpelling text := by
  rw [← String.toList_inj, toList_toUpper, toList_capitalSpelling, List.map_map]
  exact List.map_congr_left fun character _ => Char.toUpper_toUpper_eq_toUpper _

/-- Of the spellings of a text there is just one in capital letters. -/
theorem mem_constantSpellings_of_toUpper (hletter : BeginsWithLetter text) :
    spelling ∈ constantSpellings text ∧ spelling.toUpper = spelling ↔ spelling = capitalSpelling text := by
  rw [mem_constantSpellings, and_iff_right hletter]
  constructor
  · rintro ⟨rfl | rfl, hcapitals⟩
    · rw [← String.toList_inj, toList_toUpper, String.toList_ofList, map_toUpper_constantForm] at hcapitals
      rw [← hcapitals, String.ofList_toList]
    · rfl
  · rintro rfl
    exact ⟨.inr rfl, toUpper_capitalSpelling text⟩

/-- The case of letters does not matter for the spelling in capital letters. -/
theorem capitalSpelling_congr (hsame : text.toUpper = other.toUpper) :
    capitalSpelling text = capitalSpelling other := by
  rw [← String.toList_inj, toList_toUpper, toList_toUpper] at hsame
  have hform (text : String) : (capitalSpelling text).toList = (text.toList.map Char.toUpper).map innerForm := by
    rw [toList_capitalSpelling, List.map_map]
    exact List.map_congr_left fun character _ => toUpper_innerForm character
  rw [← String.toList_inj, hform, hform, hsame]

theorem beginsWithLetter_toUpper : BeginsWithLetter text.toUpper ↔ BeginsWithLetter text := by
  rw [BeginsWithLetter, BeginsWithLetter, toList_toUpper, List.head?_map]
  cases text.toList.head? with
  | none => rfl
  | some first => simp

end ObjectModel.Name
