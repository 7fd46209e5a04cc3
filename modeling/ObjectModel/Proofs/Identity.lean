import ObjectModel.Proofs.Decimal.Whole
import ObjectModel.Proofs.WellFormed

/-! # What identifies values

Integers are identified by odd numbers, exactly and also where these are too large for an integer and become floats.
All other values are identified by even numbers below 2 ^ 47, which are made up of a mark for the kind of a value and of
32 bits for what it is of that kind. Of the 64 bits of a float these 32 bits keep only both halves laid over each other,
and so there are floats that are identified by the same number. No other two values are.
-/

namespace ObjectModel

namespace Value

/-! ## Integers -/

/-- A value is the number that an integer is. -/
def Denotes : Value → Int → Prop
  | .int own, number => own = number
  | .float bits, number => Decimal.Denotes bits number
  | _, _ => False

theorem Denotes.unique {value : Value} {first second : Int} (hfirst : value.Denotes first)
    (hsecond : value.Denotes second) : first = second := by
  cases value with
  | int own => exact hfirst.symm.trans hsecond
  | float bits => exact Decimal.Denotes.unique hfirst hsecond
  | _ => exact hfirst.elim

/-- An integer that is a value has at most 48 bits. -/
def InBounds : Value → Prop
  | .int number => leastInt ≤ number ∧ number ≤ greatestInt
  | _ => True

/-- What identifies an integer is one more than its double, even where that is no integer of 48 bits. -/
theorem denotes_identity {number : Int} (hbounds : (Value.int number).InBounds) :
    (Value.int number).identity.Denotes (2 * number + 1) := by
  obtain ⟨hleast, hgreatest⟩ := hbounds
  simp only [leastInt, greatestInt] at hleast hgreatest
  rw [identity]
  split
  · rfl
  · have hdenotes := @Decimal.denotes_ofInt (2 * number + 1) (by omega)
    rw [ofFloat, ofBits, hdenotes.isNumber, if_neg Bool.false_ne_true]
    exact hdenotes

/-! ## All other values -/

/-- Both halves of the word of a float, laid over each other. -/
def fold (bits : UInt64) : Nat := (bits.toNat % 0x100000000) ^^^ (bits.toNat / 0x100000000)

theorem fold_lt (bits : UInt64) : fold bits < 2 ^ 32 := by
  have hbits := bits.toNat_lt
  exact Nat.xor_lt_two_pow (Nat.mod_lt _ (by decide)) (by omega)

/-- The mark of the kind of a value that is no integer, and what it is of that kind. -/
def mark : Value → Nat × Nat
  | .bool false => (0, 0)
  | .nil => (0, 4)
  | .bool true => (0, 10)
  | .symbol name => (4, name.index)
  | .object id => (5, id.index)
  | .str id => (6, id.index)
  | .cls id => (7, id.index)
  | .encoding id => (8, id.index)
  | .float bits => (9, fold bits)
  | .int _ => (0, 1)

/-- The value that has a mark, if it is not that of a float. -/
def ofMark : Nat × Nat → Value
  | (0, 0) => .bool false
  | (0, 4) => .nil
  | (4, index) => .symbol ⟨index⟩
  | (5, index) => .object ⟨index⟩
  | (6, index) => .str ⟨index⟩
  | (7, index) => .cls ⟨index⟩
  | (8, index) => .encoding ⟨index⟩
  | _ => .bool true

/-- A mark tells the value, but of a float only what is left of its word. -/
theorem mark_eq_iff {first second : Value} (hfirst : ∀ number, first ≠ .int number)
    (hsecond : ∀ number, second ≠ .int number) :
    first.mark = second.mark ↔ first = second ∨
      ∃ bits other, first = .float bits ∧ second = .float other ∧ fold bits = fold other := by
  -- what is no float is read back from its mark
  have hread : ∀ value : Value, (∀ number, value ≠ .int number) →
      (∃ bits, value = .float bits) ∨ value.mark.1 < 9 ∧ ofMark value.mark = value := by
    intro value hvalue
    cases value with
    | int number => exact absurd rfl (hvalue number)
    | float bits => exact .inl ⟨bits, rfl⟩
    | bool flag => cases flag <;> exact .inr ⟨by decide, rfl⟩
    | _ => exact .inr ⟨by simp [mark], rfl⟩
  constructor
  · intro hmark
    rcases hread first hfirst with ⟨bits, rfl⟩ | ⟨hbelow, hback⟩
    · rcases hread second hsecond with ⟨other, rfl⟩ | ⟨hother, _⟩
      · exact .inr ⟨bits, other, rfl, rfl, congrArg Prod.snd hmark⟩
      · rw [← hmark] at hother
        exact absurd hother (Nat.lt_irrefl 9)
    · rcases hread second hsecond with ⟨other, rfl⟩ | ⟨_, hsame⟩
      · rw [hmark] at hbelow
        exact absurd hbelow (Nat.lt_irrefl 9)
      · exact .inl (hback.symm.trans ((congrArg ofMark hmark).trans hsame))
  · rintro (rfl | ⟨bits, other, rfl, rfl, hfold⟩)
    · rfl
    · rw [mark, mark, hfold]

/-- An integer of less than 48 bits is kept. -/
theorem ofInt_of_lt (number : Nat) (hnumber : number < 2 ^ 47) : ofInt number = .int number := by
  rw [ofInt, Int.bmod_eq_of_le]
  · simp only [intModulus]
    omega
  · simp only [intModulus]
    omega

/-- What identifies a value with a position: its kind and the position. -/
theorem identity_of_tagged {tag content : Nat} (hpositive : 0 < tag) (htag : tag < 16)
    (hcontent : content < 2 ^ 32) :
    Value.ofInt (2 * ((Word.pack tag content).tag * 0x100000000 +
      (Word.pack tag content).payload % 0x100000000 : Nat)) =
        .int (2 * (tag * 2 ^ 32 + content : Nat)) := by
  have htagged := Word.tagged_pack hpositive htag (Nat.lt_trans hcontent (by decide))
  have hlow : content % 0x100000000 = content := Nat.mod_eq_of_lt hcontent
  rw [htagged.tag, htagged.payload, hlow]
  exact_mod_cast ofInt_of_lt (2 * (tag * 2 ^ 32 + content)) (by omega)

end Value

namespace State

variable {state : State}

/-- The positions in the stores fit into 32 bits. -/
structure IsSmall (state : State) : Prop where
  classes : state.graph.size ≤ 2 ^ 32
  objects : state.heap.size ≤ 2 ^ 32
  symbols : state.names.size ≤ 2 ^ 32

/-- A value that is no integer is identified by the double of its mark. -/
theorem IsSmall.identity_eq (hsmall : state.IsSmall) {value : Value} (hvalue : state.Has value)
    (hint : ∀ number, value ≠ .int number) :
    value.identity = .int (2 * (value.mark.1 * 2 ^ 32 + value.mark.2 : Nat)) ∧
      value.mark.2 < 2 ^ 32 := by
  have hrange := inRange_of_has hvalue
  cases value with
  | nil => exact ⟨rfl, by decide⟩
  | bool flag => cases flag <;> exact ⟨rfl, by decide⟩
  | int number => exact absurd rfl (hint number)
  | float bits =>
      have hfold := Value.fold_lt bits
      refine ⟨?_, hfold⟩
      exact_mod_cast Value.ofInt_of_lt (2 * (9 * 2 ^ 32 + Value.fold bits)) (by omega)
  | symbol name =>
      have hlow : name.index < 2 ^ 32 := Nat.lt_of_lt_of_le hrange hsmall.symbols
      exact ⟨Value.identity_of_tagged (by decide) (by decide) hlow, hlow⟩
  | str id =>
      have hlow : id.index < 2 ^ 32 := Nat.lt_of_lt_of_le hrange hsmall.objects
      exact ⟨Value.identity_of_tagged (by decide) (by decide) hlow, hlow⟩
  | object id =>
      have hlow : id.index < 2 ^ 32 := Nat.lt_of_lt_of_le hrange hsmall.objects
      exact ⟨Value.identity_of_tagged (by decide) (by decide) hlow, hlow⟩
  | cls id =>
      have hlow : id.index < 2 ^ 32 := Nat.lt_of_lt_of_le hrange hsmall.classes
      exact ⟨Value.identity_of_tagged (by decide) (by decide) hlow, hlow⟩
  | encoding id =>
      have hlow : id.index < 2 ^ 32 := Nat.lt_trans hrange (by decide)
      exact ⟨Value.identity_of_tagged (by decide) (by decide) hlow, hlow⟩

/-- No integer is identified by the number of a value that is none. -/
theorem IsSmall.identity_int_ne (hsmall : state.IsSmall) {number : Int} {value : Value}
    (hbounds : (Value.int number).InBounds) (hvalue : state.Has value)
    (hint : ∀ other, value ≠ .int other) : (Value.int number).identity ≠ value.identity := by
  intro hsame
  have hodd := Value.denotes_identity hbounds
  rw [hsame, (hsmall.identity_eq hvalue hint).1] at hodd
  change (2 * (_ : Nat) : Int) = 2 * number + 1 at hodd
  omega

/-- Values that are no integers are identified by the same number just if they have the same mark. -/
theorem IsSmall.identity_eq_iff_mark (hsmall : state.IsSmall) {first second : Value}
    (hfirst : state.Has first) (hsecond : state.Has second) (hleft : ∀ number, first ≠ .int number)
    (hright : ∀ number, second ≠ .int number) :
    first.identity = second.identity ↔ first.mark = second.mark := by
  obtain ⟨hidentity, hlow⟩ := hsmall.identity_eq hfirst hleft
  obtain ⟨hother, hbelow⟩ := hsmall.identity_eq hsecond hright
  rw [hidentity, hother]
  constructor
  · intro hsame
    have hnumber := Value.int.inj hsame
    exact Prod.ext (by omega) (by omega)
  · intro hmark
    rw [hmark]

/-- As long as the positions in the stores fit into 32 bits, an integer of 48 bits is identified by one more than its
double, exactly. Two values that are there are identified by the same number just if they are the same or two floats
whose words have the same halves laid over each other. -/
theorem identity_distinguishes (hsmall : state.IsSmall) :
    (∀ number, (Value.int number).InBounds →
      (Value.int number).identity.Denotes (2 * number + 1)) ∧
    ∀ first second, state.Has first → state.Has second → first.InBounds → second.InBounds →
      (first.identity = second.identity ↔ first = second ∨
        ∃ bits other, first = .float bits ∧ second = .float other ∧
          Value.fold bits = Value.fold other) := by
  refine ⟨fun _ => Value.denotes_identity, ?_⟩
  intro first second hfirst hsecond hleft hright
  by_cases hint : ∃ number, first = .int number
  · obtain ⟨number, rfl⟩ := hint
    by_cases hother : ∃ other, second = .int other
    -- two integers are told apart by the numbers that they denote
    · obtain ⟨other, rfl⟩ := hother
      constructor
      · intro hsame
        have hdouble := (Value.denotes_identity hleft).unique (hsame ▸ Value.denotes_identity hright)
        exact .inl (congrArg Value.int (by omega))
      · rintro (heq | ⟨bits, _, hfloat, _⟩)
        · rw [heq]
        · cases hfloat
    · have hnone : ∀ other, second ≠ .int other := fun other heq => hother ⟨other, heq⟩
      apply iff_of_false (hsmall.identity_int_ne hleft hsecond hnone)
      rintro (rfl | ⟨bits, _, hfloat, _⟩)
      · exact hnone number rfl
      · cases hfloat
  · have hnone : ∀ number, first ≠ .int number := fun number heq => hint ⟨number, heq⟩
    by_cases hother : ∃ other, second = .int other
    · obtain ⟨other, rfl⟩ := hother
      apply iff_of_false (hsmall.identity_int_ne hright hfirst hnone).symm
      rintro (rfl | ⟨_, bits, _, hfloat, _⟩)
      · exact hnone other rfl
      · cases hfloat
    · have habsent : ∀ other, second ≠ .int other := fun other heq => hother ⟨other, heq⟩
      rw [hsmall.identity_eq_iff_mark hfirst hsecond hnone habsent,
        Value.mark_eq_iff hnone habsent]

/-- Two floats that are not the same and are identified by the same number: 1.0, and another one that is between 2.0
and 2.1. -/
theorem identity_shared_by_floats :
    Value.ofBits 0x3FF0000000000000 ≠ Value.ofBits 0x400000007FF00000 ∧
      (Value.ofBits 0x3FF0000000000000).identity = (Value.ofBits 0x400000007FF00000).identity := by
  decide

/-- In the state from which runs begin the least and the greatest integer are told from each other and from 1.0, and the
greatest is identified by a float that is exactly one more than its double. -/
theorem identity_distinguishes_extremes :
    (Value.int Value.greatestInt).identity.Denotes 281474976710655 ∧
      (Value.int Value.leastInt).identity ≠ (Value.int Value.greatestInt).identity ∧
      (Value.int Value.greatestInt).identity ≠ (Value.float 0x3FF0000000000000).identity := by
  obtain ⟨hclasses, hobjects, hsymbols⟩ : plain.graph.size ≤ 2 ^ 32 ∧ plain.heap.size ≤ 2 ^ 32 ∧
      plain.names.size ≤ 2 ^ 32 := by
    decide +kernel
  have hleast : (Value.int Value.leastInt).InBounds := by constructor <;> decide
  have hgreatest : (Value.int Value.greatestInt).InBounds := by constructor <;> decide
  obtain ⟨hdenotes, hiff⟩ := identity_distinguishes ⟨hclasses, hobjects, hsymbols⟩
  have hextremes :=
    hiff (.int Value.leastInt) (.int Value.greatestInt) trivial trivial hleast hgreatest
  have hone :=
    hiff (.int Value.greatestInt) (.float 0x3FF0000000000000) trivial trivial hgreatest trivial
  refine ⟨hdenotes _ hgreatest, ?_, ?_⟩
  · rw [ne_eq, hextremes]
    simp [Value.leastInt, Value.greatestInt]
  · rw [ne_eq, hone]
    simp

end State

end ObjectModel
