import Mathlib.Algebra.Group.Int.Defs
import Mathlib.Algebra.Group.Nat.Defs
import ObjectModel.Word

/-! # Packed values

A word keeps the kind of the value that is packed into it, and of what the value holds as much as fits: numbers and positions
lose all but their low bits, and floats that are not numbers become one. Two values have the same word just if they agree in
what is kept. The tags overlap with the words of negative floats that are not numbers, and only with these.
-/

namespace ObjectModel

/-! ## Kinds of values -/

/-- What a value is, apart from what it holds. -/
inductive Kind
  | float
  | int
  | bool
  | nil
  | symbol
  | object
  | str
  | cls
  | encoding
  deriving DecidableEq, Repr

/-- The tag of the words of a kind, zero for floats. -/
def Kind.tag : Kind → Nat
  | .float => 0
  | .int => 1
  | .bool => 2
  | .nil => 3
  | .symbol => 4
  | .object => 5
  | .str => 6
  | .cls => 7
  | .encoding => 8

theorem Kind.tag_pos {kind : Kind} (hkind : kind ≠ .float) : 0 < kind.tag := by
  cases kind <;> first | exact absurd rfl hkind | decide

theorem Kind.tag_lt (kind : Kind) : kind.tag < 16 := by
  cases kind <;> decide

theorem Kind.tag_injective {first second : Kind} (hsame : first.tag = second.tag) : first = second := by
  cases first <;> cases second <;> first | rfl | cases hsame

namespace Value

def kind : Value → Kind
  | .nil => .nil
  | .bool _ => .bool
  | .int _ => .int
  | .float _ => .float
  | .symbol _ => .symbol
  | .str _ => .str
  | .object _ => .object
  | .cls _ => .cls
  | .encoding _ => .encoding

/-- What a word keeps of a value. -/
def kept : Value → Value
  | .int number => .ofInt number
  | .float bits => .ofBits bits
  | .str id => .str ⟨id.index % Word.payloadModulus⟩
  | .object id => .object ⟨id.index % Word.payloadModulus⟩
  | .cls id => .cls ⟨id.index % Word.payloadModulus⟩
  | .encoding id => .encoding ⟨id.index % Word.payloadModulus⟩
  | value => value

/-- The number that is packed for a value that is no float. -/
def content : Value → Int
  | .nil | .float _ => 0
  | .bool flag => if flag then 1 else 0
  | .int number => number
  | .symbol name => name.index
  | .str id | .object id => id.index
  | .cls id => id.index
  | .encoding id => id.index

/-- A value that a machine can hold: symbols have 32 bits. -/
def Packable : Value → Prop
  | .symbol name => name.index < 2 ^ 32
  | _ => True

variable {value : Value}

theorem kind_kept (value : Value) : value.kept.kind = value.kind := by
  cases value <;> rfl

/-- Of an integer the number of 48 bits is kept that has the same low bits. -/
theorem kept_int (number : Int) : ∃ low, (Value.int number).kept = .int low ∧
    leastInt ≤ low ∧ low ≤ greatestInt ∧ low % 2 ^ 48 = number % 2 ^ 48 := by
  refine ⟨number.bmod intModulus, rfl, ?_, ?_, Int.bmod_emod⟩
  · have hleast := @Int.le_bmod number intModulus (by decide)
    simp only [leastInt, intModulus] at hleast ⊢
    omega
  · have hgreatest := @Int.bmod_lt number intModulus (by decide)
    simp only [greatestInt, intModulus] at hgreatest ⊢
    omega

/-- An integer of 48 bits is kept as it is. -/
theorem kept_int_of_range {number : Int} (hleast : leastInt ≤ number) (hgreatest : number ≤ greatestInt) :
    (Value.int number).kept = .int number := by
  obtain ⟨low, hkept, hlow, hhigh, hsame⟩ := kept_int number
  simp only [leastInt, greatestInt] at hleast hgreatest hlow hhigh
  rw [hkept, show low = number by omega]

end Value

namespace Word

/-! ## Tagged words -/

theorem toNat_pack {tag content : Nat} (htag : tag < 16) (hcontent : content < payloadModulus) :
    (pack tag content).bits.toNat = (0xFFF0 + tag) * payloadModulus + content := by
  simp only [payloadModulus] at hcontent ⊢
  have hkept : ((content : Int) % ((0x1000000000000 : Nat) : Int)).toNat = content := by omega
  simp only [pack, payloadModulus, hkept, UInt64.toNat_ofNat']
  omega

/-- The tag and the payload of a word that is no float can be read off it. -/
structure Tagged (word : Word) (tag content : Nat) : Prop where
  isFloat : word.isFloat = false
  tag : word.tag = tag
  payload : word.payload = content
  /-- Symbols are read from the low half of a word. -/
  symbol : content < 2 ^ 32 → word.asSymbol = ⟨content⟩

theorem tagged_pack {tag content : Nat} (hpositive : 0 < tag) (htag : tag < 16)
    (hcontent : content < payloadModulus) : (pack tag content).Tagged tag content := by
  have hbits := toNat_pack htag hcontent
  simp only [payloadModulus] at hbits hcontent
  have htop : (pack tag content).top = 0xFFF0 + tag := by
    rw [top, hbits, payloadModulus]
    omega
  have hfloat : (pack tag content).isFloat = false := by
    rw [isFloat, htop]
    exact decide_eq_false (by omega)
  refine ⟨hfloat, ?_, ?_, ?_⟩
  · rw [Word.tag, hfloat, htop, if_neg Bool.false_ne_true]
    omega
  · rw [payload, hbits, payloadModulus]
    omega
  · intro hlow
    rw [asSymbol, hbits]
    congr 1
    omega

/-- What a tagged word reads as goes by its tag. -/
theorem Tagged.kind {word : Word} {tag content : Nat} : word.Tagged tag content →
    word.kind = match tag with
      | 1 => .int word.asInt
      | 2 => .bool word.asBool
      | 4 => .symbol word.asSymbol
      | 5 => .object ⟨content⟩
      | 6 => .str ⟨content⟩
      | 7 => .cls ⟨content⟩
      | 8 => .encoding ⟨content⟩
      | _ => .nil := by
  rintro ⟨hfloat, rfl, rfl, -⟩
  rw [Word.kind, hfloat]
  exact if_neg Bool.false_ne_true

/-- The number of the low bits that a word keeps. -/
def lowBits (content : Int) : Nat := (content % payloadModulus).toNat

theorem lowBits_lt (content : Int) : lowBits content < payloadModulus := by
  simp only [lowBits, payloadModulus]
  omega

theorem lowBits_natCast (content : Nat) : lowBits content = content % payloadModulus := by
  rw [lowBits, ← Int.natCast_emod, Int.toNat_natCast]

theorem pack_lowBits (tag : Nat) (content : Int) : pack tag content = pack tag (lowBits content) := by
  have hsame : ((lowBits content : Int) % payloadModulus).toNat = lowBits content := by
    simp only [lowBits, payloadModulus]
    omega
  rw [pack, pack, hsame, lowBits]

/-- A value that is no float is packed under the tag of its kind. -/
theorem ofValue_eq_pack {value : Value} (hkind : value.kind ≠ .float) :
    ofValue value = pack value.kind.tag value.content := by
  cases value with
  | float => exact absurd rfl hkind
  | bool flag => cases flag <;> rfl
  | _ => rfl

theorem tagged_ofValue {value : Value} (hkind : value.kind ≠ .float) :
    (ofValue value).Tagged value.kind.tag (lowBits value.content) := by
  rw [ofValue_eq_pack hkind, pack_lowBits]
  exact tagged_pack (Kind.tag_pos hkind) (Kind.tag_lt _) (lowBits_lt _)

/-! ## Floats -/

/-- A word that would be taken for a tagged one is that of no number, and so it is not kept. -/
theorem isFloat_ofFloatBits (bits : UInt64) : (ofFloatBits bits).isFloat := by
  rw [ofFloatBits]
  by_cases hnumber : Decimal.isNotNumber bits
  · rw [if_pos hnumber]
    decide
  · rw [if_neg hnumber]
    cases htagged : isFloat ⟨bits⟩ with
    | true => rfl
    | false =>
        have htop : ¬ bits.toNat / payloadModulus < 0xFFF1 := of_decide_eq_false htagged
        have hlt := bits.toNat_lt
        simp only [payloadModulus] at htop
        have hexponent : Decimal.exponentField bits = 2047 := by
          rw [Decimal.exponentField]
          omega
        have hfraction : Decimal.fractionField bits ≠ 0 := by
          rw [Decimal.fractionField]
          omega
        exact absurd (by simp [Decimal.isNotNumber, hexponent, hfraction]) hnumber

theorem kind_ofFloatBits (bits : UInt64) : (ofFloatBits bits).kind = .ofBits bits := by
  rw [kind, if_pos (isFloat_ofFloatBits bits)]
  rfl

/-! ## Reading words -/

/-- A packed value reads as what is kept of it. -/
theorem kind_ofValue {value : Value} (hpackable : value.Packable) : (ofValue value).kind = value.kept := by
  by_cases hkind : value.kind = .float
  · cases value with
    | float bits => exact kind_ofFloatBits bits
    | _ => cases hkind
  · have htagged := tagged_ofValue hkind
    have hkept := htagged.kind
    cases value with
    | nil => exact hkept
    | bool flag => cases flag <;> exact hkept
    | int number =>
        refine hkept.trans (congrArg Value.int ?_)
        have hlow : ((lowBits number : Nat) : Int) = number % payloadModulus := by
          simp only [lowBits, payloadModulus]
          omega
        rw [asInt, htagged.payload, Value.content, hlow]
        exact Int.emod_bmod number payloadModulus
    | symbol name =>
        have hname : name.index < 2 ^ 32 := hpackable
        have hlow : lowBits (name.index : Int) = name.index := by
          rw [lowBits_natCast]
          exact Nat.mod_eq_of_lt (Nat.lt_trans hname (by decide))
        refine hkept.trans (congrArg Value.symbol ((htagged.symbol ?_).trans (congrArg Symbol.mk hlow)))
        exact hlow.symm ▸ hname
    | float bits => exact absurd rfl hkind
    | str id => exact hkept.trans (congrArg (Value.str ⟨·⟩) (lowBits_natCast _))
    | object id => exact hkept.trans (congrArg (Value.object ⟨·⟩) (lowBits_natCast _))
    | cls id => exact hkept.trans (congrArg (Value.cls ⟨·⟩) (lowBits_natCast _))
    | encoding id => exact hkept.trans (congrArg (Value.encoding ⟨·⟩) (lowBits_natCast _))

/-- What is kept of a value has the word of the value. -/
theorem ofValue_kept (value : Value) : ofValue value.kept = ofValue value := by
  have hposition (tag index : Nat) :
      pack tag ((index % payloadModulus : Nat) : Int) = pack tag (index : Int) := by
    rw [pack_lowBits tag (index : Int), lowBits_natCast]
  cases value with
  | int number =>
      change pack 1 (number.bmod payloadModulus) = pack 1 number
      rw [pack, pack, Int.bmod_emod]
  | float bits =>
      change ofFloatBits (if Decimal.isNotNumber bits then Value.notNumber else bits) = ofFloatBits bits
      by_cases hnumber : Decimal.isNotNumber bits
      · rw [if_pos hnumber, ofFloatBits, ofFloatBits, if_pos hnumber]
        rfl
      · rw [if_neg hnumber]
  | str id => exact hposition 6 id.index
  | object id => exact hposition 5 id.index
  | cls id => exact hposition 7 id.index
  | encoding id => exact hposition 8 id.index
  | _ => rfl

/-- Whether a word is taken for one of a kind. -/
def isOf (word : Word) : Kind → Bool
  | .float => word.isFloat
  | .int => word.isInt
  | .bool => word.isBool
  | .nil => word.isNil
  | .symbol => word.isSymbol
  | .object => word.isObject
  | .str => word.isStr
  | .cls => word.isClass
  | .encoding => word.isEncoding

/-- A tagged word is of the kind that has its tag, unless that is `nil`, whose word is only one. -/
theorem Tagged.isOf_iff {word : Word} {tag content : Nat} (htagged : word.Tagged tag content) {kind : Kind}
    (hkind : kind ≠ .nil) (hpositive : 0 < tag) : word.isOf kind ↔ kind.tag = tag := by
  have htag := htagged.tag
  cases kind with
  | nil => exact absurd rfl hkind
  | float =>
      rw [isOf, htagged.isFloat]
      exact iff_of_false Bool.false_ne_true (Nat.ne_of_lt hpositive)
  | int =>
      rw [Word.tag, htagged.isFloat, if_neg Bool.false_ne_true] at htag
      rw [isOf, isInt, decide_eq_true_iff]
      change _ ↔ 1 = tag
      omega
  | _ =>
      refine decide_eq_true_iff.trans ?_
      rw [htag]
      exact eq_comm

/-- A float is of no other kind. -/
theorem isOf_of_isFloat {word : Word} (hfloat : word.isFloat) (kind : Kind) :
    word.isOf kind ↔ kind = .float := by
  have htag : word.tag = 0 := if_pos hfloat
  cases kind with
  | float => exact iff_of_true hfloat rfl
  | int =>
      refine iff_of_false ?_ nofun
      intro hint
      have htop : word.top < 0xFFF1 := of_decide_eq_true hfloat
      exact absurd (of_decide_eq_true hint) (Nat.ne_of_lt htop)
  | nil =>
      refine iff_of_false ?_ nofun
      intro hnil
      obtain rfl : word = nil := of_decide_eq_true hnil
      exact absurd hfloat (by decide)
  | _ =>
      refine iff_of_false ?_ nofun
      intro hother
      cases htag.symm.trans (of_decide_eq_true hother)

/-- A packed value is taken for one of its own kind and of no other. -/
theorem isOf_ofValue (value : Value) (kind : Kind) : (ofValue value).isOf kind ↔ kind = value.kind := by
  by_cases hfloat : value.kind = .float
  · rw [hfloat]
    cases value with
    | float bits => exact isOf_of_isFloat (isFloat_ofFloatBits bits) kind
    | _ => cases hfloat
  · have htagged := tagged_ofValue hfloat
    by_cases hnil : kind = .nil
    · subst hnil
      refine decide_eq_true_iff.trans ⟨fun hword => ?_, fun hkind => ?_⟩
      · have htags := htagged.tag
        rw [hword] at htags
        exact Kind.tag_injective htags
      · cases value with
        | nil => rfl
        | _ => cases hkind
    · rw [htagged.isOf_iff hnil (Kind.tag_pos hfloat)]
      exact ⟨Kind.tag_injective, congrArg Kind.tag⟩

/-! ## Reading by masks -/

theorem top_lt (word : Word) : word.top < 2 ^ 16 := by
  have hlt := word.bits.toNat_lt
  simp only [top, payloadModulus]
  omega

/-- A mask of bits above a position acts on the bits above it alone. -/
theorem and_mul_two_pow (number bits shift : Nat) :
    number &&& bits * 2 ^ shift = (number / 2 ^ shift &&& bits) * 2 ^ shift := by
  apply Nat.eq_of_testBit_eq
  intro position
  rw [Nat.testBit_and, Nat.testBit_mul_two_pow, Nat.testBit_mul_two_pow, Nat.testBit_and,
    Nat.testBit_div_two_pow]
  by_cases hhigh : shift ≤ position
  · rw [Nat.sub_add_cancel hhigh, Bool.and_left_comm]
  · simp [hhigh]

/-- A mask of bits above the payload acts on the top bits alone. -/
theorem toNat_and_top (word : Word) (bits : Nat) {mask : UInt64}
    (hmask : mask.toNat = bits * payloadModulus) :
    (word.bits &&& mask).toNat = (word.top &&& bits) * payloadModulus := by
  rw [UInt64.toNat_and, hmask]
  exact and_mul_two_pow _ bits 48

/-- The payload is what the mask of the low 48 bits leaves. -/
theorem payload_eq_and (word : Word) : word.payload = (word.bits &&& 0x0000FFFFFFFFFFFF).toNat := by
  rw [UInt64.toNat_and]
  exact (Nat.and_two_pow_sub_one_eq_mod _ 48).symm

/-- The words of integers are told by their top sixteen bits. -/
theorem isInt_iff_and (word : Word) :
    word.isInt ↔ word.bits &&& 0xFFFF000000000000 = 0xFFF1000000000000 := by
  have hlt := word.top_lt
  have hand : word.top &&& 0xFFFF = word.top % 2 ^ 16 := Nat.and_two_pow_sub_one_eq_mod _ 16
  rw [← UInt64.toNat_inj, toNat_and_top word 0xFFFF rfl, hand, isInt, decide_eq_true_iff]
  change _ ↔ _ * 0x1000000000000 = 0xFFF1000000000000
  omega

/-- A word is a float unless it has all bits of the tags in common and not only these. -/
theorem isFloat_iff_and (word : Word) :
    word.isFloat ↔ word.bits &&& 0xFFF0000000000000 ≠ 0xFFF0000000000000 ∨
      word.bits &&& 0x000F000000000000 = 0 := by
  have hlt := word.top_lt
  have hlow : word.top &&& 0xF = word.top % 2 ^ 4 := Nat.and_two_pow_sub_one_eq_mod _ 4
  have hhigh : word.top &&& 0xFFF0 = word.top / 2 ^ 4 % 2 ^ 12 * 2 ^ 4 := by
    rw [← Nat.and_two_pow_sub_one_eq_mod]
    exact and_mul_two_pow word.top 0xFFF 4
  rw [← UInt64.toNat_inj, ne_eq, ← UInt64.toNat_inj, toNat_and_top word 0xFFF0 rfl,
    toNat_and_top word 0xF rfl, hlow, hhigh, isFloat, decide_eq_true_iff]
  change _ ↔ ¬ _ * 0x1000000000000 = 0xFFF0000000000000 ∨ _ * 0x1000000000000 = 0
  omega

/-- The tag of a word that is no float is what the mask of the tags leaves. -/
theorem tag_eq_and (word : Word) (hfloat : word.isFloat = false) :
    word.tag = ((word.bits &&& 0x000F000000000000) >>> 48).toNat := by
  have hlt := word.top_lt
  have htop : ¬ word.top < 0xFFF1 := of_decide_eq_false hfloat
  have hlow : word.top &&& 0xF = word.top % 2 ^ 4 := Nat.and_two_pow_sub_one_eq_mod _ 4
  rw [UInt64.toNat_shiftRight, toNat_and_top word 0xF rfl, hlow, tag, hfloat,
    if_neg Bool.false_ne_true, Nat.shiftRight_eq_div_pow]
  change _ = _ * 0x1000000000000 / 2 ^ 48
  omega

/-! ## Faithfulness -/

/-- Packing is faithful. A packed value reads as what is kept of it, which is of the same kind: floats keep their bits but
that those of no number become one, of integers the low 48 bits are kept and read with a sign, so that those of 48 bits are
kept as they are, positions keep their low 48 bits, and the other values are kept whole. Two values have one word just if
the same is kept of both, so that values of different kinds never do. The word of a value is taken for one of its kind and
of no other. -/
theorem packing_faithful {first second : Value} (hfirst : first.Packable) (hsecond : second.Packable) :
    ((ofValue first).kind = first.kept ∧ first.kept.kind = first.kind) ∧
    (∀ number, ∃ low, (Value.int number).kept = .int low ∧
      Value.leastInt ≤ low ∧ low ≤ Value.greatestInt ∧ low % 2 ^ 48 = number % 2 ^ 48) ∧
    (∀ number, Value.leastInt ≤ number → number ≤ Value.greatestInt →
      (Value.int number).kept = .int number) ∧
    (ofValue first = ofValue second ↔ first.kept = second.kept) ∧
    (first.kind ≠ second.kind → ofValue first ≠ ofValue second) ∧
    ∀ kind, (ofValue first).isOf kind ↔ kind = first.kind := by
  have hsame : ofValue first = ofValue second → first.kept = second.kept := by
    intro hwords
    rw [← kind_ofValue hfirst, ← kind_ofValue hsecond, hwords]
  refine ⟨⟨kind_ofValue hfirst, first.kind_kept⟩, Value.kept_int, fun _ => Value.kept_int_of_range,
    ⟨hsame, ?_⟩, ?_, isOf_ofValue first⟩
  · intro hkept
    rw [← ofValue_kept first, hkept, ofValue_kept]
  · intro hkinds hwords
    apply hkinds
    rw [← first.kind_kept, hsame hwords, second.kind_kept]

/-- The words of the least float and of a negative one that is no number look like tagged words, but they are not taken for
any, and the number that differs from zero only above its low 48 bits is packed as zero. -/
theorem packing_faithful_extremes :
    (ofValue (.float 0xFFF0000000000000)).kind = .float 0xFFF0000000000000 ∧
      (ofValue (.float 0xFFF5000000000007)).kind = .float Value.notNumber ∧
      ofValue (.float 0xFFF5000000000007) ≠ ofValue (.object ⟨7⟩) ∧
      ofValue (.int 0x5000000000000) = ofValue (.int 0) := by
  obtain ⟨⟨hleast, -⟩, -⟩ := @packing_faithful (.float 0xFFF0000000000000) .nil trivial trivial
  obtain ⟨⟨hnone, -⟩, -, -, -, hobject, -⟩ :=
    @packing_faithful (.float 0xFFF5000000000007) (.object ⟨7⟩) trivial trivial
  obtain ⟨-, -, -, hzero, -, -⟩ := @packing_faithful (.int 0x5000000000000) (.int 0) trivial trivial
  exact ⟨hleast, hnone, hobject (by decide), hzero.mpr (by decide)⟩

end Word

end ObjectModel
