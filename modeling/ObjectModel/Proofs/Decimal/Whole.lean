import Mathlib
import ObjectModel.Value

/-! # Integers as floats

An integer of at most 53 bits is a float to its last digit. Such an integer is brought into the form of a normal number,
with a significand of just 53 bits, and rounding, packing and multiplying by one leave that form as it is.
-/

namespace ObjectModel.Decimal

open Float.Model Float.Model.UnpackedFloat

/-- A word is a number that is an integer, to the last digit. -/
structure Denotes (bits : UInt64) (number : Int) : Prop where
  isNumber : isNotNumber bits = false
  isFinite : isInfinite bits = false
  sign : isNegative bits = decide (number < 0)
  magnitude : (Binary.ofBits bits).numerator =
    number.natAbs * (Binary.ofBits bits).denominator

/-- A word is at most one integer. -/
theorem Denotes.unique {bits : UInt64} {first second : Int} (hfirst : Denotes bits first)
    (hsecond : Denotes bits second) : first = second := by
  have hpositive : 0 < (Binary.ofBits bits).denominator := Nat.two_pow_pos _
  have hsize : first.natAbs = second.natAbs :=
    Nat.eq_of_mul_eq_mul_right hpositive (hfirst.magnitude.symm.trans hsecond.magnitude)
  have hsign : first < 0 ↔ second < 0 :=
    decide_eq_decide.mp (hfirst.sign.symm.trans hsecond.sign)
  omega

/-! ## Normal numbers -/

/-- A significand of 53 bits and an exponent in the range of normal numbers. -/
structure IsNormal (significand : Nat) (exponent : Int) : Prop where
  lower : 2 ^ 52 ≤ significand
  upper : significand < 2 ^ 53
  least : -1074 ≤ exponent
  greatest : exponent ≤ 971

namespace IsNormal

variable {significand : Nat} {exponent : Int}

theorem pos (hnormal : IsNormal significand exponent) : 0 < significand :=
  Nat.lt_of_lt_of_le (Nat.two_pow_pos 52) hnormal.lower

/-- A normal number of a sign. -/
def float (hnormal : IsNormal significand exponent) (sign : Sign) : UnpackedFloat :=
  .finite sign significand exponent hnormal.pos

theorem log2_mul (hnormal : IsNormal significand exponent) (shift : Nat) :
    (significand * 2 ^ shift).log2 = 52 + shift := by
  have hpositive := Nat.mul_pos hnormal.pos (Nat.two_pow_pos shift)
  refine (Nat.log2_eq_iff (Nat.ne_of_gt hpositive)).mpr ⟨?_, ?_⟩
  · rw [Nat.pow_add]
    exact Nat.mul_le_mul_right _ hnormal.lower
  · rw [Nat.add_right_comm, Nat.pow_add]
    exact Nat.mul_lt_mul_of_pos_right hnormal.upper (Nat.two_pow_pos shift)

theorem log2 (hnormal : IsNormal significand exponent) : significand.log2 = 52 := by
  simpa using hnormal.log2_mul 0

/-- The exponent that a normal number should have is the one that it has, however its significand is written. -/
theorem target (hnormal : IsNormal significand exponent) (shift : Nat) :
    Format.binary64.targetExponent (totalExponent (significand * 2 ^ shift) (exponent - shift)) =
      exponent := by
  have hleast := hnormal.least
  simp only [Format.targetExponent, totalExponent, hnormal.log2_mul, Format.mantissaBits,
    Format.minExponent]
  omega

end IsNormal

/-- Only zeros are lost where a significand is shifted back. -/
theorem shiftRight_exact (significand shift : Nat) :
    ExtendedMantissa.ofMantissaAndAccuracy (significand * 2 ^ shift) .exact >>> shift =
      ExtendedMantissa.ofMantissaAndAccuracy significand .exact := by
  induction shift generalizing significand with
  | zero =>
      rw [Nat.pow_zero, Nat.mul_one]
      rfl
  | succ shift ih =>
      -- all but one of the shifts lead to twice the significand
      have hdouble : significand * 2 ^ (shift + 1) = significand * 2 * 2 ^ shift := by
        rw [Nat.pow_succ, Nat.mul_assoc, Nat.mul_comm 2]
      calc ExtendedMantissa.ofMantissaAndAccuracy (significand * 2 ^ (shift + 1)) .exact >>> (shift + 1)
          = (ExtendedMantissa.ofMantissaAndAccuracy (significand * 2 * 2 ^ shift) .exact
              >>> shift).shiftRightOne := by rw [hdouble]; rfl
        _ = (ExtendedMantissa.ofMantissaAndAccuracy (significand * 2) .exact).shiftRightOne := by
            rw [ih]
        _ = _ := by
            simp [ExtendedMantissa.shiftRightOne, ExtendedMantissa.ofMantissaAndAccuracy]

namespace IsNormal

variable {significand : Nat} {exponent : Int}

theorem shiftToTarget (hnormal : IsNormal significand exponent) (shift : Nat) :
    shiftToTargetExponent Format.binary64 (significand * 2 ^ shift) (exponent - shift) .exact =
      (ExtendedMantissa.ofMantissaAndAccuracy significand .exact, exponent) := by
  have hshift : (exponent - (exponent - shift)).toNat = shift := by omega
  rw [shiftToTargetExponent, hnormal.target, shiftToExponent, hshift, shiftRight_exact]
  exact Prod.ext rfl (by dsimp only; omega)

/-- Rounding leaves a normal number as it is, however its significand is written. -/
theorem round_exact (hnormal : IsNormal significand exponent) (sign : Sign) (shift : Nat) :
    roundWithAccuracy Format.binary64 sign (significand * 2 ^ shift) (exponent - shift) .exact =
      hnormal.float sign := by
  have hagain : shiftToTargetExponent Format.binary64 significand exponent .exact =
      (ExtendedMantissa.ofMantissaAndAccuracy significand .exact, exponent) := by
    simpa using hnormal.shiftToTarget 0
  rw [roundWithAccuracy, hnormal.shiftToTarget]
  change (match shiftToTargetExponent Format.binary64 significand exponent .exact with
    | (final, finalExponent) =>
        if h : final.mantissa = 0 then UnpackedFloat.zero sign
        else .finite sign final.mantissa finalExponent (Nat.pos_of_ne_zero h)) = _
  rw [hagain]
  exact dif_neg (Nat.ne_of_gt hnormal.pos)

/-! ## Packed into words -/

/-- The bit of a sign. -/
def signBit : Sign → Nat
  | .positive => 0
  | .negative => 1

/-- The exponent as it stands in a word. -/
theorem biased (hnormal : IsNormal significand exponent) :
    ∃ field : Nat, 0 < field ∧ field < 2047 ∧ (field : Int) = exponent + 1075 :=
  ⟨(exponent + 1075).toNat, by have := hnormal.least; omega, by have := hnormal.greatest; omega,
    by have := hnormal.least; omega⟩

/-- The parts of which the word of a normal number consists. -/
theorem pack_float (hnormal : IsNormal significand exponent) (sign : Sign) {field : Nat}
    (hfield : (field : Int) = exponent + 1075) (hlast : field < 2047) :
    UnpackedFloat.pack Format.binary64 (hnormal.float sign) =
      packComponents Format.binary64 sign (BitVec.ofNat 11 field) (BitVec.ofNat 52 significand) := by
  have hbiased : (exponent + (Format.binary64.exponentBias : Int) + (52 : Nat)).toNat = field := by
    change (exponent + (1023 : Nat) + (52 : Nat)).toNat = field
    omega
  have hfits : ¬ 2 ^ Format.binary64.exponentBits ≤ field + 1 := by
    change ¬ 2048 ≤ field + 1
    omega
  rw [IsNormal.float, UnpackedFloat.pack]
  dsimp only
  rw [hbiased, if_neg hfits, if_pos (by rw [hnormal.log2]; rfl)]

theorem toNat_pack (hnormal : IsNormal significand exponent) (sign : Sign) {field : Nat}
    (hfield : (field : Int) = exponent + 1075) (hlast : field < 2047) :
    (Float.Model.pack (hnormal.float sign)).toBits.toNat =
      signBit sign * 2 ^ 63 + field * 2 ^ 52 + (significand - 2 ^ 52) := by
  have hlower := hnormal.lower
  have hupper := hnormal.upper
  change (UnpackedFloat.pack Format.binary64 (hnormal.float sign)).toNat = _
  rw [hnormal.pack_float sign hfield hlast]
  change (sign.toBitVec ++ BitVec.ofNat 11 field ++ BitVec.ofNat 52 significand).toNat = _
  have hsign : sign.toBitVec.toNat = signBit sign := by cases sign <;> rfl
  rw [BitVec.toNat_append, BitVec.toNat_append, hsign, BitVec.toNat_ofNat, BitVec.toNat_ofNat,
    ← Nat.shiftLeft_add_eq_or_of_lt (by omega), ← Nat.shiftLeft_add_eq_or_of_lt (by omega),
    Nat.shiftLeft_eq, Nat.shiftLeft_eq]
  omega

/-- What is packed is unpacked again. -/
theorem unpack_pack (hnormal : IsNormal significand exponent) (sign : Sign) :
    (Float.Model.pack (hnormal.float sign)).unpack = hnormal.float sign := by
  obtain ⟨field, hpositive, hlast, hfield⟩ := hnormal.biased
  have hlower := hnormal.lower
  have hupper := hnormal.upper
  have hkept : (BitVec.ofNat 11 field).toNat = field := by
    rw [BitVec.toNat_ofNat]
    omega
  have hfinite : BitVec.ofNat 11 field ≠ -1#11 := by
    intro hinfinite
    rw [hinfinite] at hkept
    change 2047 = field at hkept
    omega
  have hlarge : BitVec.ofNat 11 field ≠ 0#11 := by
    intro hzero
    rw [hzero] at hkept
    change 0 = field at hkept
    omega
  -- the leading bit, which is not packed, is put back
  have hleading : (1#1 ++ BitVec.ofNat 52 significand).toNat = significand := by
    rw [BitVec.toNat_append, BitVec.toNat_ofNat, ← Nat.shiftLeft_add_eq_or_of_lt (by omega)]
    change 2 ^ 52 + significand % 2 ^ 52 = significand
    omega
  have hexponent : (field : Int) - ((Format.binary64.exponentBias : Int) + (52 : Nat)) = exponent := by
    change (field : Int) - ((1023 : Nat) + (52 : Nat)) = exponent
    omega
  change UnpackedFloat.unpack Format.binary64
    (UnpackedFloat.pack Format.binary64 (hnormal.float sign)) = _
  rw [hnormal.pack_float sign hfield hlast, UnpackedFloat.unpack]
  simp only [unpackMantissa_packComponents, unpackExponent_packComponents,
    unpackSign_packComponents, Sign.ofBitVec_toBitVec, if_neg hfinite, if_neg hlarge, hkept, hleading,
    hexponent, IsNormal.float]

/-- Multiplying a normal number by one. -/
theorem mul_one (hnormal : IsNormal significand exponent) (sign : Sign) :
    Float.Model.pack (hnormal.float sign) * Float.Model.ofBits 0x3FF0000000000000 =
      Float.Model.pack (hnormal.float sign) := by
  have hone : (Float.Model.ofBits 0x3FF0000000000000).unpack =
      .finite .positive (2 ^ 52) (-(52 : Nat)) (Nat.two_pow_pos 52) := rfl
  have hsigned : sign * Sign.positive = sign := by cases sign <;> rfl
  change Float.Model.pack (UnpackedFloat.mul Format.binary64
    (Float.Model.pack (hnormal.float sign)).unpack (Float.Model.ofBits 0x3FF0000000000000).unpack) = _
  rw [hnormal.unpack_pack, hone]
  change Float.Model.pack (roundWithAccuracy Format.binary64 (sign * .positive)
    (significand * 2 ^ 52) (exponent - (52 : Nat)) .exact) = _
  rw [hsigned, hnormal.round_exact]

theorem neg (hnormal : IsNormal significand exponent) :
    -Float.Model.pack (hnormal.float .positive) = Float.Model.pack (hnormal.float .negative) := by
  change Float.Model.pack (Float.Model.pack (hnormal.float .positive)).unpack.neg = _
  rw [hnormal.unpack_pack]
  rfl

/-- The fields of the word of a normal number. -/
theorem binary_pack (hnormal : IsNormal significand exponent) (sign : Sign) :
    let bits := (Float.Model.pack (hnormal.float sign)).toBits
    isNotNumber bits = false ∧ isInfinite bits = false ∧
      isNegative bits = decide (signBit sign = 1) ∧
      (Binary.ofBits bits).significand = significand ∧ (Binary.ofBits bits).exponent = exponent := by
  intro bits
  obtain ⟨field, hpositive, hlast, hfield⟩ := hnormal.biased
  have hlower := hnormal.lower
  have hupper := hnormal.upper
  have hbits : bits.toNat = _ := hnormal.toNat_pack sign hfield hlast
  have hsignBit : signBit sign ≤ 1 := by cases sign <;> decide
  have hexponent : exponentField bits = field := by
    rw [exponentField, hbits]
    omega
  have hfraction : fractionField bits = significand - 2 ^ 52 := by
    rw [fractionField, hbits]
    omega
  have hordinary : decide (field = 2047) = false := decide_eq_false (by omega)
  refine ⟨?_, ?_, ?_, ?_, ?_⟩
  · rw [isNotNumber, hexponent, hordinary, Bool.false_and]
  · rw [isInfinite, hexponent, hordinary, Bool.false_and]
  · rw [isNegative, hbits]
    apply decide_eq_decide.mpr
    omega
  · rw [Binary.ofBits, hexponent, if_neg (by omega), hfraction]
    dsimp only
    omega
  · rw [Binary.ofBits, hexponent, if_neg (by omega)]
    dsimp only
    omega

end IsNormal

/-! ## Integers -/

/-- An integer of at most 53 bits has the form of a normal number. -/
theorem isNormal_of_lt {number : Nat} (hpositive : 0 < number) (hsmall : number < 2 ^ 53) :
    IsNormal (number * 2 ^ (52 - number.log2)) (number.log2 - 52) := by
  have hlog : number.log2 < 53 := (Nat.log2_lt (by omega)).mpr hsmall
  obtain ⟨hlower, hupper⟩ := (Nat.log2_eq_iff (Nat.ne_of_gt hpositive)).mp rfl
  refine ⟨?_, ?_, by omega, by omega⟩
  · calc 2 ^ 52 = 2 ^ number.log2 * 2 ^ (52 - number.log2) := by
          rw [← Nat.pow_add, Nat.add_sub_cancel' (by omega)]
      _ ≤ _ := Nat.mul_le_mul_right _ hlower
  · calc number * 2 ^ (52 - number.log2)
        < 2 ^ (number.log2 + 1) * 2 ^ (52 - number.log2) :=
          Nat.mul_lt_mul_of_pos_right hupper (Nat.two_pow_pos _)
      _ = 2 ^ 53 := by rw [← Nat.pow_add]; congr 1; omega

/-- Rounding an integer of at most 53 bits brings it into the form of a normal number. -/
theorem round_of_lt {number : Nat} (hpositive : 0 < number) (hsmall : number < 2 ^ 53) :
    UnpackedFloat.round Format.binary64 .positive number 0 =
      (isNormal_of_lt hpositive hsmall).float .positive := by
  have hlog : number.log2 < 53 := (Nat.log2_lt (by omega)).mpr hsmall
  have hnormal := isNormal_of_lt hpositive hsmall
  have htarget : Format.binary64.targetExponent (totalExponent number 0) = (number.log2 : Int) - 52 := by
    simp only [Format.targetExponent, totalExponent, Format.mantissaBits, Format.minExponent]
    omega
  have hshift : ((0 : Int) - ((number.log2 : Int) - 52)).toNat = 52 - number.log2 := by omega
  have hexponent : (0 : Int) - ((52 - number.log2 : Nat) : Int) = (number.log2 : Int) - 52 := by omega
  have hround := hnormal.round_exact .positive 0
  rw [Nat.pow_zero, Nat.mul_one, Int.natCast_zero, Int.sub_zero] at hround
  rw [UnpackedFloat.round, htarget, decreaseExponent, hshift, hexponent, Nat.shiftLeft_eq, ← hround]

theorem toModel_ofNat {number : Nat} (hpositive : 0 < number) (hsmall : number < 2 ^ 53) :
    (Float.ofNat number).toModel =
      Float.Model.pack ((isNormal_of_lt hpositive hsmall).float .positive) := by
  have hword : number.toUInt64.toNat = number := by
    change number % 2 ^ 64 = number
    omega
  have hcompare : compare (number : Int) 0 = .gt := Int.compare_eq_gt.mpr (by omega)
  have hconverted : Float.Model.ofUInt64 number.toUInt64 =
      Float.Model.pack ((isNormal_of_lt hpositive hsmall).float .positive) := by
    rw [Float.Model.ofUInt64, UnpackedFloat.ofUInt64, hword, UnpackedFloat.ofNat,
      UnpackedFloat.ofInt, UnpackedFloat.normalize, hcompare]
    dsimp only
    rw [Int.toNat_natCast, round_of_lt hpositive hsmall]
  change (Float.ofScientific number false 0).toModel = _
  rw [Float.ofScientific, dif_pos ⟨hsmall, by decide⟩]
  change Float.Model.ofUInt64 number.toUInt64 * Float.Model.ofBits 0x3FF0000000000000 = _
  rw [hconverted, IsNormal.mul_one]

/-- The sign of an integer that is not zero. -/
def signOf (number : Int) : Sign := if number < 0 then .negative else .positive

theorem toModel_ofInt {number : Int} (hpositive : 0 < number.natAbs)
    (hsmall : number.natAbs < 2 ^ 53) :
    (Float.ofInt number).toModel =
      Float.Model.pack ((isNormal_of_lt hpositive hsmall).float (signOf number)) := by
  cases number with
  | ofNat number =>
      have hnonneg : ¬ Int.ofNat number < 0 := Int.not_lt.mpr (Int.natCast_nonneg number)
      rw [signOf, if_neg hnonneg]
      exact toModel_ofNat hpositive hsmall
  | negSucc number =>
      rw [signOf, if_pos (Int.negSucc_lt_zero number)]
      change -(Float.ofNat (Int.negSucc number).natAbs).toModel = _
      rw [toModel_ofNat hpositive hsmall, IsNormal.neg]

/-- An integer of at most 53 bits is a float to its last digit. -/
theorem denotes_ofInt {number : Int} (hsmall : number.natAbs < 2 ^ 53) :
    Denotes (Float.ofInt number).toBits number := by
  rcases Nat.eq_zero_or_pos number.natAbs with hzero | hpositive
  · obtain rfl := Int.natAbs_eq_zero.mp hzero
    constructor <;> decide +kernel
  · have hlog : number.natAbs.log2 < 53 := (Nat.log2_lt (by omega)).mpr hsmall
    have hbits : (Float.ofInt number).toBits = _ :=
      congrArg Float.Model.toBits (toModel_ofInt hpositive hsmall)
    rw [hbits]
    obtain ⟨hnumber, hfinite, hsign, hsignificand, hexponent⟩ :=
      (isNormal_of_lt hpositive hsmall).binary_pack (signOf number)
    refine ⟨hnumber, hfinite, ?_, ?_⟩
    · rw [hsign]
      apply decide_eq_decide.mpr
      rw [signOf]
      split
      next hnegative => exact iff_of_true rfl hnegative
      next hnegative => exact iff_of_false Nat.zero_ne_one hnegative
    · rw [Binary.numerator, Binary.denominator, hsignificand, hexponent]
      have hwhole : ((number.natAbs.log2 : Int) - 52).toNat = 0 := by omega
      have hpower : (-((number.natAbs.log2 : Int) - 52)).toNat = 52 - number.natAbs.log2 := by omega
      rw [hwhole, hpower]
      exact Nat.mul_one _

end ObjectModel.Decimal
