import Dashboard.Decimal.Reading
import Dashboard.Decimal.Shortest

namespace Dashboard.Decimal

open Float.Model (Format)
open Float.Model.UnpackedFloat (unpackExponent unpackMantissa)

theorem eq_of_toBits {left right : Float} (same : left.toBits = right.toBits) : left = right := by
  obtain ⟨⟨leftBits, leftValid⟩⟩ := left
  obtain ⟨⟨rightBits, rightValid⟩⟩ := right
  obtain rfl : leftBits = rightBits := same
  rfl

theorem toNat_unpackExponent (bits : UInt64) :
    (@unpackExponent Format.binary64 bits.toBitVec).toNat =
      ((bits >>> 52) &&& 0x7ff).toNat := by
  change (bits.toNat >>> 52) % 2 ^ 11 = (bits.toNat >>> 52) &&& (2 ^ 11 - 1)
  rw [Nat.and_two_pow_sub_one_eq_mod]

theorem toNat_unpackMantissa (bits : UInt64) :
    (@unpackMantissa Format.binary64 bits.toBitVec).toNat =
      (bits &&& 0xfffffffffffff).toNat := by
  change (bits.toNat >>> 0) % 2 ^ 52 = bits.toNat &&& (2 ^ 52 - 1)
  rw [Nat.and_two_pow_sub_one_eq_mod, Nat.shiftRight_zero]

/-- Where the exponent is greatest, the bits are a sign, that exponent and a fraction. -/
theorem toNat_of_greatest {bits : UInt64} (greatest : ((bits >>> 52) &&& 0x7ff).toNat = 2047) :
    bits.toNat = (bits >>> 63).toNat * 0x8000000000000000 + 0x7ff0000000000000 +
      (bits &&& 0xfffffffffffff).toNat := by
  change (bits.toNat >>> 52) &&& (2 ^ 11 - 1) = 2047 at greatest
  change bits.toNat = (bits.toNat >>> 63) * 0x8000000000000000 + 0x7ff0000000000000 +
    (bits.toNat &&& (2 ^ 52 - 1))
  rw [Nat.and_two_pow_sub_one_eq_mod, Nat.shiftRight_eq_div_pow] at greatest
  rw [Nat.and_two_pow_sub_one_eq_mod, Nat.shiftRight_eq_div_pow]
  omega

theorem unpackExponent_eq_iff (bits : UInt64) :
    @unpackExponent Format.binary64 bits.toBitVec = -1#_ ↔
      ((bits >>> 52) &&& 0x7ff).toNat = 2047 := by
  rw [← toNat_unpackExponent, BitVec.toNat_eq]
  rfl

theorem unpackMantissa_eq_iff (bits : UInt64) :
    @unpackMantissa Format.binary64 bits.toBitVec = 0#_ ↔
      (bits &&& 0xfffffffffffff).toNat = 0 := by
  rw [← toNat_unpackMantissa, BitVec.toNat_eq]
  rfl

/-- Where its exponent is greatest, a double has no digits. -/
theorem unpack_of_greatest {number : Float}
    (greatest : @unpackExponent Format.binary64 number.toBits.toBitVec = -1#_) :
    ∃ sign, number.toModel.unpack =
      if @unpackMantissa Format.binary64 number.toBits.toBitVec = 0#_ then .infinity sign
      else .notANumber :=
  ⟨_, if_pos greatest⟩

theorem unpack_of_lesser {number : Float}
    (lesser : @unpackExponent Format.binary64 number.toBits.toBitVec ≠ -1#_) :
    number.toModel.unpack.isNaN = false ∧ number.toModel.unpack.isInf = false := by
  by_cases least : @unpackExponent Format.binary64 number.toBits.toBitVec = 0#_
  · by_cases noFraction : @unpackMantissa Format.binary64 number.toBits.toBitVec = 0#_
    · have unpacked : number.toModel.unpack = _ :=
        (if_neg lesser).trans ((if_pos least).trans (dif_pos noFraction))
      rw [unpacked]
      exact ⟨rfl, rfl⟩
    · have unpacked : number.toModel.unpack = _ :=
        (if_neg lesser).trans ((if_pos least).trans (dif_neg noFraction))
      rw [unpacked]
      exact ⟨rfl, rfl⟩
  · have unpacked : number.toModel.unpack = _ := (if_neg lesser).trans (if_neg least)
    rw [unpacked]
    exact ⟨rfl, rfl⟩

theorem eq_notANumber {number : Float} (greatest : ((number.toBits >>> 52) &&& 0x7ff).toNat = 2047)
    (fraction : (number.toBits &&& 0xfffffffffffff).toNat ≠ 0) : number = notANumber := by
  have canonical := number.toModel.valid.eq_packedNaN ((unpackExponent_eq_iff _).mpr greatest)
    fun noFraction => fraction ((unpackMantissa_eq_iff _).mp noFraction)
  apply eq_of_toBits
  apply UInt64.toBitVec_inj.mp
  exact canonical

theorem eq_notANumber_of_isNaN {number : Float} (isNaN : number.isNaN = true) :
    number = notANumber := by
  have unpacked : number.toModel.unpack.isNaN = true := isNaN
  by_cases greatest : @unpackExponent Format.binary64 number.toBits.toBitVec = -1#_
  · obtain ⟨sign, same⟩ := unpack_of_greatest greatest
    have fraction : @unpackMantissa Format.binary64 number.toBits.toBitVec ≠ 0#_ := by
      intro noFraction
      rw [same, if_pos noFraction] at unpacked
      cases unpacked
    exact eq_notANumber ((unpackExponent_eq_iff _).mp greatest) fun noFraction =>
      fraction ((unpackMantissa_eq_iff _).mpr noFraction)
  · rw [(unpack_of_lesser greatest).1] at unpacked
    cases unpacked

theorem eq_of_ofFloat_notANumber {number : Float} (none : Binary64.ofFloat number = .notANumber) :
    number = notANumber := by
  simp only [Binary64.ofFloat, Binary64.ofBits] at none
  split at none
  · rename_i greatest
    split at none
    · cases none
    · rename_i fraction
      exact eq_notANumber greatest fraction
  · split at none <;> cases none

theorem eq_of_ofFloat_infinite {number : Float} {isNegative : Bool}
    (infinite : Binary64.ofFloat number = .infinite isNegative) :
    number = if isNegative then -infinity else infinity := by
  simp only [Binary64.ofFloat, Binary64.ofBits] at infinite
  split at infinite
  · rename_i greatest
    split at infinite
    · rename_i fraction
      have bits := toNat_of_greatest greatest
      rw [fraction, Nat.add_zero] at bits
      obtain rfl := Binary64.infinite.inj infinite
      apply eq_of_toBits
      apply UInt64.toNat_inj.mp
      rw [bits]
      have signBits : (number.toBits >>> 63).toNat < 2 := by
        change number.toBits.toNat >>> 63 < 2
        rw [Nat.shiftRight_eq_div_pow]
        have bound := number.toBits.toNat_lt
        omega
      by_cases isNegative : number.toBits >>> 63 = 1
      · rw [isNegative]
        decide +kernel
      · have positive : (number.toBits >>> 63).toNat = 0 := by
          have other : (number.toBits >>> 63).toNat ≠ 1 := fun one =>
            isNegative (UInt64.toNat_inj.mp one)
          omega
        rw [positive, beq_eq_false_iff_ne.mpr isNegative]
        decide +kernel
    · cases infinite
  · split at infinite <;> cases infinite

theorem ofFloat_of_beq_infinity {number : Float} (equal : (number == infinity) = true) :
    ∃ isNegative, Binary64.ofFloat number = .infinite isNegative := by
  have unpacked : infinity.toModel.unpack = .infinity .positive := by rfl
  have compared : number.toModel.unpack.compare (.infinity .positive) = some .eq := by
    rw [← unpacked]
    exact beq_iff_eq.mp equal
  have infinite : number.toModel.unpack.isInf = true := by
    generalize number.toModel.unpack = value at compared ⊢
    cases value with
    | infinity sign => rfl
    | notANumber => cases compared
    | zero sign => cases compared
    | finite sign => cases sign <;> cases compared
  by_cases greatest : @unpackExponent Format.binary64 number.toBits.toBitVec = -1#_
  · obtain ⟨sign, same⟩ := unpack_of_greatest greatest
    by_cases fraction : @unpackMantissa Format.binary64 number.toBits.toBitVec = 0#_
    · have biased := (unpackExponent_eq_iff _).mp greatest
      have noFraction := (unpackMantissa_eq_iff _).mp fraction
      refine ⟨number.toBits >>> 63 == 1, ?_⟩
      simp [Binary64.ofFloat, Binary64.ofBits, biased, noFraction]
    · rw [same, if_neg fraction] at infinite
      cases infinite
  · rw [(unpack_of_lesser greatest).2] at infinite
    cases infinite

end Dashboard.Decimal
