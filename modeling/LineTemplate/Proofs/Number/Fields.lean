import LineTemplate.Number.Binary
import Mathlib

/-!
Two readings of the bits of a real number: the one that rounding to integers goes by, and the one
that arithmetic on real numbers is defined by. They are the same.
-/

namespace LineTemplate.Number

open Float.Model (Format UnpackedFloat)
open Float.Model.UnpackedFloat

/-- What the bits of a real number say. -/
def unpacked (value : Float) : UnpackedFloat :=
  value.toModel.unpack

theorem less_iff (first second : Float) :
    first < second ↔ (unpacked first).compare (unpacked second) = some .lt := by
  change decide (first.toModel < second.toModel) = true ↔ _
  rw [decide_eq_true_iff]
  exact beq_iff_eq

theorem equal_iff (first second : Float) :
    first == second ↔ (unpacked first).compare (unpacked second) = some .eq := by
  change ((unpacked first).compare (unpacked second) == some .eq) = true ↔ _
  exact beq_iff_eq

theorem unpacked_zero : unpacked 0.0 = .zero .positive :=
  rfl

/-- Any number but the two zeros, finite or not. -/
def NotZero : UnpackedFloat → Prop
  | .zero _ => False
  | _ => True

theorem not_zero_iff (value : Float) : (value != 0.0) = true ↔ NotZero (unpacked value) := by
  have equal := equal_iff value 0.0
  rw [unpacked_zero] at equal
  rw [bne, Bool.not_eq_true', ← Bool.not_eq_true, equal]
  cases unpacked value with
  | notANumber => exact ⟨fun _ => trivial, fun _ same => by cases same⟩
  | infinity sign => cases sign <;> exact ⟨fun _ => trivial, fun _ same => by cases same⟩
  | zero => exact ⟨fun different => different rfl, False.elim⟩
  | finite sign => cases sign <;> exact ⟨fun _ => trivial, fun _ same => by cases same⟩

def Binary.ofUnpacked : UnpackedFloat → Binary
  | .notANumber => .notANumber
  | .infinity sign => .infinite (sign == .negative)
  | .zero sign => .finite (sign == .negative) 0 leastExponent
  | .finite sign mantissa exponent _ => .finite (sign == .negative) mantissa exponent

theorem exponent_bits (bits : BitVec 64) :
    (@unpackExponent Format.binary64 bits).toNat = bits.toNat / 2 ^ 52 % 2 ^ 11 := by
  simp [unpackExponent, BitVec.extractLsb, Nat.shiftRight_eq_div_pow]

theorem mantissa_bits (bits : BitVec 64) :
    (@unpackMantissa Format.binary64 bits).toNat = bits.toNat % 2 ^ 52 := by
  simp [unpackMantissa, BitVec.extractLsb]

theorem sign_bit (bits : BitVec 64) :
    (@unpackSign Format.binary64 bits).toNat = bits.toNat / 2 ^ 63 := by
  have bound := bits.isLt
  simp [unpackSign, BitVec.extractLsb, Nat.shiftRight_eq_div_pow]
  omega

theorem append_implicit_bit {width : Nat} (fraction : BitVec width) :
    (1#1 ++ fraction).toNat = 2 ^ width + fraction.toNat := by
  rw [BitVec.toNat_append, Nat.shiftLeft_eq, Nat.mul_comm,
    ← Nat.two_pow_add_eq_or_of_lt fraction.isLt, BitVec.toNat_one (by decide), Nat.mul_one]

theorem sign_bit_eq (bits : BitVec 64) :
    (bits.toNat / 2 ^ 63 == 1) =
      (Sign.ofBitVec (@unpackSign Format.binary64 bits) == .negative) := by
  have bound := (@unpackSign Format.binary64 bits).isLt
  rw [← sign_bit]
  generalize @unpackSign Format.binary64 bits = sign
  revert sign
  decide

theorem of_float_fields (value : Float) :
    Binary.ofFloat value =
      let bits := value.toModel.toBits.toBitVec.toNat
      let negative := bits / 2 ^ 63 == 1
      if bits / 2 ^ 52 % 2 ^ 11 = 2047 then
        if bits % 2 ^ 52 = 0 then .infinite negative else .notANumber
      else if bits / 2 ^ 52 % 2 ^ 11 = 0 then .finite negative (bits % 2 ^ 52) leastExponent
      else
        .finite negative (2 ^ 52 + bits % 2 ^ 52)
          ((bits / 2 ^ 52 % 2 ^ 11 : Nat) + leastExponent - 1) :=
  rfl

theorem top_iff (exponent : BitVec 11) : exponent.toNat = 2047 ↔ exponent = -1#11 := by
  rw [← BitVec.toNat_inj]
  rfl

theorem zero_iff {width : Nat} (field : BitVec width) :
    field.toNat = 0 ↔ field = BitVec.ofNat width 0 := by
  rw [← BitVec.toNat_inj, BitVec.toNat_zero]

/-- The fields of the bits are those of the number that they stand for. -/
theorem of_float_eq (value : Float) :
    Binary.ofFloat value = Binary.ofUnpacked (unpacked value) := by
  rw [of_float_fields]
  let bits := value.toModel.toBits.toBitVec
  change _ = Binary.ofUnpacked (unpack Format.binary64 bits)
  simp only [sign_bit_eq, ← exponent_bits, ← mantissa_bits, top_iff, zero_iff, unpack]
  by_cases isTop : @unpackExponent Format.binary64 bits = -1#11
  · rw [if_pos isTop, if_pos isTop]
    by_cases isWhole : @unpackMantissa Format.binary64 bits = 0#52
    · rw [if_pos isWhole, if_pos isWhole]
      rfl
    · rw [if_neg isWhole, if_neg isWhole]
      rfl
  · rw [if_neg isTop, if_neg isTop]
    by_cases isBottom : @unpackExponent Format.binary64 bits = 0#11
    · rw [if_pos isBottom, if_pos isBottom]
      by_cases isWhole : @unpackMantissa Format.binary64 bits = 0#52
      · rw [dif_pos isWhole, isWhole]
        rfl
      · rw [dif_neg isWhole, isBottom]
        rfl
    · rw [if_neg isBottom, if_neg isBottom]
      simp only [Binary.ofUnpacked, append_implicit_bit]
      congr 1
      change ((@unpackExponent Format.binary64 bits).toNat : Int) + -1074 - 1 =
        (@unpackExponent Format.binary64 bits).toNat - (1023 + 52)
      omega

/-- A finite number has as many digits as there is room for, as bits give it. -/
def Full : UnpackedFloat → Prop
  | .finite _ mantissa exponent _ =>
      mantissa < 2 ^ 53 ∧ leastExponent ≤ exponent ∧
        (exponent = leastExponent ∨ 2 ^ 52 ≤ mantissa)
  | _ => True

theorem full_unpacked (value : Float) : Full (unpacked value) := by
  let bits := value.toModel.toBits.toBitVec
  have bound : (@unpackMantissa Format.binary64 bits).toNat < 2 ^ 52 :=
    (@unpackMantissa Format.binary64 bits).isLt
  change Full (unpack Format.binary64 bits)
  simp only [unpack]
  split
  · split <;> trivial
  · split
    · next isBottom =>
        split
        · trivial
        · have least : ((@unpackExponent Format.binary64 bits).toNat : Int) - (1023 + 52) + 1 =
              leastExponent := by
            rw [isBottom]
            rfl
          exact ⟨by omega, Int.le_of_eq least.symm, Or.inl least⟩
    · next notBottom =>
        have some : (@unpackExponent Format.binary64 bits).toNat ≠ 0 := by
          rwa [Ne, zero_iff]
        have whole : (1#1 ++ @unpackMantissa Format.binary64 bits).toNat =
            2 ^ 52 + (@unpackMantissa Format.binary64 bits).toNat := append_implicit_bit _
        have least : leastExponent ≤
            ((@unpackExponent Format.binary64 bits).toNat : Int) - (1023 + 52) := by
          rw [leastExponent]
          omega
        exact ⟨by omega, least, Or.inr (by omega)⟩

end LineTemplate.Number
