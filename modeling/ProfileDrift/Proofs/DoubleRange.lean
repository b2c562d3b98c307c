import ProfileDrift.Proofs.DoubleLaws

namespace ProfileDrift.Double

open Float.Model Float.Model.UnpackedFloat

/-- A number that is zero, or finite with an exponent up to a bound. -/
inductive Below (bound : Int) : UnpackedFloat → Prop
  | zero (sign) : Below bound (.zero sign)
  | finite (sign) {mantissa exponent} (positive) :
      exponent ≤ bound → Below bound (.finite sign mantissa exponent positive)

theorem Below.isFinite {bound : Int} {value : UnpackedFloat} (below : Below bound value) :
    value.isFinite = true := by
  cases below <;> rfl

theorem below_unpack_packComponents (sign : Sign) {exponent : BitVec 11} (mantissa : BitVec 52)
    {bound : Int} (least : -1074 ≤ bound) (within : (exponent.toNat : Int) ≤ bound + 1075)
    (finite : exponent ≠ -1#11) :
    Below bound (UnpackedFloat.unpack Format.binary64
      (packComponents Format.binary64 sign exponent mantissa)) := by
  have bias : Format.binary64.exponentBias = 1023 := rfl
  rw [UnpackedFloat.unpack]
  simp only [unpackExponent_packComponents, unpackMantissa_packComponents]
  rw [if_neg finite, bias]
  split
  · rename_i subnormal
    split
    · exact .zero _
    · rw [subnormal]
      exact .finite _ _ least
  · exact .finite _ _ (by omega)

/-- Packing overflows only where the exponent is too large. -/
theorem Below.unpack_pack {bound : Int} {value : UnpackedFloat} (below : Below bound value)
    (least : -1074 ≤ bound) (range : bound ≤ 971) :
    Below bound (UnpackedFloat.unpack Format.binary64 (UnpackedFloat.pack Format.binary64 value)) := by
  have bias : Format.binary64.exponentBias = 1023 := rfl
  have zeros : ((0#11).toNat : Int) ≤ bound + 1075 := by
    rw [BitVec.toNat_zero]
    omega
  cases below with
  | zero sign => exact below_unpack_packComponents sign 0#52 least zeros (by decide)
  | @finite sign mantissa exponent positive within =>
    have fits : (exponent + (1023 : Nat) + (52 : Nat)).toNat < 2 ^ 11 := by omega
    rw [UnpackedFloat.pack]
    dsimp only
    rw [bias, if_neg (by omega)]
    split
    · refine below_unpack_packComponents _ _ least ?_ fun infinite =>
        absurd (congrArg BitVec.toNat infinite) ?_
      · rw [BitVec.toNat_ofNat, Nat.mod_eq_of_lt fits]
        omega
      · rw [BitVec.toNat_ofNat, Nat.mod_eq_of_lt fits]
        change _ ≠ 2047
        omega
    · exact below_unpack_packComponents _ _ least zeros (by decide)

theorem mantissa_shiftRight_le (extended : ExtendedMantissa) (places : Nat) :
    (extended >>> places).mantissa ≤ extended.mantissa := by
  induction places with
  | zero => exact Nat.le_refl _
  | succ places ih => exact Nat.le_trans (Nat.div_le_self _ 2) ih

theorem roundedMantissa_le (extended : ExtendedMantissa) :
    extended.roundedMantissa ≤ extended.mantissa + 1 := by
  obtain ⟨mantissa, round, sticky⟩ := extended
  unfold ExtendedMantissa.roundedMantissa
  cases round <;> cases sticky <;> simp [ExtendedMantissa.accuracy, Accuracy.roundToNearestEven]
  omega

theorem shiftToTargetExponent_le {mantissa : Nat} {exponent : Int} {width : Nat} {bound : Int}
    (wide : mantissa < 2 ^ width) (within : exponent ≤ bound) (least : 0 ≤ bound) :
    (shiftToTargetExponent Format.binary64 mantissa exponent .exact).2 ≤ width + bound := by
  have target : Format.binary64.targetExponent (totalExponent mantissa exponent) ≤ width + bound := by
    have bits : mantissa.log2 ≤ width := by
      by_cases zero : mantissa = 0
      · rw [zero]
        exact Nat.zero_le width
      · exact Nat.le_of_lt ((Nat.log2_lt zero).mpr wide)
    have smallest : Format.binary64.minExponent = -1074 := by decide
    have mantissaBits : Format.binary64.mantissaBits = 53 := rfl
    unfold Format.targetExponent totalExponent
    rw [smallest, mantissaBits]
    omega
  change exponent + ((Format.binary64.targetExponent (totalExponent mantissa exponent) -
    exponent).toNat : Int) ≤ _
  omega

/-- Rounding raises the exponent by no more than the mantissa has bits to drop. -/
theorem below_roundWithAccuracy (sign : Sign) {mantissa : Nat} {exponent : Int} {width : Nat}
    {bound limit : Int} (wide : mantissa < 2 ^ width) (within : exponent ≤ bound)
    (least : 0 ≤ bound) (range : 2 * width + 1 + bound ≤ limit) :
    Below limit (roundWithAccuracy Format.binary64 sign mantissa exponent .exact) := by
  have first := shiftToTargetExponent_le wide within least
  have kept : (shiftToTargetExponent Format.binary64 mantissa exponent .exact).1.mantissa ≤
      mantissa := mantissa_shiftRight_le ⟨mantissa, false, false⟩ _
  unfold roundWithAccuracy
  generalize shiftToTargetExponent Format.binary64 mantissa exponent .exact = shifted at first kept ⊢
  obtain ⟨extended, raised⟩ := shifted
  dsimp only at first kept ⊢
  have rounded := roundedMantissa_le extended
  have wider : extended.roundedMantissa < 2 ^ (width + 1) := by
    have room : 0 < 2 ^ width := Nat.two_pow_pos width
    rw [Nat.pow_succ]
    omega
  have second := shiftToTargetExponent_le wider first (by omega)
  split
  · exact .zero sign
  · exact .finite sign _ (by omega)

/-- A whole number that fits in the mantissa is far from overflow when it is rounded. -/
theorem below_normalize {number : Nat} (small : number < 2 ^ 53) :
    Below 213 (UnpackedFloat.normalize Format.binary64 number 0 .positive) := by
  unfold UnpackedFloat.normalize
  split
  · rename_i negative
    have := Int.compare_eq_lt.mp negative
    omega
  · exact .zero _
  · have target : -53 ≤ Format.binary64.targetExponent (totalExponent number 0) := by
      have mantissaBits : Format.binary64.mantissaBits = 53 := rfl
      unfold Format.targetExponent totalExponent
      rw [mantissaBits]
      omega
    have wide : number <<< (0 - Format.binary64.targetExponent (totalExponent number 0)).toNat <
        2 ^ 106 := by
      rw [Nat.shiftLeft_eq]
      calc number * 2 ^ (0 - Format.binary64.targetExponent (totalExponent number 0)).toNat
          ≤ number * 2 ^ 53 := Nat.mul_le_mul_left _ (Nat.pow_le_pow_right (by decide) (by omega))
        _ < 2 ^ 106 := by omega
    exact below_roundWithAccuracy .positive wide (by omega) (Int.le_refl 0) (by decide)

theorem unpack_mul (left right : Float) : (left * right).toModel.unpack =
    UnpackedFloat.unpack Format.binary64 (UnpackedFloat.pack Format.binary64
      (UnpackedFloat.mul Format.binary64 left.toModel.unpack right.toModel.unpack)) := rfl

/-- A whole number that fits in the mantissa stays finite when it is taken times one. -/
theorem isFinite_mul_one {left right : Float} (below : Below 213 left.toModel.unpack)
    (one : right.toModel.unpack = .finite .positive (2 ^ 52) (-52) (by decide)) :
    (left * right).isFinite = true := by
  change (left * right).toModel.unpack.isFinite = true
  rw [unpack_mul, one]
  cases parts : left.toModel.unpack with
  | infinity | notANumber =>
    rw [parts] at below
    cases below
  | zero sign => cases sign <;> rfl
  | finite sign mantissa exponent positive =>
    rw [parts] at below
    obtain ⟨_, _, within⟩ := below
    have width : mantissa < 2 ^ 53 := by
      have finite : left.isFinite = true := congrArg UnpackedFloat.isFinite parts
      have narrow := (canonical_ofFloat left).narrow
      rwa [eq_of_signed_eq_finite ((unpack_eq finite).symm.trans parts)] at narrow
    have product : mantissa * 2 ^ 52 < 2 ^ 105 := by omega
    have rounded : Below 971 (roundWithAccuracy Format.binary64 (sign * .positive)
        (mantissa * 2 ^ 52) (exponent + -52) .exact) :=
      below_roundWithAccuracy _ product (show exponent + -52 ≤ 161 by omega) (by decide) (by decide)
    exact (rounded.unpack_pack (by decide) (by decide)).isFinite

theorem isFinite_ofNat {number : Nat} (small : number < 2 ^ 65) :
    (Float.ofNat number).isFinite = true := by
  change (Float.ofScientific number false 0).isFinite = true
  unfold Float.ofScientific
  split
  · rw [if_neg Bool.false_ne_true]
    have one : Float.exactlyRepresentablePowersOfTen[0].toModel.unpack =
        .finite .positive (2 ^ 52) (-52) (by decide) := by rfl
    refine isFinite_mul_one ?_ one
    have fits : number.toUInt64.toNat < 2 ^ 53 := by
      have := Nat.mod_le number (2 ^ 64)
      rw [Nat.toUInt64, UInt64.toNat_ofNat']
      omega
    exact (below_normalize fits).unpack_pack (by decide) (by decide)
  · dsimp only
    rw [if_neg Bool.false_ne_true]
    change (UnpackedFloat.unpack Format.binary64 (UnpackedFloat.pack Format.binary64
      (UnpackedFloat.ofScientific Format.binary64 number 0))).isFinite = true
    unfold UnpackedFloat.ofScientific
    split
    · rfl
    · have room : (0 : Int) < 2 ^ Format.binary64.exponentBits := by decide
      rw [if_neg (by omega), if_neg (by omega), if_pos (by decide)]
      have wide : number <<< 53 * 10 ^ (0 : Int).toNat < 2 ^ 118 := by
        rw [Nat.shiftLeft_eq, Int.toNat_zero, Nat.pow_zero]
        omega
      have rounded : Below 971 (roundWithAccuracy Format.binary64 .positive
          (number <<< 53 * 10 ^ (0 : Int).toNat) (-53 + 0) .exact) :=
        below_roundWithAccuracy .positive wide (by decide) (Int.le_refl 0) (by decide)
      exact (rounded.unpack_pack (by decide) (by decide)).isFinite

/-- Whole numbers of up to sixty-four bits are finite as doubles. -/
theorem isFinite_ofInt {number : Int} (small : number.natAbs < 2 ^ 65) :
    (Float.ofInt number).isFinite = true := by
  cases number with
  | ofNat size => exact isFinite_ofNat small
  | negSucc size => exact isFinite_neg (isFinite_ofNat small)

end ProfileDrift.Double
