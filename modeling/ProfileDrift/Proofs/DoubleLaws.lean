import ProfileDrift.Proofs.DoubleParts

namespace ProfileDrift.Double

open Float.Model Float.Model.UnpackedFloat

theorem unpack_pack_zero (sign : Sign) : UnpackedFloat.unpack Format.binary64
    (UnpackedFloat.pack Format.binary64 (.zero sign)) = .zero sign := by
  cases sign <;> rfl

theorem sub_self_eq_zero {value : Float} (finite : value.isFinite = true) : value - value = 0.0 := by
  change Float.ofModel (Float.Model.pack (UnpackedFloat.sub Format.binary64 value.toModel.unpack
    value.toModel.unpack)) = _
  change value.toModel.unpack.isFinite = true at finite
  cases parts : value.toModel.unpack with
  | infinity sign => rw [parts] at finite; cases finite
  | notANumber => rw [parts] at finite; cases finite
  | zero sign => cases sign <;> rfl
  | finite sign mantissa exponent positive =>
    simp only [UnpackedFloat.sub, Int.sub_self]
    rfl

theorem divCore_self {mantissa : Nat} (positive : 0 < mantissa) (exponent : Int) :
    divCore Format.binary64 mantissa exponent mantissa exponent = (2 ^ 53, -53, .exact) := by
  have target : min (exponent - exponent) (Format.binary64.targetExponent
      (totalExponent mantissa exponent - totalExponent mantissa exponent)) = -53 := by
    rw [Int.sub_self, Int.sub_self]
    rfl
  have shift : (exponent - exponent - (-53)).toNat = 53 := by omega
  simp only [divCore, target, shift, Nat.shiftLeft_eq, Nat.mul_div_cancel_left _ positive,
    Nat.mul_mod_right]
  rfl

theorem div_self_eq_one {value : Float} (finite : value.isFinite = true)
    (nonzero : (value == 0.0) = false) : value / value = 1.0 := by
  change Float.ofModel (Float.Model.pack (UnpackedFloat.div Format.binary64 value.toModel.unpack
    value.toModel.unpack)) = _
  change value.toModel.unpack.isFinite = true at finite
  change UnpackedFloat.beq value.toModel.unpack (.zero .positive) = false at nonzero
  cases parts : value.toModel.unpack with
  | infinity sign => rw [parts] at finite; cases finite
  | notANumber => rw [parts] at finite; cases finite
  | zero sign => rw [parts] at nonzero; cases nonzero
  | finite sign mantissa exponent positive =>
    simp only [UnpackedFloat.div, divCore_self positive exponent]
    cases sign <;> rfl

theorem zero_div_abs {value : Float} (finite : value.isFinite = true)
    (nonzero : (value == 0.0) = false) : 0.0 / value.abs = 0.0 := by
  change Float.ofModel (Float.Model.pack (UnpackedFloat.div Format.binary64 (.zero .positive)
    (UnpackedFloat.unpack Format.binary64
      (UnpackedFloat.pack Format.binary64 value.toModel.unpack.abs)))) = _
  rw [unpack_pack_abs finite]
  change value.toModel.unpack.isFinite = true at finite
  change UnpackedFloat.beq value.toModel.unpack (.zero .positive) = false at nonzero
  cases parts : value.toModel.unpack with
  | infinity sign => rw [parts] at finite; cases finite
  | notANumber => rw [parts] at finite; cases finite
  | zero sign => rw [parts] at nonzero; cases nonzero
  | finite sign mantissa exponent positive => rfl

theorem magnitude_swap (mantissa other : Nat) (exponent another : Int) :
    (compare another exponent).then (compare other mantissa) =
      ((compare exponent another).then (compare mantissa other)).swap := by
  rw [Ordering.swap_then, Std.OrientedOrd.eq_swap (a := another), Std.OrientedOrd.eq_swap (a := other)]

theorem compare_swap (left right : UnpackedFloat) :
    UnpackedFloat.compare right left = (UnpackedFloat.compare left right).map Ordering.swap := by
  cases left with
  | notANumber => cases right <;> rfl
  | infinity sign =>
    cases right with
    | infinity other => cases sign <;> cases other <;> rfl
    | notANumber | zero | finite => cases sign <;> rfl
  | zero sign =>
    cases right with
    | infinity other | finite other => cases other <;> rfl
    | notANumber | zero => rfl
  | finite sign mantissa exponent positive =>
    cases right with
    | infinity other => cases other <;> rfl
    | notANumber => rfl
    | zero other => cases sign <;> rfl
    | finite other =>
      cases sign <;> cases other <;>
        simp only [UnpackedFloat.compare, Option.map_some, Ordering.swap,
          magnitude_swap mantissa]

theorem not_le_of_lt {left right : Float} (below : left < right) : ¬ right ≤ left := by
  change Float.lt left right = true at below
  change ¬ Float.le right left = true
  have ordered : UnpackedFloat.lt left.toModel.unpack right.toModel.unpack = true :=
    of_decide_eq_true below
  rw [UnpackedFloat.lt, beq_iff_eq] at ordered
  intro above
  have reversed : UnpackedFloat.le right.toModel.unpack left.toModel.unpack = true :=
    of_decide_eq_true above
  rw [UnpackedFloat.le, compare_swap, ordered] at reversed
  cases reversed

/-- Positive bits that are a number are not below zero. -/
theorem zero_le_packComponents {exponent : BitVec 11} {mantissa : BitVec 52}
    (number : exponent = -1#11 → mantissa = 0#52) :
    UnpackedFloat.le (.zero .positive) (UnpackedFloat.unpack Format.binary64
      (packComponents Format.binary64 .positive exponent mantissa)) = true := by
  rw [UnpackedFloat.unpack]
  simp only [unpackExponent_packComponents, unpackMantissa_packComponents,
    unpackSign_packComponents, Sign.ofBitVec_toBitVec]
  split
  · rename_i infinite
    rw [if_pos (number infinite)]
    rfl
  · split
    · split <;> rfl
    · rfl

theorem zero_le_pack_finite {mantissa : Nat} {exponent : Int} (positive : 0 < mantissa) :
    UnpackedFloat.le (.zero .positive) (UnpackedFloat.unpack Format.binary64
      (UnpackedFloat.pack Format.binary64 (.finite .positive mantissa exponent positive))) = true := by
  rw [UnpackedFloat.pack]
  dsimp only
  split
  · exact zero_le_packComponents fun _ => rfl
  · rename_i range
    split
    · refine zero_le_packComponents fun infinite => absurd (congrArg BitVec.toNat infinite) ?_
      rw [BitVec.toNat_ofNat, Nat.mod_eq_of_lt (by omega)]
      change _ ≠ 2047
      omega
    · exact zero_le_packComponents fun infinite => absurd infinite (by decide)

/-- A small part of an absolute value is not below zero, even where it is rounded. -/
theorem zero_le_mul_abs {value : Float} (finite : value.isFinite = true) :
    (0.0 : Float) ≤ 0.05 * value.abs := by
  change Float.le 0.0 (0.05 * value.abs) = true
  refine decide_eq_true ?_
  change UnpackedFloat.le (.zero .positive) (UnpackedFloat.unpack Format.binary64
    (UnpackedFloat.pack Format.binary64 (UnpackedFloat.mul Format.binary64
      (.finite .positive 7205759403792794 (-57) (by decide))
      (UnpackedFloat.unpack Format.binary64
        (UnpackedFloat.pack Format.binary64 value.toModel.unpack.abs))))) = true
  rw [unpack_pack_abs finite]
  change value.toModel.unpack.isFinite = true at finite
  cases parts : value.toModel.unpack with
  | infinity sign => rw [parts] at finite; cases finite
  | notANumber => rw [parts] at finite; cases finite
  | zero sign =>
    change UnpackedFloat.le _ (UnpackedFloat.unpack Format.binary64
      (UnpackedFloat.pack Format.binary64 (.zero .positive))) = true
    rw [unpack_pack_zero]
    rfl
  | finite sign mantissa exponent positive =>
    simp only [UnpackedFloat.abs, UnpackedFloat.mul, roundWithAccuracy]
    split
    · rfl
    · exact zero_le_pack_finite _

end ProfileDrift.Double
