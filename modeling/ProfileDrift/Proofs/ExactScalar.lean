import Mathlib.Analysis.SpecialFunctions.Log.Base
import Mathlib.Analysis.SpecialFunctions.Pow.Real
import ProfileDrift.Decimal.Rounding
import ProfileDrift.Scalar.Blocks

namespace ProfileDrift

/-- The numbers of exact arithmetic: the real ones, an end above and one below all of them,
and what a meaningless operation gives. Only real numbers can be calculated with. The ends
are there to be compared with, and whatever else happens to something that is not real is
undefined, as is a quotient by zero. -/
inductive Exact where
  | real (value : ℝ)
  | highest
  | lowest
  | undefined

namespace Exact

/-- An operation on two real numbers. -/
def lift (operation : ℝ → ℝ → Exact) : Exact → Exact → Exact
  | real left, real right => operation left right
  | _, _ => undefined

def neg : Exact → Exact
  | real value => real (-value)
  | highest => lowest
  | lowest => highest
  | undefined => undefined

noncomputable def div (left right : ℝ) : Exact :=
  if right = 0 then undefined else real (left / right)

def Less : Exact → Exact → Prop
  | real left, real right => left < right
  | lowest, real _ | lowest, highest | real _, highest => True
  | _, _ => False

def AtMost : Exact → Exact → Prop
  | real left, real right => left ≤ right
  | lowest, real _ | lowest, highest | real _, highest | lowest, lowest | highest, highest => True
  | _, _ => False

noncomputable def alike : Exact → Exact → Bool
  | real left, real right => decide (left = right)
  | highest, highest | lowest, lowest => true
  | _, _ => false

def isReal : Exact → Bool
  | real _ => true
  | _ => false

noncomputable def abs : Exact → Exact
  | real value => real |value|
  | highest | lowest => highest
  | undefined => undefined

noncomputable def smaller : Exact → Exact → Exact
  | real left, real right => real (min left right)
  | undefined, other | other, undefined => other
  | lowest, _ | _, lowest => lowest
  | highest, other | other, highest => other

noncomputable def larger : Exact → Exact → Exact
  | real left, real right => real (max left right)
  | undefined, other | other, undefined => other
  | highest, _ | _, highest => highest
  | lowest, other | other, lowest => other

/-- The row of all numbers: the lowest, the real ones by size, the highest, and last what is
undefined. -/
noncomputable def precedes : Exact → Exact → Bool
  | lowest, _ | _, undefined | real _, highest | highest, highest => true
  | real left, real right => decide (left ≤ right)
  | _, _ => false

/-- A logarithm. At zero it has no value but comes from below. -/
noncomputable def logarithm (base : ℝ → ℝ) : Exact → Exact
  | real value => if 0 < value then real (base value) else if value = 0 then lowest else undefined
  | _ => undefined

open Classical in
/-- A power. One of zero with a negative exponent exceeds every number, and one of a negative
number has a value only where the exponent is a whole number. -/
noncomputable def power (base exponent : ℝ) : Exact :=
  if 0 < base ∨ 0 ≤ exponent ∧ base = 0 ∨ base < 0 ∧ ∃ whole : ℤ, exponent = whole then
    real (base ^ exponent)
  else if base = 0 then highest
  else undefined

/-- The gap between one and the next double above it is kept as the number it is. -/
noncomputable instance : Scalar Exact where
  add := lift fun left right => real (left + right)
  sub := lift fun left right => real (left - right)
  mul := lift fun left right => real (left * right)
  div := lift div
  neg := neg
  lt := Less
  le := AtMost
  beq := alike
  ofScientific mantissa small exponent := real (OfScientific.ofScientific mantissa small exponent)
  decideLt _ _ := Classical.dec _
  decideLe _ _ := Classical.dec _
  ofCount count := real count
  infinity := highest
  resolution := real (2 ^ (-52 : ℤ))
  isFinite := isReal
  abs := abs
  smaller := smaller
  larger := larger
  precedes := precedes
  toSingle value := value
  log10 := logarithm (Real.logb 10)
  ln := logarithm Real.log
  power := lift power

/-- The whole number nearest to one that is not negative; a half goes to the even neighbour. -/
noncomputable def nearest (value : ℝ) : ℕ :=
  let whole := ⌊value⌋₊
  if value - whole < 1 / 2 then whole
  else if 1 / 2 < value - whole then whole + 1
  else if whole % 2 = 0 then whole else whole + 1

noncomputable def hundredthsText (value : ℝ) : List Char :=
  let units := nearest (|value| * 100)
  (if value < 0 then ['-'] else []) ++ Decimal.digits (units / 100) ++
    '.' :: (Decimal.digits (units / 10 % 10) ++ Decimal.digits (units % 10))

noncomputable instance : Hundredths Exact where
  hundredths
    | real value => String.ofList (hundredthsText value)
    | highest => "inf"
    | lowest => "-inf"
    | undefined => "NaN"

theorem zero_eq : (0.0 : Exact) = real 0 := congrArg real (by norm_num)

theorem negative_zero_eq : (-0.0 : Exact) = real 0 := congrArg real (by norm_num)

/-- Sums do not depend on how they are taken, whatever the operands are. There is no zero:
nothing can be added to an end and leave it. -/
theorem add_assoc (first second third : Exact) :
    first + second + third = first + (second + third) := by
  cases first <;> cases second <;> cases third <;> try rfl
  exact congrArg real (by ring)

theorem add_comm (left right : Exact) : left + right = right + left := by
  cases left <;> cases right <;> try rfl
  exact congrArg real (by ring)

instance : Std.Associative fun left right : Exact => left + right := ⟨add_assoc⟩

instance : Std.Commutative fun left right : Exact => left + right := ⟨add_comm⟩

theorem add_right_comm (first second third : Exact) :
    first + second + third = first + third + second := by
  ac_rfl

theorem real_add (left right : ℝ) : real left + real right = real (left + right) := rfl

theorem real_div (left : ℝ) {right : ℝ} (nonzero : right ≠ 0) :
    real left / real right = real (left / right) := if_neg nonzero

theorem add_sub_add_right (shift : ℝ) (left right : Exact) :
    left + real shift - (right + real shift) = left - right := by
  cases left <;> cases right <;> try rfl
  exact congrArg real (by ring)

theorem add_sub_right (shift : ℝ) (left right : Exact) :
    left + real shift - right = left - right + real shift := by
  cases left <;> cases right <;> try rfl
  exact congrArg real (by ring)

section Order

theorem smaller_right_comm (first second third : Exact) :
    Scalar.smaller (Scalar.smaller first second) third =
      Scalar.smaller (Scalar.smaller first third) second := by
  cases first <;> cases second <;> cases third <;> try rfl
  · exact congrArg real (min_right_comm ..)
  · exact congrArg real (min_comm ..)
  · exact congrArg real (min_comm ..)

theorem larger_right_comm (first second third : Exact) :
    Scalar.larger (Scalar.larger first second) third =
      Scalar.larger (Scalar.larger first third) second := by
  cases first <;> cases second <;> cases third <;> try rfl
  · exact congrArg real (max_right_comm ..)
  · exact congrArg real (max_comm ..)
  · exact congrArg real (max_comm ..)

theorem beq_iff {left right : Exact} :
    (left == right) = true ↔ left = right ∧ left ≠ undefined := by
  cases left <;> cases right <;> simp [BEq.beq, alike]

instance : PartialEquivBEq Exact where
  symm same := beq_iff.mpr ⟨(beq_iff.mp same).1.symm, (beq_iff.mp same).1 ▸ (beq_iff.mp same).2⟩
  trans same also := beq_iff.mpr ⟨(beq_iff.mp same).1.trans (beq_iff.mp also).1, (beq_iff.mp same).2⟩

end Order

section Scale

variable {factor : ℝ}

/-- The number in units of which one is worth so much less. -/
noncomputable def scale (factor : ℝ) : Exact → Exact
  | real value => real (factor * value)
  | other => other

theorem scale_zero : scale factor 0.0 = 0.0 := by
  rw [zero_eq]
  exact congrArg real (mul_zero factor)

theorem scale_add (left right : Exact) :
    scale factor left + scale factor right = scale factor (left + right) := by
  cases left <;> cases right <;> try rfl
  exact congrArg real (by ring)

theorem scale_sub (left right : Exact) :
    scale factor left - scale factor right = scale factor (left - right) := by
  cases left <;> cases right <;> try rfl
  exact congrArg real (by ring)

theorem scale_mul (left right : Exact) :
    scale factor left * right = scale factor (left * right) := by
  cases left <;> cases right <;> try rfl
  exact congrArg real (by ring)

theorem mul_scale (left right : Exact) :
    left * scale factor right = scale factor (left * right) := by
  cases left <;> cases right <;> try rfl
  exact congrArg real (by ring)

theorem scale_div (left right : Exact) :
    scale factor left / right = scale factor (left / right) := by
  cases left <;> cases right <;> try rfl
  rename_i left right
  change div (factor * left) right = scale factor (div left right)
  unfold div
  split
  · rfl
  · exact congrArg real (mul_div_assoc ..)

theorem scale_div_scale (nonzero : factor ≠ 0) (left right : Exact) :
    scale factor left / scale factor right = left / right := by
  cases left <;> cases right <;> try rfl
  rename_i left right
  change div (factor * left) (factor * right) = div left right
  unfold div
  simp only [mul_eq_zero, nonzero, false_or, mul_div_mul_left left right nonzero]

theorem abs_scale (positive : 0 < factor) (value : Exact) :
    Scalar.abs (scale factor value) = scale factor (Scalar.abs value) := by
  cases value <;> try rfl
  refine congrArg real ?_
  rw [abs_mul, abs_of_pos positive]

theorem larger_scale (positive : 0 < factor) (left right : Exact) :
    Scalar.larger (scale factor left) (scale factor right) =
      scale factor (Scalar.larger left right) := by
  cases left <;> cases right <;> try rfl
  exact congrArg real (mul_max_of_nonneg _ _ positive.le).symm

theorem scale_lt_scale (positive : 0 < factor) {left right : Exact} :
    scale factor left < scale factor right ↔ left < right := by
  cases left <;> cases right <;> try exact Iff.rfl
  exact mul_lt_mul_iff_right₀ positive

theorem scale_le_scale (positive : 0 < factor) {left right : Exact} :
    scale factor left ≤ scale factor right ↔ left ≤ right := by
  cases left <;> cases right <;> try exact Iff.rfl
  exact mul_le_mul_iff_right₀ positive

theorem scale_le_zero (positive : 0 < factor) {value : Exact} :
    scale factor value ≤ 0.0 ↔ value ≤ 0.0 := by
  conv_lhs => rw [← scale_zero, scale_le_scale positive]

theorem zero_lt_scale (positive : 0 < factor) {value : Exact} :
    0.0 < scale factor value ↔ 0.0 < value := by
  conv_lhs => rw [← scale_zero, scale_lt_scale positive]

theorem scale_beq_scale (nonzero : factor ≠ 0) (left right : Exact) :
    (scale factor left == scale factor right) = (left == right) := by
  cases left <;> cases right <;> try rfl
  exact decide_eq_decide.mpr (mul_right_inj' nonzero)

theorem scale_beq_zero (nonzero : factor ≠ 0) (value : Exact) :
    (scale factor value == 0.0) = (value == 0.0) := by
  conv_lhs => rw [← scale_zero, scale_beq_scale nonzero]

theorem isFinite_scale (value : Exact) :
    Scalar.isFinite (scale factor value) = Scalar.isFinite value := by
  cases value <;> rfl

/-- A factor of a number is a summand of its logarithm. -/
theorem log10_scale (positive : 0 < factor) {value : Exact} (within : ¬ value ≤ 0.0) :
    Scalar.log10 (scale factor value) = Scalar.log10 value + real (Real.logb 10 factor) := by
  cases value <;> try rfl
  rename_i value
  rw [zero_eq] at within
  have above : 0 < value := not_le.mp within
  have whole : 0 < factor * value := mul_pos positive above
  change logarithm (Real.logb 10) (real (factor * value)) =
    logarithm (Real.logb 10) (real value) + _
  simp only [logarithm, if_pos above, if_pos whole]
  refine congrArg real ?_
  rw [Real.logb_mul positive.ne' above.ne']
  ring

theorem power_add_log10 (positive : 0 < factor) (exponent : Exact) :
    Scalar.power 10.0 (exponent + real (Real.logb 10 factor)) =
      scale factor (Scalar.power 10.0 exponent) := by
  cases exponent <;> try rfl
  rename_i exponent
  have base : (0 : ℝ) < 10.0 := by norm_num
  have ten : (10.0 : ℝ) = 10 := by norm_num
  change power 10.0 (exponent + Real.logb 10 factor) = scale factor (power 10.0 exponent)
  unfold power
  rw [if_pos (.inl base), if_pos (.inl base)]
  refine congrArg real ?_
  rw [Real.rpow_add base, ten, Real.rpow_logb (by norm_num) (by norm_num) positive]
  ring

end Scale

end Exact

end ProfileDrift
