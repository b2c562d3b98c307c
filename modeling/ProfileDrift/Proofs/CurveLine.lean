import ProfileDrift.Model.Fit
import ProfileDrift.Proofs.ExactScalar

namespace ProfileDrift

open Exact (real)

namespace Exact

theorem real_sub (left right : ℝ) : real left - real right = real (left - right) := rfl

theorem real_mul (left right : ℝ) : real left * real right = real (left * right) := rfl

theorem real_le_real {left right : ℝ} : real left ≤ real right ↔ left ≤ right := Iff.rfl

theorem real_lt_real {left right : ℝ} : real left < real right ↔ left < right := Iff.rfl

theorem log10_real {value : ℝ} (positive : 0 < value) :
    Scalar.log10 (real value) = real (Real.logb 10 value) := if_pos positive

theorem power_real {base : ℝ} (positive : 0 < base) (exponent : ℝ) :
    Scalar.power (real base) (real exponent) = real (base ^ exponent) := if_pos (.inl positive)

theorem ten_eq : (10.0 : Exact) = real 10 := congrArg real (by norm_num)

theorem power_ten (exponent : ℝ) : Scalar.power 10.0 (real exponent) = real (10 ^ exponent) := by
  rw [ten_eq, power_real (by norm_num)]

theorem log10_power_ten (exponent : ℝ) : Real.logb 10 (10 ^ exponent) = exponent :=
  Real.logb_rpow (by norm_num) (by norm_num)

end Exact

namespace Family

/-- Where a size stands in the coordinates in which the family is a straight line. -/
noncomputable def abscissa (family : Family) (x : ℝ) : ℝ :=
  match family with
  | logarithmic | power => Real.logb (10 : ℕ) x
  | quadratic => x * x
  | constant | linear | exponential => x

/-- Where an amount stands in the coordinates in which the family is a straight line. -/
noncomputable def ordinate (family : Family) (y : ℝ) : ℝ :=
  if family.needsPositiveY then Real.logb (10 : ℕ) y else y

/-- The amount that stands at a height. -/
noncomputable def amount (family : Family) (height : ℝ) : ℝ :=
  if family.needsPositiveY then ((10 : ℕ) : ℝ) ^ height else height

/-- The coefficients that a curve of the family can have. A product that is to have a
logarithm has positive factors. -/
inductive Admits : Family → List ℝ → Prop
  | constant (a : ℝ) : Admits .constant [a]
  | linear (a b : ℝ) : Admits .linear [a, b]
  | logarithmic (a b : ℝ) : Admits .logarithmic [a, b]
  | quadratic (a b : ℝ) : Admits .quadratic [a, b]
  | power {a : ℝ} (b : ℝ) : 0 < a → Admits .power [a, b]
  | exponential {a b : ℝ} : 0 < a → 0 < b → Admits .exponential [a, b]

/-- The curve of the family with these coefficients. -/
noncomputable def curve (family : Family) (coefficients : List ℝ) : Model Exact :=
  ⟨family, coefficients.map real, 0.0, 0.0, 0.0⟩

/-- The coefficients of the curve whose straight line is `a + b * u`. -/
noncomputable def ofLine (family : Family) (a b : ℝ) : List ℝ :=
  match family with
  | power => [((10 : ℕ) : ℝ) ^ a, b]
  | exponential => [((10 : ℕ) : ℝ) ^ a, ((10 : ℕ) : ℝ) ^ b]
  | _ => [a, b]

variable {family : Family}

theorem amount_of_logarithms (logarithms : family.needsPositiveY = true) (height : ℝ) :
    family.amount height = 10 ^ height := if_pos logarithms

theorem amount_pos (logarithms : family.needsPositiveY = true) (height : ℝ) :
    0 < family.amount height := by
  rw [amount_of_logarithms logarithms]
  positivity

theorem ordinate_amount (height : ℝ) : family.ordinate (family.amount height) = height := by
  unfold ordinate amount
  split
  · exact Exact.log10_power_ten height
  · rfl

theorem delinearised_real (a b : ℝ) :
    Model.delinearised family (real a) (real b) = (family.ofLine a b).map real := by
  cases family <;>
    simp only [Model.delinearised, ofLine, Exact.power_ten, List.map_cons, List.map_nil,
      Nat.cast_ofNat]

theorem admits_ofLine (sloped : family ≠ .constant) (a b : ℝ) :
    family.Admits (family.ofLine a b) := by
  have positive (exponent : ℝ) : (0 : ℝ) < 10 ^ exponent := by positivity
  cases family with
  | constant => exact absurd rfl sloped
  | linear => exact .linear a b
  | logarithmic => exact .logarithmic a b
  | quadratic => exact .quadratic a b
  | power => exact .power b (positive a)
  | exponential => exact .exponential (positive a) (positive b)

/-- Every curve with a slope is a straight line in the coordinates of its family. -/
theorem Admits.exists_line {coefficients : List ℝ} (admits : family.Admits coefficients)
    (sloped : family ≠ .constant) : ∃ a b, coefficients = family.ofLine a b := by
  have ten {value : ℝ} (positive : 0 < value) : (10 : ℝ) ^ Real.logb 10 value = value :=
    Real.rpow_logb (by norm_num) (by norm_num) positive
  cases admits with
  | constant => exact absurd rfl sloped
  | linear a b | logarithmic a b | quadratic a b => exact ⟨a, b, rfl⟩
  | @power a b positive => exact ⟨Real.logb 10 a, b, by rw [ofLine, Nat.cast_ofNat, ten positive]⟩
  | @exponential a b positive positive' =>
    exact ⟨Real.logb 10 a, Real.logb 10 b, by
      rw [ofLine, Nat.cast_ofNat, ten positive, ten positive']⟩

/-- A curve lies where its straight line does. -/
theorem evaluate_ofLine (sloped : family ≠ .constant) {x : ℝ}
    (within : family.needsPositiveX = true → 0 < x) (a b : ℝ) :
    (family.curve (family.ofLine a b)).evaluate (real x) =
      real (family.amount (a + b * family.abscissa x)) := by
  have ten : (0 : ℝ) < 10 := by norm_num
  cases family with
  | constant => exact absurd rfl sloped
  | linear => rfl
  | quadratic => exact congrArg real (by rw [abscissa, amount]; ring_nf; rfl)
  | logarithmic =>
    change real a + real b * Scalar.log10 (real x) = _
    rw [Exact.log10_real (within rfl)]
    rfl
  | power =>
    change real (10 ^ a) * Scalar.power (real x) (real b) = _
    rw [Exact.power_real (within rfl), Exact.real_mul, amount_of_logarithms rfl, abscissa,
      Nat.cast_ofNat, Real.rpow_add ten, mul_comm b, Real.rpow_mul ten.le,
      Real.rpow_logb ten (by norm_num) (within rfl)]
  | exponential =>
    change real (10 ^ a) * Scalar.power (real (10 ^ b)) (real x) = _
    rw [Exact.power_real (by positivity), Exact.real_mul, amount_of_logarithms rfl, abscissa,
      Real.rpow_add ten, Real.rpow_mul ten.le]

theorem linearised_real {x y : ℝ} (within : family.needsPositiveX = true → 0 < x)
    (within' : family.needsPositiveY = true → 0 < y) :
    Model.linearised family ⟨real x, real y⟩ =
      (real (family.abscissa x), real (family.ordinate y)) := by
  cases family with
  | constant | linear | quadratic => rfl
  | logarithmic =>
    rw [Model.linearised, Exact.log10_real (within rfl)]
    rfl
  | power =>
    rw [Model.linearised, Exact.log10_real (within rfl), Exact.log10_real (within' rfl)]
    rfl
  | exponential =>
    rw [Model.linearised, Exact.log10_real (within' rfl)]
    rfl

end Family

end ProfileDrift
