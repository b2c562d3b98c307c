import Mathlib.Analysis.SpecialFunctions.Integrals.Basic
import ProfileDrift.Proofs.CurveLine

namespace ProfileDrift

open Exact (real)

namespace Family

/-- How high the curve of a family is at a size. -/
noncomputable def height (family : Family) (a b x : ℝ) : ℝ :=
  match family with
  | constant => a
  | linear => a + b * x
  | logarithmic => a + b * Real.logb (10 : ℕ) x
  | quadratic => a + b * x * x
  | power => a * x ^ b
  | exponential => a * b ^ x

/-- An antiderivative of the curve, by cases where there is none of the usual form. -/
noncomputable def primitive (family : Family) (a b x : ℝ) : ℝ :=
  match family with
  | constant => a * x
  | linear => a * x + b * (x * x) / (2 : ℕ)
  | quadratic => a * x + b * (x * (x * x)) / (3 : ℕ)
  | logarithmic => a * x + b * (x * Real.log x - x) / Real.log (10 : ℕ)
  | power => if b + 1 = 0 then a * Real.log x else a * x ^ (b + 1) / (b + 1)
  | exponential => if Real.log b = 0 then a * x else a * b ^ x / Real.log b

/-- The curve has a height at the size: nothing that is not positive is taken to a
logarithm or to a power. -/
structure DefinedAt (family : Family) (b x : ℝ) : Prop where
  size : family.needsPositiveX = true → 0 < x
  base : family = exponential → 0 < b

variable {family : Family} {a b x : ℝ}

theorem continuousAt_height (a : ℝ) (defined : family.DefinedAt b x) :
    ContinuousAt (family.height a b) x := by
  cases family with
  | constant => exact continuousAt_const
  | linear => exact (by fun_prop : Continuous fun x : ℝ => a + b * x).continuousAt
  | quadratic => exact (by fun_prop : Continuous fun x : ℝ => a + b * x * x).continuousAt
  | logarithmic =>
    have positive : 0 < x := defined.size rfl
    exact continuousAt_const.add
      (continuousAt_const.mul ((Real.continuousAt_log positive.ne').div_const _))
  | power =>
    have positive : 0 < x := defined.size rfl
    exact continuousAt_const.mul (Real.continuousAt_rpow_const x b (.inl positive.ne'))
  | exponential =>
    have positive : 0 < b := defined.base rfl
    exact continuousAt_const.mul (Real.continuousAt_const_rpow positive.ne')

theorem hasDerivAt_logarithm_area (positive : 0 < x) :
    HasDerivAt (fun x => x * Real.log x - x) (Real.log x) x := by
  have product := (hasDerivAt_id x).mul (Real.hasDerivAt_log positive.ne')
  refine (product.sub (hasDerivAt_id x)).congr_deriv ?_
  simp [positive.ne']

theorem hasDerivAt_level (a x : ℝ) : HasDerivAt (fun x => a * x) a x := by
  simpa using (hasDerivAt_id x).const_mul a

/-- The exponent minus one is the one that no power is an antiderivative for. -/
theorem hasDerivAt_primitive_power (a b : ℝ) (positive : 0 < x) :
    HasDerivAt (power.primitive a b) (power.height a b x) x := by
  by_cases inverse : b + 1 = 0
  · have own : power.primitive a b = fun x => a * Real.log x := funext fun _ => if_pos inverse
    rw [own]
    refine ((Real.hasDerivAt_log positive.ne').const_mul a).congr_deriv ?_
    rw [height, eq_neg_of_add_eq_zero_left inverse, Real.rpow_neg_one]
  · have usual : power.primitive a b = fun x => a * x ^ (b + 1) / (b + 1) :=
      funext fun _ => if_neg inverse
    rw [usual]
    have raised := (Real.hasDerivAt_rpow_const (p := b + 1) (.inl positive.ne')).const_mul a
    refine (raised.div_const (b + 1)).congr_deriv ?_
    rw [height, add_sub_cancel_right]
    field_simp

/-- The base one is the one whose powers do not grow. -/
theorem hasDerivAt_primitive_exponential (a x : ℝ) (positive : 0 < b) :
    HasDerivAt (exponential.primitive a b) (exponential.height a b x) x := by
  by_cases flat : Real.log b = 0
  · have own : exponential.primitive a b = fun x => a * x := funext fun _ => if_pos flat
    rw [own]
    refine (hasDerivAt_level a x).congr_deriv ?_
    rw [height, Real.eq_one_of_pos_of_log_eq_zero positive flat, Real.one_rpow, mul_one]
  · have usual : exponential.primitive a b = fun x => a * b ^ x / Real.log b :=
      funext fun _ => if_neg flat
    rw [usual]
    have raised := (Real.hasStrictDerivAt_const_rpow positive x).hasDerivAt.const_mul a
    refine (raised.div_const (Real.log b)).congr_deriv ?_
    rw [height]
    field_simp

/-- The height of a curve is what its antiderivative grows by. -/
theorem hasDerivAt_primitive (a : ℝ) (defined : family.DefinedAt b x) :
    HasDerivAt (family.primitive a b) (family.height a b x) x := by
  have level := hasDerivAt_level a x
  have square := (hasDerivAt_id x).mul (hasDerivAt_id x)
  cases family with
  | constant => exact level
  | linear =>
    refine (level.add ((square.const_mul b).div_const 2)).congr_deriv ?_
    simp only [height, id_eq]
    ring
  | quadratic =>
    have cube := (hasDerivAt_id x).mul square
    refine (level.add ((cube.const_mul b).div_const 3)).congr_deriv ?_
    simp only [height, id_eq, Pi.mul_apply]
    ring
  | logarithmic =>
    have area := (hasDerivAt_logarithm_area (defined.size rfl)).const_mul b
    refine (level.add (area.div_const (Real.log 10))).congr_deriv ?_
    rw [height, Real.logb, Nat.cast_ofNat]
    ring
  | power => exact hasDerivAt_primitive_power a b (defined.size rfl)
  | exponential => exact hasDerivAt_primitive_exponential a x (defined.base rfl)

/-- The area under a curve is the difference of its antiderivative at the ends. -/
theorem integral_height {start stop : ℝ} (a : ℝ)
    (defined : ∀ x ∈ Set.uIcc start stop, family.DefinedAt b x) :
    IntervalIntegrable (family.height a b) MeasureTheory.volume start stop ∧
      ∫ x in start..stop, family.height a b x =
        family.primitive a b stop - family.primitive a b start := by
  have integrable : IntervalIntegrable (family.height a b) MeasureTheory.volume start stop :=
    ContinuousOn.intervalIntegrable fun x inside =>
      (continuousAt_height a (defined x inside)).continuousWithinAt
  exact ⟨integrable, intervalIntegral.integral_eq_sub_of_hasDerivAt
    (fun x inside => hasDerivAt_primitive a (defined x inside)) integrable⟩

end Family

namespace Exact

theorem real_eq {value : Exact} (finite : Scalar.isFinite value = true) :
    ∃ number, value = real number := by
  cases value with
  | real number => exact ⟨number, rfl⟩
  | highest | lowest | undefined => cases finite

theorem ln_real {value : ℝ} (positive : 0 < value) :
    Scalar.ln (real value) = real (Real.log value) := if_pos positive

theorem real_beq_zero (value : ℝ) : (real value == 0.0) = decide (value = 0) := by
  rw [zero_eq]
  rfl

theorem one_eq : (1.0 : Exact) = real 1 := congrArg real (by norm_num)

theorem two_eq : (2.0 : Exact) = real 2 := congrArg real (by norm_num)

theorem three_eq : (3.0 : Exact) = real 3 := congrArg real (by norm_num)

end Exact

namespace Model

open Exact in
theorem logarithmArea_real {x : ℝ} (positive : 0 < x) :
    logarithmArea (real x) = real (x * Real.log x - x) := by
  rw [logarithmArea, real_beq_zero, decide_eq_false positive.ne', ln_real positive]
  rfl

variable {model : Model Exact} {a b : ℝ}

/-- A coefficient that is not carried is zero, so all of them are real if those carried are. -/
theorem exists_coefficient_eq
    (finite : ∀ value ∈ model.coefficients, Scalar.isFinite value = true) (index : ℕ) :
    ∃ number, model.coefficient index = real number := by
  rw [coefficient, List.getD_eq_getElem?_getD]
  cases found : model.coefficients[index]? with
  | none => exact ⟨0, Exact.zero_eq⟩
  | some value => exact Exact.real_eq (finite value (List.mem_of_getElem? found))

theorem evaluate_real (first : model.coefficient 0 = real a) (second : model.coefficient 1 = real b)
    {x : ℝ} (defined : model.family.DefinedAt b x) :
    model.evaluate (real x) = real (model.family.height a b x) := by
  obtain ⟨family, coefficients, rSquare, xStart, xEnd⟩ := model
  rw [evaluate, first, second]
  cases family with
  | constant | linear | quadratic => rfl
  | logarithmic =>
    dsimp only
    rw [Exact.log10_real (defined.size rfl)]
    rfl
  | power =>
    dsimp only
    rw [Exact.power_real (defined.size rfl)]
    rfl
  | exponential =>
    dsimp only
    rw [Exact.power_real (defined.base rfl)]
    rfl

open Exact in
/-- The area that is computed is what the antiderivative grows by. -/
theorem integral_real (first : model.coefficient 0 = real a) (second : model.coefficient 1 = real b)
    {start stop : ℝ} (defined : model.family.DefinedAt b start)
    (defined' : model.family.DefinedAt b stop) :
    model.integral (real start) (real stop) =
      real (model.family.primitive a b stop - model.family.primitive a b start) := by
  obtain ⟨family, coefficients, rSquare, xStart, xEnd⟩ := model
  have three : (3 : ℝ) ≠ 0 := by norm_num
  rw [integral, first, second]
  cases family with
  | constant => exact congrArg real (mul_sub a stop start)
  | linear =>
    simp only [two_eq, real_sub, real_mul, real_add, real_div _ two_ne_zero, Family.primitive,
      Nat.cast_ofNat]
    congr 1
    ring
  | quadratic =>
    simp only [three_eq, real_sub, real_mul, real_add, real_div _ three, Family.primitive,
      Nat.cast_ofNat]
    congr 1
    ring
  | logarithmic =>
    have ten : (0 : ℝ) < 10 := by norm_num
    have scale : Real.log 10 ≠ 0 := (Real.log_pos (by norm_num)).ne'
    simp only [ten_eq, ln_real ten, logarithmArea_real (defined.size rfl),
      logarithmArea_real (defined'.size rfl), real_sub, real_mul, real_add, real_div _ scale,
      Family.primitive, Nat.cast_ofNat]
    congr 1
    ring
  | power =>
    have positive : 0 < start := defined.size rfl
    have positive' : 0 < stop := defined'.size rfl
    simp only [one_eq, real_add, real_beq_zero, decide_eq_true_eq, Family.primitive]
    split_ifs with inverse
    · rw [real_div _ positive.ne', ln_real (div_pos positive' positive), real_mul,
        Real.log_div positive'.ne' positive.ne', mul_sub]
    · rw [power_real positive, power_real positive', real_sub, real_mul, real_div _ inverse,
        mul_sub, sub_div]
  | exponential =>
    have positive : 0 < b := defined.base rfl
    simp only [ln_real positive, real_beq_zero, decide_eq_true_eq, Family.primitive]
    split_ifs with flat
    · rw [real_sub, real_mul, mul_sub]
    · rw [power_real positive, power_real positive, real_sub, real_mul, real_div _ flat, mul_sub,
        sub_div]

/-- What is computed for the area under a curve is the integral of what is computed for its
height, wherever the curve is defined. -/
theorem integral_eq_area (finite : ∀ value ∈ model.coefficients, Scalar.isFinite value = true)
    {start stop : ℝ} (ordered : start ≤ stop)
    (sizes : model.family.needsPositiveX = true → 0 < start)
    (base : model.family = .exponential → 0.0 < model.coefficient 1) :
    ∃ height : ℝ → ℝ,
      (∀ x ∈ Set.Icc start stop, model.evaluate (real x) = real (height x)) ∧
      IntervalIntegrable height MeasureTheory.volume start stop ∧
      model.integral (real start) (real stop) = real (∫ x in start..stop, height x) := by
  obtain ⟨a, first⟩ := exists_coefficient_eq finite 0
  obtain ⟨b, second⟩ := exists_coefficient_eq finite 1
  rw [second, Exact.zero_eq] at base
  have defined : ∀ x ∈ Set.Icc start stop, model.family.DefinedAt b x := fun x inside =>
    ⟨fun logarithms => (sizes logarithms).trans_le inside.1, base⟩
  obtain ⟨integrable, area⟩ :=
    Family.integral_height a (by rwa [Set.uIcc_of_le ordered])
  refine ⟨model.family.height a b, fun x inside => evaluate_real first second (defined x inside),
    integrable, ?_⟩
  rw [area]
  exact integral_real first second (defined start (Set.left_mem_Icc.mpr ordered))
    (defined stop (Set.right_mem_Icc.mpr ordered))

/-- Under a hyperbola the area is a logarithm. -/
theorem integral_eq_area_hyperbola : ∃ height : ℝ → ℝ,
    (∀ x ∈ Set.Icc (1 : ℝ) 2,
      (Family.power.curve [3, -1]).evaluate (real x) = real (height x)) ∧
    IntervalIntegrable height MeasureTheory.volume 1 2 ∧
    (Family.power.curve [3, -1]).integral (real 1) (real 2) = real (∫ x in (1 : ℝ)..2, height x) := by
  refine integral_eq_area (fun value member => ?_) one_le_two (fun _ => one_pos) nofun
  obtain ⟨_, _, rfl⟩ := List.mem_map.mp member
  rfl

end Model

end ProfileDrift
