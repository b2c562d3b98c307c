import ProfileDrift.Proofs.MeasuredFit

namespace ProfileDrift

open Exact (real)

section Spread

variable {α : Type} {v : α → ℝ} {points : List α}

/-- No other level leaves as little over as the mean does. -/
theorem residual_average_lt (some : points ≠ []) {level : ℝ} (different : level ≠ average v points) :
    residual v (fun _ => average v points) points < residual v (fun _ => level) points := by
  have count : (0 : ℝ) < points.length := by exact_mod_cast List.length_pos_iff.mpr some
  have apart : average v points - level ≠ 0 := sub_ne_zero.mpr different.symm
  have flat : residual v (fun _ => level) points = misfit v v points level 0 := by
    simp only [misfit, zero_mul, add_zero]
  rw [residual_average, flat, misfit_eq]
  have more : 0 < points.length * (average v points - level) ^ 2 := by positivity
  linarith

end Spread

section Part

variable {points : List (ℝ × ℝ)} {height : ℝ × ℝ → ℝ}

theorem explainedPart_le_one : explainedPart height points ≤ 1 := by
  unfold explainedPart
  split
  · exact le_rfl
  · exact sub_le_self 1 (div_nonneg (residual_nonneg _) comoment_self_nonneg)

theorem explainedPart_nonneg
    (less : residual Prod.snd height points ≤ comoment Prod.snd Prod.snd points) :
    0 ≤ explainedPart height points := by
  unfold explainedPart
  split
  · exact zero_le_one
  · exact sub_nonneg.mpr (div_le_one_of_le₀ less comoment_self_nonneg)

/-- The mean explains nothing of amounts that are not all alike. -/
theorem explainedPart_average (varied : ¬ Coincide Prod.snd points) :
    explainedPart (fun _ => average Prod.snd points) points = 0 := by
  have spread : comoment Prod.snd Prod.snd points ≠ 0 := comoment_self_eq_zero_iff.not.mpr varied
  rw [explainedPart, if_neg spread, residual_average, div_self spread, sub_self]

end Part

namespace Model

section Gap

variable {α : Type} [Scalar α]

/-- How far an amount lies from the curve, by the scale on which its family is fitted:
between logarithms where the family takes them of the amounts. -/
def gap (model : Model α) (point : Observation α) : α :=
  if model.family.needsPositiveY then
    Scalar.log10 point.y - Scalar.log10 (model.evaluate point.x)
  else point.y - model.evaluate point.x

/-- What the curve leaves over of the amounts, in squares. -/
def leftOver (model : Model α) (observations : List (Observation α)) : α :=
  Scalar.sum (observations.map fun point => model.gap point * model.gap point)

end Gap

variable {family : Family} {points : List (ℝ × ℝ)}

theorem gap_real {coefficients : List ℝ} {x y height : ℝ}
    (evaluates : (family.curve coefficients).evaluate (real x) = real (family.amount height))
    (within : family.needsPositiveY = true → 0 < y) :
    (family.curve coefficients).gap ⟨real x, real y⟩ = real (family.ordinate y - height) := by
  unfold gap
  rw [evaluates]
  cases logarithms : family.needsPositiveY with
  | true =>
    have taken : (family.curve coefficients).family.needsPositiveY = true := logarithms
    rw [if_pos taken, Exact.log10_real (within logarithms),
      Exact.log10_real (Family.amount_pos logarithms height), Exact.real_sub, Family.ordinate,
      Family.amount_of_logarithms logarithms, Exact.log10_power_ten, if_pos logarithms,
      Nat.cast_ofNat]
  | false =>
    have plain : ¬ family.needsPositiveY = true := by rw [logarithms]; exact Bool.false_ne_true
    have taken : ¬ (family.curve coefficients).family.needsPositiveY = true := plain
    rw [if_neg taken, Exact.real_sub, Family.ordinate, Family.amount, if_neg plain, if_neg plain]

theorem leftOver_real {model : Model Exact} {v height : ℝ × ℝ → ℝ}
    (gaps : ∀ point ∈ points,
      model.gap ⟨real point.1, real point.2⟩ = real (v point - height point)) :
    model.leftOver (measured points) = real (residual v height points) := by
  have squares : (measured points).map (fun point => model.gap point * model.gap point) =
      (points.map fun point => (v point - height point) * (v point - height point)).map real := by
    rw [measured, List.map_map, List.map_map]
    refine List.map_congr_left fun point member => ?_
    rw [Function.comp_apply, gaps point member, Exact.real_mul]
    rfl
  rw [leftOver, squares, Exact.sum_map_real]
  rfl

/-- What a curve leaves over is what its straight line leaves over. -/
theorem leftOver_ofLine (sloped : family ≠ .constant) (within : family.InDomain points) (a b : ℝ) :
    (family.curve (family.ofLine a b)).leftOver (measured points) =
      real (misfit family.across family.up points a b) :=
  leftOver_real fun point member => gap_real
    (evaluate_of_inDomain sloped within a b member)
    fun needed => within.amounts needed point member

theorem leftOver_level (a : ℝ) :
    (Family.constant.curve [a]).leftOver (measured points) =
      real (residual Prod.snd (fun _ => a) points) :=
  leftOver_real fun _ _ => rfl

/-- No other curve of the family leaves as little over as the one through the least squares
line, or for a level the mean. -/
theorem leftOver_best_lt (some : points ≠ []) (within : family.InDomain points)
    (spread : family ≠ .constant → ¬ WithinRounding family.across points) {others : List ℝ}
    (admits : family.Admits others) (different : others ≠ family.best points) :
    ∃ least more : ℝ, (family.curve (family.best points)).leftOver (measured points) = real least ∧
      (family.curve others).leftOver (measured points) = real more ∧ least < more := by
  by_cases constant : family = .constant
  · subst constant
    cases admits with
    | constant a =>
      refine ⟨_, _, leftOver_level _, leftOver_level a, residual_average_lt some fun same => ?_⟩
      rw [same] at different
      exact different rfl
  · obtain ⟨a, b, rfl⟩ := admits.exists_line constant
    rw [Family.best, if_neg constant] at different ⊢
    refine ⟨_, _, leftOver_ofLine constant within _ _, leftOver_ofLine constant within a b, ?_⟩
    refine misfit_lt (comoment_self_ne_zero (spread constant)) fun same => different ?_
    rw [same.1, same.2]

theorem bestPart_constant : bestPart .constant points =
    explainedPart (fun _ => average Prod.snd points) points := rfl

/-- Where amounts are fitted as they are, the least squares curve explains no less than their
mean does. -/
theorem bestPart_nonneg (plain : family.needsPositiveY = false)
    (spread : family ≠ .constant → ¬ WithinRounding family.across points) :
    0 ≤ bestPart family points := by
  refine explainedPart_nonneg ?_
  by_cases constant : family = .constant
  · simp only [if_pos constant, residual_average]
    exact le_rfl
  · have unscaled : ¬ family.needsPositiveY = true := by rw [plain]; exact Bool.false_ne_true
    have up : family.up = Prod.snd := by
      funext point
      rw [Family.up, Family.ordinate, if_neg unscaled]
    simp only [if_neg constant, Family.amount, if_neg unscaled, up]
    exact misfit_le_comoment (comoment_self_ne_zero (spread constant))

/-- Fitting is least squares. The curve that is fitted leaves less over of real observations
than every other curve of its family, by the scale on which the family is fitted, its
coefficients are among those that the family admits, and it explains at most all of the
spread. Where no logarithm is taken of the amounts, it does not explain less than their mean. -/
theorem fit_leastSquares {model : Model Exact} (fitted : fit family (measured points) = .ok model) :
    ∃ (coefficients : List ℝ) (part : ℝ),
      model.family = family ∧ model.coefficients = coefficients.map real ∧
      model.rSquare = real part ∧ family.Admits coefficients ∧
      (∀ others, family.Admits others → others ≠ coefficients →
        ∃ least more : ℝ, model.leftOver (measured points) = real least ∧
          (family.curve others).leftOver (measured points) = real more ∧ least < more) ∧
      part ≤ 1 ∧
      (family.needsPositiveY = false → 0 ≤ part ∧
        ∃ level, fit .constant (measured points) = .ok level ∧ level.rSquare ≤ model.rSquare) := by
  obtain ⟨some, within, rfl, sloped⟩ := fit_measured_eq_ok fitted
  have spread : family ≠ .constant → ¬ WithinRounding family.across points :=
    fun different => (sloped different).2
  have admits : family.Admits (family.best points) := by
    unfold Family.best
    split
    · rename_i constant
      rw [constant]
      exact .constant _
    · rename_i different
      exact Family.admits_ofLine different _ _
  refine ⟨family.best points, bestPart family points, rfl, rfl, rfl, admits,
    fun others admitted different => leftOver_best_lt some within spread admitted different,
    explainedPart_le_one, fun plain => ⟨bestPart_nonneg plain spread, _, fit_constant some, ?_⟩⟩
  change bestPart .constant points ≤ bestPart family points
  by_cases constant : family = .constant
  · rw [constant]
  · rw [bestPart_constant, explainedPart_average (sloped constant).1]
    exact bestPart_nonneg plain spread

/-- Three points that are not on a line. -/
def bent : List (ℝ × ℝ) := [(-1, 0), (0, 0), (1, 1)]

theorem best_bent : Family.linear.best bent = [1 / 3, 1 / 2] := by
  have steep : slope Family.linear.across Family.linear.up bent = 1 / 2 := by
    norm_num [slope, comoment, average, bent, Family.across, Family.up, Family.abscissa,
      Family.ordinate, Family.needsPositiveY]
  have level : intercept Family.linear.across Family.linear.up bent = 1 / 3 := by
    rw [intercept, steep]
    norm_num [average, bent, Family.across, Family.up, Family.abscissa, Family.ordinate,
      Family.needsPositiveY]
  rw [Family.best, if_neg (by decide), steep, level]
  rfl

theorem fit_bent : fit .linear (measured bent) = .ok (bestModel .linear bent) := by
  have within : Family.linear.InDomain bent := ⟨nofun, nofun⟩
  have sizes : ¬ Coincide Prod.fst bent := by norm_num [Coincide, bent]
  have amounts : ¬ Coincide Prod.snd bent := by norm_num [Coincide, bent]
  have spread : ¬ WithinRounding Family.linear.across bent := by
    norm_num [WithinRounding, average, bent, Family.across, Family.abscissa]
  rw [fit_sloped (by decide) (by simp [bent]) within, if_neg sizes, if_neg amounts, if_neg spread]

theorem fit_leastSquares_bent :
    ∃ model, fit .linear (measured bent) = .ok model ∧
      model.coefficients = [real (1 / 3), real (1 / 2)] ∧
      ∀ a b : ℝ, [a, b] ≠ [1 / 3, 1 / 2] →
        ∃ least more : ℝ, model.leftOver (measured bent) = real least ∧
          (Family.linear.curve [a, b]).leftOver (measured bent) = real more ∧ least < more := by
  obtain ⟨coefficients, _, _, same, _, _, minimal, _⟩ := fit_leastSquares fit_bent
  have known : coefficients = [1 / 3, 1 / 2] := by
    rw [← best_bent]
    exact (List.map_injective_iff.mpr (fun _ _ => Exact.real.inj) same).symm
  subst known
  exact ⟨_, fit_bent, same, fun a b different => minimal [a, b] (.linear a b) different⟩

end Model

end ProfileDrift
