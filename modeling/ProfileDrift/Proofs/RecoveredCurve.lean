import ProfileDrift.Proofs.FittedCurve

namespace ProfileDrift

open Exact (real)

theorem withinRounding_map {α β : Type} {read : β → ℝ} {image : α → β} {points : List α} :
    WithinRounding read (points.map image) ↔ WithinRounding (read ∘ image) points := by
  simp only [WithinRounding, List.forall_mem_map, average_map, List.length_map, Function.comp_apply]

theorem coincide_y_measured {points : List (ℝ × ℝ)} :
    Coincide Observation.y (measured points) ↔ Coincide Prod.snd points :=
  coincide_map.trans (coincide_comp fun _ _ => Exact.real.inj)

theorem explainedPart_eq_one {points : List (ℝ × ℝ)} {height : ℝ × ℝ → ℝ}
    (met : ∀ point ∈ points, point.2 = height point) : explainedPart height points = 1 := by
  unfold explainedPart
  split
  · rfl
  · rw [residual_eq_zero_iff.mpr met, zero_div, sub_zero]

/-- The amounts of a curve at some sizes. -/
noncomputable def Model.observed (model : Model Exact) (sizes : List ℝ) :
    List (Observation Exact) :=
  sizes.map fun x => ⟨real x, model.evaluate (real x)⟩

namespace Family

/-- Points whose straight line is `a + b * u`. -/
noncomputable def onLine (family : Family) (a b : ℝ) (sizes : List ℝ) : List (ℝ × ℝ) :=
  sizes.map fun x => (x, family.amount (a + b * family.abscissa x))

variable {family : Family} {a b : ℝ} {sizes : List ℝ}

theorem inDomain_onLine (within : family.needsPositiveX = true → ∀ x ∈ sizes, 0 < x) :
    family.InDomain (family.onLine a b sizes) where
  sizes needed := List.forall_mem_map.mpr fun x member => within needed x member
  amounts needed := List.forall_mem_map.mpr fun _ _ => amount_pos needed _

theorem observed_ofLine (sloped : family ≠ .constant)
    (within : family.needsPositiveX = true → ∀ x ∈ sizes, 0 < x) :
    (family.curve (family.ofLine a b)).observed sizes = measured (family.onLine a b sizes) := by
  rw [measured, onLine, List.map_map]
  refine List.map_congr_left fun x member => ?_
  rw [evaluate_ofLine sloped fun needed => within needed x member]
  rfl

/-- The line through points of a curve is the straight line of the curve. -/
theorem best_onLine
    (spread : ¬ WithinRounding family.across (family.onLine a b sizes)) :
    intercept family.across family.up (family.onLine a b sizes) = a ∧
      slope family.across family.up (family.onLine a b sizes) = b :=
  line_of_straight (comoment_self_ne_zero spread)
    (List.forall_mem_map.mpr fun _ _ => ordinate_amount _)

end Family

namespace Model

variable {family : Family} {a b : ℝ} {sizes : List ℝ}

/-- Points of a curve that are fitted give the curve back, and it explains all of them. -/
theorem bestModel_onLine (sloped : family ≠ .constant)
    (spread : ¬ WithinRounding family.across (family.onLine a b sizes)) :
    family.best (family.onLine a b sizes) = family.ofLine a b ∧
      bestPart family (family.onLine a b sizes) = 1 := by
  obtain ⟨level, steep⟩ := Family.best_onLine spread
  rw [Family.best, if_neg sloped, bestPart, level, steep]
  refine ⟨rfl, explainedPart_eq_one ?_⟩
  simp only [if_neg sloped]
  exact List.forall_mem_map.mpr fun _ _ => rfl

open Classical in
theorem fit_onLine (sloped : family ≠ .constant) (some : sizes ≠ [])
    (within : family.needsPositiveX = true → ∀ x ∈ sizes, 0 < x) :
    fit family (measured (family.onLine a b sizes)) =
      if Coincide id sizes then .error (.degenerate family)
      else if Coincide Prod.snd (family.onLine a b sizes) then .error (.flatData family)
      else if WithinRounding family.abscissa sizes then .error (.singularSystem family)
      else .ok (bestModel family (family.onLine a b sizes)) := by
  have some : family.onLine a b sizes ≠ [] := by simpa [Family.onLine] using some
  rw [fit_sloped sloped some (Family.inDomain_onLine within)]
  exact if_congr coincide_map rfl (if_congr .rfl rfl (if_congr withinRounding_map rfl rfl))

/-- The three ways in which a fit to points of a curve can fail. -/
theorem fit_onLine_eq_error_iff (sloped : family ≠ .constant) (some : sizes ≠ [])
    (within : family.needsPositiveX = true → ∀ x ∈ sizes, 0 < x) {failure : FitFailure} :
    fit family (measured (family.onLine a b sizes)) = .error failure ↔
      failure = .degenerate family ∧ Coincide id sizes ∨
        failure = .flatData family ∧ ¬ Coincide id sizes ∧
          Coincide Prod.snd (family.onLine a b sizes) ∨
        failure = .singularSystem family ∧ ¬ Coincide id sizes ∧
          ¬ Coincide Prod.snd (family.onLine a b sizes) ∧
            WithinRounding family.abscissa sizes := by
  rw [fit_onLine sloped some within]
  by_cases degenerate : Coincide id sizes
  · simp [degenerate, eq_comm]
  · by_cases flat : Coincide Prod.snd (family.onLine a b sizes)
    · simp [degenerate, flat, eq_comm]
    · by_cases rounded : WithinRounding family.abscissa sizes <;>
        simp [degenerate, flat, rounded, eq_comm]

theorem fit_onLine_eq_ok (sloped : family ≠ .constant) {model : Model Exact}
    (fitted : fit family (measured (family.onLine a b sizes)) = .ok model) :
    model.family = family ∧ model.coefficients = (family.ofLine a b).map real ∧
      model.rSquare = real 1 := by
  obtain ⟨_, _, rfl, spread⟩ := fit_measured_eq_ok fitted
  obtain ⟨line, all⟩ := bestModel_onLine sloped (spread sloped).2
  exact ⟨rfl, congrArg (List.map real) line, congrArg real all⟩

theorem bestModel_level (some : sizes ≠ []) :
    Family.constant.best (sizes.map fun x => (x, a)) = [a] ∧
      bestPart .constant (sizes.map fun x => (x, a)) = 1 := by
  have level : average Prod.snd (sizes.map fun x => (x, a)) = a := by
    have count : (sizes.length : ℝ) ≠ 0 := by simpa using some
    rw [average_map, average]
    change (sizes.map fun _ => a).sum / _ = a
    rw [sum_map_const, mul_div_cancel_left₀ _ count]
  refine ⟨congrArg (fun level => [level]) level, ?_⟩
  rw [bestPart_constant, level]
  exact explainedPart_eq_one (List.forall_mem_map.mpr fun _ _ => rfl)

/-- Fitting recovers the curve that observations come from. Where every amount is the value of
a curve of the family, the coefficients of that curve are found and explain everything, and
there are three ways for it to fail: all sizes are one, all amounts are one, or the sizes keep
within the rounding of their mean in the coordinates of the family. A level never fails. -/
theorem fit_recovers {coefficients : List ℝ} (admits : family.Admits coefficients)
    (some : sizes ≠ []) (within : family.needsPositiveX = true → ∀ x ∈ sizes, 0 < x) :
    let observations := (family.curve coefficients).observed sizes
    (∀ model, fit family observations = .ok model →
      model.family = family ∧ model.coefficients = coefficients.map real ∧
        model.rSquare = real 1) ∧
    ∀ failure, fit family observations = .error failure ↔
      family ≠ .constant ∧
        (failure = .degenerate family ∧ Coincide id sizes ∨
          failure = .flatData family ∧ ¬ Coincide id sizes ∧ Coincide Observation.y observations ∨
          failure = .singularSystem family ∧ ¬ Coincide id sizes ∧
            ¬ Coincide Observation.y observations ∧ WithinRounding family.abscissa sizes) := by
  intro observations
  by_cases constant : family = .constant
  · subst constant
    cases admits with
    | constant a =>
      have level : observations = measured (sizes.map fun x => (x, a)) := by
        rw [measured, List.map_map]
        rfl
      obtain ⟨mean, all⟩ := bestModel_level (a := a) some
      rw [level, fit_constant (by simpa using some)]
      refine ⟨fun model fitted => ?_,
        fun failure => ⟨fun failed => ?_, fun other => absurd rfl other.1⟩⟩
      · cases fitted
        exact ⟨rfl, congrArg (List.map real) mean, congrArg real all⟩
      · cases failed
  · obtain ⟨a, b, rfl⟩ := admits.exists_line constant
    have level : observations = measured (family.onLine a b sizes) :=
      Family.observed_ofLine constant within
    rw [level, coincide_y_measured]
    refine ⟨fun model fitted => fit_onLine_eq_ok constant fitted, fun failure => ?_⟩
    rw [fit_onLine_eq_error_iff constant some within, and_iff_right constant]

/-- Cubes at one and at ten. -/
theorem fit_recovers_cubes :
    Family.power.Admits [2, 3] ∧ ([1, 10] : List ℝ) ≠ [] ∧ (∀ x ∈ [1, 10], (0 : ℝ) < x) ∧
      ∃ model, fit .power ((Family.power.curve [2, 3]).observed [1, 10]) = .ok model ∧
        model.coefficients = [real 2, real 3] ∧ model.rSquare = real 1 := by
  have admits : Family.power.Admits [2, 3] := .power 3 two_pos
  have positive : ∀ x ∈ [1, 10], (0 : ℝ) < x := by norm_num
  have cubes : (Family.power.curve [2, 3]).observed [1, 10] =
      [⟨real 1, real 2⟩, ⟨real 10, real 2000⟩] := by
    have value {x : ℝ} (above : 0 < x) :
        (Family.power.curve [2, 3]).evaluate (real x) = real (2 * x ^ (3 : ℝ)) :=
      congrArg (real 2 * ·) (Exact.power_real above 3)
    norm_num [observed, value]
  obtain ⟨recovered, failed⟩ := fit_recovers admits (List.cons_ne_nil _ _) fun _ => positive
  rw [cubes] at recovered failed ⊢
  refine ⟨admits, List.cons_ne_nil _ _, positive, ?_⟩
  cases outcome : fit .power [⟨real 1, real 2⟩, ⟨real 10, real 2000⟩] with
  | ok model => exact ⟨model, rfl, (recovered model outcome).2⟩
  | error failure =>
    obtain ⟨_, ⟨_, degenerate⟩ | ⟨_, _, flat⟩ | ⟨_, _, _, rounded⟩⟩ := (failed failure).mp outcome
    · norm_num [Coincide] at degenerate
    · norm_num [Coincide] at flat
    · norm_num [WithinRounding, average, Family.abscissa] at rounded

end Model

end ProfileDrift
