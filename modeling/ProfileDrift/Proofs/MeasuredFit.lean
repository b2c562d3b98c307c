import ProfileDrift.Proofs.CurveLine
import ProfileDrift.Proofs.LeastSquares
import ProfileDrift.Proofs.RecordingOrder

namespace ProfileDrift

open Exact (real)

variable {α : Type} {u v : α → ℝ} {points : List α}

namespace Exact

theorem sum_map_real (values : List ℝ) : Scalar.sum (values.map real) = real values.sum := by
  induction values with
  | nil => exact zero_eq
  | cons first rest ih => rw [List.map_cons, sum_cons, ih, real_add, List.sum_cons]

theorem mean_map_real (some : points ≠ []) :
    Scalar.mean (points.map fun point => real (u point)) = real (average u points) := by
  have count : (points.length : ℝ) ≠ 0 := by simpa using some
  have values : (points.map fun point => real (u point)) = (points.map u).map real := by
    rw [List.map_map]
    rfl
  rw [Scalar.mean, values, sum_map_real, List.length_map, List.length_map]
  exact real_div _ count

theorem alike_map_real :
    Model.alike (points.map fun point => real (u point)) = true ↔ Coincide u points := by
  simp only [Model.alike, List.all_map, List.all_eq_true, Function.comp_apply, beq_iff, real.injEq,
    ne_eq, reduceCtorEq, not_false_eq_true, and_true]
  exact ⟨fun same point member other other_member => same other other_member point member,
    fun coincide point member other other_member => coincide other other_member point member⟩

end Exact

/-- No value lies farther from the mean than rounding may have put it. -/
def WithinRounding (u : α → ℝ) (points : List α) : Prop :=
  ∀ point ∈ points,
    |u point - average u points| ≤
      points.length * ((2 : ℕ) : ℝ) ^ (-52 : ℤ) * |average u points|

theorem Coincide.withinRounding (coincide : Coincide u points) : WithinRounding u points := by
  intro point member
  rw [coincide.average_eq member, sub_self, abs_zero]
  positivity

theorem comoment_self_ne_zero (spread : ¬ WithinRounding u points) : comoment u u points ≠ 0 :=
  fun none => spread (comoment_self_eq_zero_iff.mp none).withinRounding

namespace Model

section Line

theorem foldl_max_le_iff (deviation : α → ℝ) (points : List α) {start bound : ℝ} :
    points.foldl (fun most point => max most (deviation point)) start ≤ bound ↔
      start ≤ bound ∧ ∀ point ∈ points, deviation point ≤ bound := by
  induction points generalizing start with
  | nil => simp
  | cons first rest ih => rw [List.foldl_cons, ih, max_le_iff, List.forall_mem_cons, and_assoc]

theorem foldl_with (uMean vMean uu uv largest : ℝ) (points : List α) :
    (points.map fun point => (real (u point), real (v point))).foldl
        (Deviations.with (real uMean) (real vMean)) ⟨real uu, real uv, real largest⟩ =
      ⟨real (uu + (points.map fun point => (u point - uMean) * (u point - uMean)).sum),
        real (uv + (points.map fun point => (u point - uMean) * (v point - vMean)).sum),
        real (points.foldl (fun most point => max most |u point - uMean|) largest)⟩ := by
  induction points generalizing uu uv largest with
  | nil => simp
  | cons first rest ih =>
    rw [List.map_cons, List.foldl_cons]
    refine (ih _ _ _).trans ?_
    rw [List.map_cons, List.map_cons, List.sum_cons, List.sum_cons, ← add_assoc, ← add_assoc]
    rfl

theorem deviations_real (points : List α) :
    deviations (real (average u points)) (real (average v points))
        (points.map fun point => (real (u point), real (v point))) =
      ⟨real (comoment u u points), real (comoment u v points),
        real (points.foldl (fun most point => max most |u point - average u points|) 0)⟩ := by
  rw [deviations_eq, Exact.zero_eq, foldl_with, zero_add, zero_add]
  rfl

open Classical in
/-- The line through real points is their least squares line, unless the values that it is
drawn over keep within the rounding of their mean. -/
theorem regress_real (family : Family) (some : points ≠ []) :
    regress family (points.map fun point => (real (u point), real (v point))) =
      if WithinRounding u points then .error (.singularSystem family)
      else .ok (real (intercept u v points), real (slope u v points)) := by
  have sizes : ((points.map fun point => (real (u point), real (v point))).map (·.1)) =
      points.map fun point => real (u point) := List.map_map
  have amounts : ((points.map fun point => (real (u point), real (v point))).map (·.2)) =
      points.map fun point => real (v point) := List.map_map
  have room : 0 ≤ points.length * 2 ^ (-52 : ℤ) * |average u points| := by positivity
  have largest : real (points.foldl (fun most point => max most |u point - average u points|) 0) ≤
      Scalar.ofCount points.length * Scalar.resolution * Scalar.abs (real (average u points)) ↔
      WithinRounding u points :=
    (foldl_max_le_iff _ points).trans (and_iff_right room)
  unfold regress
  rw [sizes, amounts, Exact.mean_map_real some, Exact.mean_map_real some, List.length_map]
  simp only [deviations_real, largest]
  split
  · rename_i infinite
    cases infinite
  · by_cases rounded : WithinRounding u points
    · rw [if_pos rounded, if_pos (by rw [decide_eq_true rounded, Bool.or_true])]
    · have spread := comoment_self_ne_zero rounded
      have nonzero : (real (comoment u u points) == 0.0) = false := by
        rw [Exact.zero_eq]
        exact decide_eq_false spread
      rw [if_neg rounded, if_neg (by rw [nonzero, decide_eq_false rounded]; decide),
        Exact.real_div _ spread]
      rfl

end Line

end Model

/-- Observations of real amounts at real sizes. -/
def measured (points : List (ℝ × ℝ)) : List (Observation Exact) :=
  points.map fun point => ⟨real point.1, real point.2⟩

theorem map_x_measured (points : List (ℝ × ℝ)) :
    (measured points).map (·.x) = points.map fun point => real point.1 := List.map_map

theorem map_y_measured (points : List (ℝ × ℝ)) :
    (measured points).map (·.y) = points.map fun point => real point.2 := List.map_map

namespace Family

/-- All of the points have the logarithms that the family takes of them. -/
structure InDomain (family : Family) (points : List (ℝ × ℝ)) : Prop where
  sizes : family.needsPositiveX = true → ∀ point ∈ points, 0 < point.1
  amounts : family.needsPositiveY = true → ∀ point ∈ points, 0 < point.2

noncomputable def across (family : Family) (point : ℝ × ℝ) : ℝ := family.abscissa point.1

noncomputable def up (family : Family) (point : ℝ × ℝ) : ℝ := family.ordinate point.2

/-- The coefficients of the least squares curve: the mean amount or the least squares line. -/
noncomputable def best (family : Family) (points : List (ℝ × ℝ)) : List ℝ :=
  if family = constant then [average Prod.snd points]
  else family.ofLine (intercept family.across family.up points)
    (slope family.across family.up points)

end Family

/-- The part of the spread of the amounts that heights explain. -/
noncomputable def explainedPart (height : ℝ × ℝ → ℝ) (points : List (ℝ × ℝ)) : ℝ :=
  if comoment Prod.snd Prod.snd points = 0 then 1
  else 1 - residual Prod.snd height points / comoment Prod.snd Prod.snd points

namespace Model

variable {family : Family} {points : List (ℝ × ℝ)} {height : ℝ × ℝ → ℝ}

theorem foldl_withSquares {model : Model Exact} (yMean left total : ℝ)
    (heights : ∀ point ∈ points, model.evaluate (real point.1) = real (height point)) :
    (measured points).foldl (withSquares model (real yMean)) (real left, real total) =
      (real (left + residual Prod.snd height points),
        real (total + residual Prod.snd (fun _ => yMean) points)) := by
  induction points generalizing left total with
  | nil => simp [measured, residual]
  | cons first rest ih =>
    obtain ⟨here, there⟩ := List.forall_mem_cons.mp heights
    have step : withSquares model (real yMean) (real left, real total) ⟨real first.1, real first.2⟩ =
        (real (left + (first.2 - height first) * (first.2 - height first)),
          real (total + (first.2 - yMean) * (first.2 - yMean))) := by
      rw [withSquares, here]
      rfl
    change (measured rest).foldl _ (withSquares model _ _ ⟨real first.1, real first.2⟩) = _
    rw [step, ih _ _ there, residual, residual, residual, residual, List.map_cons, List.map_cons,
      List.sum_cons, List.sum_cons, add_assoc, add_assoc]

theorem explained_measured {model : Model Exact} (some : points ≠ [])
    (heights : ∀ point ∈ points, model.evaluate (real point.1) = real (height point)) :
    explained model (measured points) = real (explainedPart height points) := by
  have squares := foldl_withSquares (average Prod.snd points) 0 0 heights
  rw [zero_add, zero_add, ← Exact.zero_eq, residual_average] at squares
  rw [explained_eq, map_y_measured, Exact.mean_map_real some, squares, explainedPart]
  by_cases flat : comoment Prod.snd Prod.snd points = 0
  · rw [if_pos flat, if_pos (by rw [flat, Exact.zero_eq]; exact decide_eq_true rfl)]
    exact congrArg real (by norm_num)
  · have nonzero : (real (comoment Prod.snd Prod.snd points) == 0.0) = false := by
      rw [Exact.zero_eq]
      exact decide_eq_false flat
    rw [if_neg flat, if_neg (by rw [nonzero]; exact Bool.false_ne_true), Exact.real_div _ flat]
    exact congrArg real (by norm_num)

theorem checkDomain_measured :
    checkDomain family (measured points) = .ok () ↔ family.InDomain points := by
  have positive (read : ℝ × ℝ → ℝ) : (points.any fun point => decide (real (read point) ≤ 0.0)) =
      false ↔ ∀ point ∈ points, 0 < read point := by
    simp only [List.any_eq_false, decide_eq_true_eq, Exact.zero_eq, Exact.real_le_real, not_le]
  unfold checkDomain measured
  simp only [List.any_map, Function.comp_def]
  constructor
  · intro within
    split at within
    · cases within
    · rename_i sizes
      split at within
      · cases within
      · rename_i amounts
        rw [Bool.not_eq_true, Bool.and_eq_false_imp] at sizes amounts
        exact ⟨fun needed => (positive _).mp (sizes needed), fun needed => (positive _).mp (amounts needed)⟩
  · intro within
    have sizes : (family.needsPositiveX &&
        points.any fun point => decide (real point.1 ≤ 0.0)) = false := by
      rw [Bool.and_eq_false_imp]
      exact fun needed => (positive _).mpr (within.sizes needed)
    have amounts : (family.needsPositiveY &&
        points.any fun point => decide (real point.2 ≤ 0.0)) = false := by
      rw [Bool.and_eq_false_imp]
      exact fun needed => (positive _).mpr (within.amounts needed)
    rw [sizes, amounts]
    rfl

open Classical in
theorem checkSpread_measured : checkSpread family (measured points) =
    if Coincide Prod.fst points then .error (.degenerate family)
    else if Coincide Prod.snd points then .error (.flatData family)
    else .ok () := by
  have few : (measured points).length < 2 → Coincide Prod.fst points := by
    intro short
    match points with
    | [] => exact nofun
    | [point] =>
      intro first first_member second second_member
      rw [List.mem_singleton.mp first_member, List.mem_singleton.mp second_member]
    | _ :: _ :: rest => exact absurd short (by simp [measured])
  simp only [checkSpread_eq, map_x_measured, map_y_measured, Exact.alike_map_real,
    or_iff_right_of_imp few]

theorem checkFinite_real {model : Model Exact} {coefficients : List ℝ} {part : ℝ}
    (finite : model.coefficients = coefficients.map real) (definite : model.rSquare = real part) :
    checkFinite model = .ok model := by
  refine checkFinite_eq_ok ?_ ?_
  · rw [finite, List.forall_mem_map]
    exact fun _ _ => rfl
  · rw [definite]
    rfl

theorem linearised_measured (within : family.InDomain points) :
    (measured points).map (linearised family) =
      points.map fun point => (real (family.across point), real (family.up point)) := by
  rw [measured, List.map_map]
  exact List.map_congr_left fun point member => Family.linearised_real
    (fun needed => within.sizes needed point member)
    fun needed => within.amounts needed point member

/-- A curve with a slope passes over every size where its straight line does. -/
theorem evaluate_of_inDomain (sloped : family ≠ .constant) (within : family.InDomain points)
    (a b : ℝ) {point : ℝ × ℝ} (member : point ∈ points) :
    (family.curve (family.ofLine a b)).evaluate (real point.1) =
      real (family.amount (a + b * family.across point)) :=
  Family.evaluate_ofLine sloped (fun needed => within.sizes needed point member) a b

/-- How much of the amounts a least squares curve explains. -/
noncomputable def bestPart (family : Family) (points : List (ℝ × ℝ)) : ℝ :=
  explainedPart
    (fun point =>
      if family = .constant then average Prod.snd points
      else family.amount (intercept family.across family.up points +
        slope family.across family.up points * family.across point)) points

/-- The least squares curve with what it explains. -/
noncomputable def bestModel (family : Family) (points : List (ℝ × ℝ)) : Model Exact :=
  { family.curve (family.best points) with
    rSquare := real (bestPart family points)
    xStart := (sizeRange (measured points)).1
    xEnd := (sizeRange (measured points)).2 }

theorem evaluate_best (within : family.InDomain points) {point : ℝ × ℝ} (member : point ∈ points) :
    (family.curve (family.best points)).evaluate (real point.1) =
      real (if family = .constant then average Prod.snd points
        else family.amount (intercept family.across family.up points +
          slope family.across family.up points * family.across point)) := by
  by_cases constant : family = .constant
  · subst constant
    rfl
  · rw [Family.best, if_neg constant, if_neg constant]
    exact evaluate_of_inDomain constant within _ _ member

theorem ofCoefficients_best (some : points ≠ []) (within : family.InDomain points) :
    ofCoefficients family (measured points) ((family.best points).map real) =
      bestModel family points := by
  have explains : explained ⟨family, (family.best points).map real, 0.0,
      (sizeRange (measured points)).1, (sizeRange (measured points)).2⟩ (measured points) =
      real (bestPart family points) :=
    explained_measured some fun point member => evaluate_best within member
  unfold ofCoefficients
  simp only [explains]
  rfl

theorem checkFinite_best : checkFinite (bestModel family points) = .ok (bestModel family points) :=
  checkFinite_real rfl rfl

theorem fit_constant (some : points ≠ []) :
    fit .constant (measured points) = .ok (bestModel .constant points) := by
  have best : ofCoefficients .constant (measured points)
      ((Family.constant.best points).map real) = bestModel .constant points :=
    ofCoefficients_best some ⟨nofun, nofun⟩
  rw [fit_constant_eq (by simpa [measured] using some), map_y_measured, Exact.mean_map_real some]
  change checkFinite (ofCoefficients .constant (measured points)
    ((Family.constant.best points).map real)) = _
  rw [best, checkFinite_best]

open Classical in
/-- Real observations in the domain of a family are fitted unless there is nothing to tell a
slope from, and then the least squares curve is what is fitted. -/
theorem fit_sloped (sloped : family ≠ .constant) (some : points ≠ [])
    (within : family.InDomain points) :
    fit family (measured points) =
      if Coincide Prod.fst points then .error (.degenerate family)
      else if Coincide Prod.snd points then .error (.flatData family)
      else if WithinRounding family.across points then .error (.singularSystem family)
      else .ok (bestModel family points) := by
  rw [fit_eq, if_neg (by simpa [measured] using some), checkDomain_measured.mpr within,
    if_neg sloped, checkSpread_measured, bestCoefficients_of_sloped sloped,
    linearised_measured within, regress_real family some]
  by_cases degenerate : Coincide Prod.fst points
  · rw [if_pos degenerate, if_pos degenerate]
    rfl
  · rw [if_neg degenerate, if_neg degenerate]
    by_cases flat : Coincide Prod.snd points
    · rw [if_pos flat, if_pos flat]
      rfl
    · rw [if_neg flat, if_neg flat]
      by_cases rounded : WithinRounding family.across points
      · rw [if_pos rounded, if_pos rounded]
        rfl
      · rw [if_neg rounded, if_neg rounded]
        have coefficients : delinearised family (real (intercept family.across family.up points))
            (real (slope family.across family.up points)) = (family.best points).map real := by
          rw [Family.delinearised_real, Family.best, if_neg sloped]
        change checkFinite (ofCoefficients _ (measured points) (delinearised _ _ _)) = _
        rw [coefficients, ofCoefficients_best some within, checkFinite_best]

/-- What is fitted to real observations is the least squares curve of the family. -/
theorem fit_measured_eq_ok {model : Model Exact} (fitted : fit family (measured points) = .ok model) :
    points ≠ [] ∧ family.InDomain points ∧ model = bestModel family points ∧
      (family ≠ .constant → ¬ Coincide Prod.snd points ∧ ¬ WithinRounding family.across points) := by
  obtain ⟨some, within, _⟩ := fit_eq_ok fitted
  have some : points ≠ [] := by simpa [measured] using some
  have within := checkDomain_measured.mp within
  refine ⟨some, within, ?_⟩
  by_cases constant : family = .constant
  · subst constant
    rw [fit_constant some] at fitted
    cases fitted
    exact ⟨rfl, fun sloped => absurd rfl sloped⟩
  · rw [fit_sloped constant some within] at fitted
    split at fitted
    · cases fitted
    · split at fitted
      · cases fitted
      · rename_i varied
        split at fitted
        · cases fitted
        · rename_i spread
          cases fitted
          exact ⟨rfl, fun _ => ⟨varied, spread⟩⟩

end Model

end ProfileDrift
