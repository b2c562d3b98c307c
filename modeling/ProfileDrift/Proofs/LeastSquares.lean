import Mathlib.Algebra.BigOperators.Ring.List
import Mathlib.Algebra.Order.BigOperators.Group.List
import Mathlib.Data.Real.Basic
import Mathlib.Tactic.FieldSimp
import Mathlib.Tactic.Linarith
import Mathlib.Tactic.Positivity
import Mathlib.Tactic.Ring

namespace ProfileDrift

/-- All that is read off some points is one value. -/
def Coincide {α β : Type} (u : α → β) (points : List α) : Prop :=
  ∀ point ∈ points, ∀ other ∈ points, u point = u other

variable {α : Type} (u v : α → ℝ) (points : List α)

/-- The mean of what is read off some points. -/
noncomputable def average : ℝ := (points.map u).sum / points.length

/-- The sum of the products of two deviations from their means. -/
noncomputable def comoment : ℝ :=
  (points.map fun point => (u point - average u points) * (v point - average v points)).sum

/-- What heights leave over of the values, in squares. -/
def residual (v height : α → ℝ) (points : List α) : ℝ :=
  (points.map fun point => (v point - height point) * (v point - height point)).sum

/-- What the line `v = a + b * u` leaves over, in squares. -/
def misfit (a b : ℝ) : ℝ := residual v (fun point => a + b * u point) points

noncomputable def slope : ℝ := comoment u v points / comoment u u points

noncomputable def intercept : ℝ := average v points - slope u v points * average u points

variable {u v points}

section Image

variable {β : Type} {image : α → β}

theorem coincide_map {γ : Type} {read : β → γ} :
    Coincide read (points.map image) ↔ Coincide (read ∘ image) points := by
  simp only [Coincide, List.forall_mem_map, Function.comp_apply]

theorem coincide_comp {γ : Type} {read : β → γ} (injective : Function.Injective read) :
    Coincide (read ∘ image) points ↔ Coincide image points :=
  forall₄_congr fun _ _ _ _ => injective.eq_iff

theorem average_map {read : β → ℝ} :
    average read (points.map image) = average (read ∘ image) points := by
  rw [average, average, List.map_map, List.length_map]

end Image

theorem length_mul_average : points.length * average u points = (points.map u).sum := by
  cases points with
  | nil => simp [average]
  | cons first rest =>
    have count : ((first :: rest).length : ℝ) ≠ 0 := by
      rw [List.length_cons]
      positivity
    rw [average, mul_div_cancel₀ _ count]

theorem sum_map_const (value : ℝ) : (points.map fun _ => value).sum = points.length * value := by
  rw [List.map_const', List.sum_replicate, nsmul_eq_mul]

/-- Deviations from the mean cancel out. -/
theorem sum_sub_average : (points.map fun point => u point - average u points).sum = 0 := by
  have parts : (points.map fun point => u point - average u points).sum +
      (points.map fun _ => average u points).sum = (points.map u).sum := by
    rw [← List.sum_map_add]
    simp only [sub_add_cancel]
  rw [sum_map_const, length_mul_average] at parts
  linarith

/-- What a line leaves over is what it leaves of the deviations, and how far it passes from
the point of the means. -/
theorem misfit_eq (a b : ℝ) :
    misfit u v points a b =
      comoment v v points - 2 * b * comoment u v points + b ^ 2 * comoment u u points +
        points.length * (average v points - a - b * average u points) ^ 2 := by
  obtain ⟨gap, gap_eq⟩ : ∃ gap, gap = average v points - a - b * average u points := ⟨_, rfl⟩
  have square (point : α) : (v point - (a + b * u point)) * (v point - (a + b * u point)) =
      (v point - average v points) * (v point - average v points) +
        -(2 * b) * ((u point - average u points) * (v point - average v points)) +
        b ^ 2 * ((u point - average u points) * (u point - average u points)) +
        2 * gap * (v point - average v points) + -(2 * b * gap) * (u point - average u points) +
        gap ^ 2 := by
    rw [gap_eq]
    ring
  simp only [misfit, residual, square, List.sum_map_add, List.sum_map_mul_left, sum_sub_average,
    sum_map_const, ← gap_eq]
  rw [comoment, comoment, comoment]
  ring

theorem residual_nonneg (height : α → ℝ) : 0 ≤ residual v height points := by
  refine List.sum_nonneg fun square member => ?_
  obtain ⟨point, _, rfl⟩ := List.mem_map.mp member
  exact mul_self_nonneg _

/-- Nothing is left over only where every value is met. -/
theorem residual_eq_zero_iff {height : α → ℝ} :
    residual v height points = 0 ↔ ∀ point ∈ points, v point = height point := by
  constructor
  · intro none point member
    refine sub_eq_zero.mp (mul_self_eq_zero.mp ?_)
    refine List.all_zero_of_le_zero_le_of_sum_eq_zero (fun square member => ?_) none
      (List.mem_map.mpr ⟨point, member, rfl⟩)
    obtain ⟨point, _, rfl⟩ := List.mem_map.mp member
    exact mul_self_nonneg _
  · intro met
    have squares : (points.map fun point =>
        (v point - height point) * (v point - height point)) = points.map fun _ => 0 := by
      refine List.map_congr_left fun point member => ?_
      rw [met point member, sub_self, mul_zero]
    rw [residual, squares, sum_map_const, mul_zero]

/-- The spread of the values is what their mean leaves over. -/
theorem residual_average : residual v (fun _ => average v points) points = comoment v v points := rfl

theorem misfit_average : misfit u v points (average v points) 0 = comoment v v points := by
  simp only [misfit, zero_mul, add_zero, residual_average]

theorem comoment_self_nonneg : 0 ≤ comoment u u points := by
  rw [← misfit_average (u := u)]
  exact residual_nonneg _

theorem Coincide.average_eq (coincide : Coincide u points) {point : α} (member : point ∈ points) :
    average u points = u point := by
  have count : (points.length : ℝ) ≠ 0 := by simpa using List.ne_nil_of_mem member
  have sums : (points.map u).sum = points.length * u point := by
    rw [← sum_map_const, List.map_congr_left fun other other_member =>
      coincide other other_member point member]
  rw [average, sums, mul_div_cancel_left₀ _ count]

/-- There is no spread exactly where all values are one. -/
theorem comoment_self_eq_zero_iff : comoment u u points = 0 ↔ Coincide u points := by
  rw [← misfit_average (u := u), misfit, residual_eq_zero_iff]
  constructor
  · intro mean point member other other_member
    rw [mean point member, mean other other_member, zero_mul, zero_mul]
  · intro coincide point member
    rw [coincide.average_eq member, zero_mul, add_zero]

/-- How much more any line leaves over than the least squares line does. -/
theorem misfit_eq_add (spread : comoment u u points ≠ 0) (a b : ℝ) :
    misfit u v points a b =
      misfit u v points (intercept u v points) (slope u v points) +
        (comoment u u points * (b - slope u v points) ^ 2 +
          points.length * (average v points - a - b * average u points) ^ 2) := by
  rw [misfit_eq, misfit_eq, intercept, slope]
  field_simp
  ring

theorem misfit_le (spread : comoment u u points ≠ 0) (a b : ℝ) :
    misfit u v points (intercept u v points) (slope u v points) ≤ misfit u v points a b := by
  have squares : 0 ≤ comoment u u points := comoment_self_nonneg
  rw [misfit_eq_add spread a b]
  refine le_add_of_nonneg_right ?_
  positivity

/-- The least squares line is the only one that leaves so little over. -/
theorem misfit_lt (spread : comoment u u points ≠ 0) {a b : ℝ}
    (different : ¬ (a = intercept u v points ∧ b = slope u v points)) :
    misfit u v points (intercept u v points) (slope u v points) < misfit u v points a b := by
  have squares : 0 < comoment u u points := comoment_self_nonneg.lt_of_ne' spread
  have some : 0 < points.length := by
    refine List.length_pos_iff.mpr fun none => spread ?_
    rw [none]
    rfl
  have count : (0 : ℝ) < points.length := by exact_mod_cast some
  rw [misfit_eq_add spread a b]
  refine lt_add_of_pos_right _ ?_
  by_cases steep : b = slope u v points
  · have apart : average v points - a - b * average u points ≠ 0 := fun level =>
      different ⟨by rw [intercept, ← steep]; linarith, steep⟩
    positivity
  · have apart : b - slope u v points ≠ 0 := sub_ne_zero.mpr steep
    positivity

/-- Points on a line have that line as their least squares line. -/
theorem line_of_straight (spread : comoment u u points ≠ 0) {a b : ℝ}
    (straight : ∀ point ∈ points, v point = a + b * u point) :
    intercept u v points = a ∧ slope u v points = b := by
  by_contra different
  have less : misfit u v points (intercept u v points) (slope u v points) < misfit u v points a b :=
    misfit_lt spread fun same => different ⟨same.1.symm, same.2.symm⟩
  have none : misfit u v points a b = 0 := residual_eq_zero_iff.mpr straight
  rw [none] at less
  exact less.not_ge (residual_nonneg _)

/-- A least squares line leaves no more over than the spread of the amounts. -/
theorem misfit_le_comoment (spread : comoment u u points ≠ 0) :
    misfit u v points (intercept u v points) (slope u v points) ≤ comoment v v points := by
  rw [← misfit_average (u := u)]
  exact misfit_le spread ..

end ProfileDrift
