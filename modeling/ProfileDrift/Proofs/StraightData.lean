import ProfileDrift.Proofs.BestSelection
import ProfileDrift.Proofs.RecoveredCurve

namespace ProfileDrift

open Exact (real)

section Exponential

/-- Seen from a point where a line meets the exponential, all other such points lie on one
side, since the exponential lies above its tangents. -/
theorem exp_same_side {level steep t s r : ℝ} (here : Real.exp t = level + steep * t)
    (there : Real.exp s = level + steep * s) (there' : Real.exp r = level + steep * r)
    (apart : s ≠ t) (apart' : r ≠ t) : 0 < (s - t) * (r - t) := by
  have above {other : ℝ} (met : Real.exp other = level + steep * other) (different : other ≠ t) :
      0 < (steep - Real.exp t) * (other - t) := by
    have tangent := Real.add_one_lt_exp (sub_ne_zero.mpr different)
    have grown := mul_lt_mul_of_pos_left tangent (Real.exp_pos t)
    rw [← Real.exp_add, add_sub_cancel, met] at grown
    linarith
  have both := mul_pos (above there apart) (above there' apart')
  have square : (steep - Real.exp t) * (s - t) * ((steep - Real.exp t) * (r - t)) =
      (steep - Real.exp t) ^ 2 * ((s - t) * (r - t)) := by ring
  rw [square] at both
  exact pos_of_mul_pos_right both (sq_nonneg _)

/-- A line meets the exponential in no more than two points. -/
theorem exp_not_straight {level steep t s r : ℝ} (first : Real.exp t = level + steep * t)
    (second : Real.exp s = level + steep * s) (third : Real.exp r = level + steep * r)
    (ts : t ≠ s) (tr : t ≠ r) (sr : s ≠ r) : False := by
  have one := exp_same_side first second third ts.symm tr.symm
  have two := exp_same_side second first third ts sr.symm
  have three := exp_same_side third first second tr sr
  have product := mul_pos (mul_pos one two) three
  have opposite : (s - t) * (r - t) * ((t - s) * (r - s)) * ((t - r) * (s - r)) =
      -((t - s) * (t - r) * (s - r)) ^ 2 := by ring
  rw [opposite] at product
  exact product.not_ge (neg_nonpos.mpr (sq_nonneg _))

/-- Three points of a line that is not level lie on no curve of exponential growth. -/
theorem power_ten_not_straight {height rate a b x y z : ℝ} (sloped : b ≠ 0)
    (first : (10 : ℝ) ^ (height + rate * x) = a + b * x)
    (second : (10 : ℝ) ^ (height + rate * y) = a + b * y)
    (third : (10 : ℝ) ^ (height + rate * z) = a + b * z)
    (xy : x ≠ y) (xz : x ≠ z) (yz : y ≠ z) : False := by
  by_cases level : rate = 0
  · rw [level, zero_mul, add_zero] at first second
    exact xy (mul_left_cancel₀ sloped (by linarith))
  · have base : Real.log 10 ≠ 0 := (Real.log_pos (by norm_num)).ne'
    -- in the exponent as coordinate the line is a line again
    have met {x : ℝ} (curve : (10 : ℝ) ^ (height + rate * x) = a + b * x) :
        Real.exp (Real.log 10 * (height + rate * x)) =
          a - b * height / rate + b / (rate * Real.log 10) * (Real.log 10 * (height + rate * x)) := by
      rw [← Real.rpow_def_of_pos (by norm_num), curve]
      field_simp
      ring
    have apart {x y : ℝ} (different : x ≠ y) :
        Real.log 10 * (height + rate * x) ≠ Real.log 10 * (height + rate * y) := by
      intro same
      exact different (mul_left_cancel₀ level (add_left_cancel (mul_left_cancel₀ base same)))
    exact exp_not_straight (met first) (met second) (met third) (apart xy) (apart xz) (apart yz)

end Exponential

namespace Model

section Selection

variable {α : Type} [Scalar α]

/-- A model that is better than each of the others, and than which none of them is better, is
selected wherever it stands among them. -/
theorem selectBest?_eq_some {models : List (Model α)} {best : Model α} (member : best ∈ models)
    (definite : Scalar.isFinite best.rSquare = true)
    (ahead : ∀ model ∈ models, model ≠ best → beats best model = true ∧ beats model best = false) :
    selectBest? models = some best := by
  induction models using List.reverseRecOn with
  | nil => exact absurd member List.not_mem_nil
  | append_singleton models candidate ih =>
    rw [List.forall_mem_append, List.forall_mem_singleton] at ahead
    rw [selectBest?_concat]
    by_cases same : candidate = best
    · subst same
      unfold better
      rw [if_pos definite]
      cases prior : selectBest? models with
      | none => rfl
      | some current =>
        by_cases again : current = candidate
        · rw [again]
          exact ite_self _
        · exact if_pos (ahead.1 current (mem_of_selectBest? prior) again).1
    · have earlier : best ∈ models :=
        (List.mem_append.mp member).resolve_right fun last => same (List.mem_singleton.mp last).symm
      rw [ih earlier ahead.1]
      unfold better
      split
      · exact if_neg (by rw [(ahead.2 same).2]; exact Bool.false_ne_true)
      · rfl

theorem beats_real {model other : Model Exact} {part part' : ℝ} (explains : model.rSquare = real part)
    (explains' : other.rSquare = real part') :
    beats model other = true ↔
      part' < part ∨ part = part' ∧ model.family.name < other.family.name := by
  rw [beats, explains, explains', Bool.or_eq_true, Bool.and_eq_true, decide_eq_true_eq,
    decide_eq_true_eq, Exact.beq_iff, Exact.real_lt_real, Exact.real.injEq]
  simp

end Selection

variable {a b : ℝ} {sizes : List ℝ}

theorem explainedPart_lt_one {points : List (ℝ × ℝ)} {height : ℝ × ℝ → ℝ}
    (varied : ¬ Coincide Prod.snd points) (missed : ¬ ∀ point ∈ points, point.2 = height point) :
    explainedPart height points < 1 := by
  have spread : comoment Prod.snd Prod.snd points ≠ 0 := comoment_self_eq_zero_iff.not.mpr varied
  have more : residual Prod.snd height points ≠ 0 := residual_eq_zero_iff.not.mpr missed
  rw [explainedPart, if_neg spread]
  exact sub_lt_self 1 (div_pos ((residual_nonneg _).lt_of_ne' more)
    (comoment_self_nonneg.lt_of_ne' spread))

theorem not_coincide_onLine (sloped : b ≠ 0) {x y : ℝ} (x_member : x ∈ sizes)
    (y_member : y ∈ sizes) (different : x ≠ y) :
    ¬ Coincide Prod.snd (Family.linear.onLine a b sizes) := by
  intro same
  have equal : a + b * x = a + b * y := coincide_map.mp same x x_member y y_member
  exact different (mul_left_cancel₀ sloped (add_left_cancel equal))

/-- Of the points of a line that is not level other families explain less, or as much at most
where their names come later. -/
theorem bestPart_onLine (sloped : b ≠ 0)
    (three : ∃ x ∈ sizes, ∃ y ∈ sizes, ∃ z ∈ sizes, x ≠ y ∧ x ≠ z ∧ y ≠ z)
    {family : Family} (other : family ≠ .linear) :
    bestPart family (Family.linear.onLine a b sizes) < 1 ∨
      Family.linear.name < family.name ∧ bestPart family (Family.linear.onLine a b sizes) ≤ 1 := by
  obtain ⟨x, x_member, y, y_member, z, z_member, xy, xz, yz⟩ := three
  have varied : ¬ Coincide Prod.snd (Family.linear.onLine a b sizes) :=
    not_coincide_onLine sloped x_member y_member xy
  cases family with
  | linear => exact absurd rfl other
  | constant =>
    rw [bestPart_constant, explainedPart_average varied]
    exact .inl one_pos
  | exponential =>
    refine .inl (explainedPart_lt_one varied fun met => ?_)
    have through {x : ℝ} (member : x ∈ sizes) := met (x, a + b * x) (List.mem_map_of_mem member)
    exact power_ten_not_straight sloped (through x_member).symm (through y_member).symm
      (through z_member).symm xy xz yz
  | logarithmic | power | quadratic => exact .inr ⟨by decide, explainedPart_le_one⟩

open Classical in
/-- A line that is not level is fitted unless its sizes keep within the rounding of their mean. -/
theorem fit_linear_onLine (sloped : b ≠ 0) {x y : ℝ} (x_member : x ∈ sizes) (y_member : y ∈ sizes)
    (different : x ≠ y) :
    fit .linear (measured (Family.linear.onLine a b sizes)) =
      if WithinRounding Family.linear.abscissa sizes then .error (.singularSystem .linear)
      else .ok (bestModel .linear (Family.linear.onLine a b sizes)) := by
  have degenerate : ¬ Coincide id sizes := fun same => different (same x x_member y y_member)
  have flat : ¬ Coincide Prod.snd (Family.linear.onLine a b sizes) :=
    not_coincide_onLine sloped x_member y_member different
  have within : Family.linear.needsPositiveX = true → ∀ x ∈ sizes, 0 < x :=
    fun needed => absurd needed Bool.false_ne_true
  rw [fit_onLine (by decide) (List.ne_nil_of_mem x_member) within, if_neg degenerate, if_neg flat]

/-- The line through the points of a line that is not level is better than the best curve of
any other family. -/
theorem beats_onLine (sloped : b ≠ 0)
    (three : ∃ x ∈ sizes, ∃ y ∈ sizes, ∃ z ∈ sizes, x ≠ y ∧ x ≠ z ∧ y ≠ z)
    (all : bestPart .linear (Family.linear.onLine a b sizes) = 1) {family : Family}
    (other : family ≠ .linear) :
    beats (bestModel .linear (Family.linear.onLine a b sizes))
        (bestModel family (Family.linear.onLine a b sizes)) = true ∧
      beats (bestModel family (Family.linear.onLine a b sizes))
        (bestModel .linear (Family.linear.onLine a b sizes)) = false := by
  have explains : (bestModel .linear (Family.linear.onLine a b sizes)).rSquare = real 1 :=
    congrArg real all
  have explains' : (bestModel family (Family.linear.onLine a b sizes)).rSquare =
      real (bestPart family (Family.linear.onLine a b sizes)) := rfl
  rw [Bool.eq_false_iff, beats_real explains explains', Ne, beats_real explains' explains]
  rcases bestPart_onLine (a := a) sloped three other with less | ⟨named, most⟩
  · exact ⟨.inl less, by rintro (more | ⟨equal, _⟩) <;> linarith⟩
  · refine ⟨most.lt_or_eq.imp_right fun equal => ⟨equal.symm, named⟩, ?_⟩
    rintro (more | ⟨_, before⟩)
    · linarith
    · exact lt_asymm named before

/-- Observations on a line that is not level are told to be on it, whatever other curves can be
fitted to them, if there are three different sizes among them and the sizes do not keep within
the rounding of their mean. -/
theorem selectBest?_straight (sloped : b ≠ 0)
    (three : ∃ x ∈ sizes, ∃ y ∈ sizes, ∃ z ∈ sizes, x ≠ y ∧ x ≠ z ∧ y ≠ z)
    (regular : fit .linear (sizes.map fun x => ⟨real x, real (a + b * x)⟩) ≠
      .error (.singularSystem .linear)) :
    ∃ best, selectBest? (fitAll (sizes.map fun x => ⟨real x, real (a + b * x)⟩)) = some best ∧
      best.family = .linear ∧ best.coefficients = [real a, real b] ∧ best.rSquare = real 1 := by
  have line : (sizes.map fun x => (⟨real x, real (a + b * x)⟩ : Observation Exact)) =
      measured (Family.linear.onLine a b sizes) := by
    rw [measured, Family.onLine, List.map_map]
    rfl
  rw [line] at regular ⊢
  obtain ⟨x, x_member, y, y_member, _, _, xy, _⟩ := id three
  have fitted := fit_linear_onLine (a := a) sloped x_member y_member xy
  split at fitted
  · exact absurd fitted regular
  · obtain ⟨_, coefficients, whole⟩ := fit_onLine_eq_ok (by decide) fitted
    refine ⟨bestModel .linear (Family.linear.onLine a b sizes), selectBest?_eq_some ?_ rfl ?_, rfl,
      coefficients, whole⟩
    · exact List.mem_filterMap.mpr ⟨.linear, by decide, by rw [fitted]; rfl⟩
    · intro model member different
      obtain ⟨family, found⟩ := fit_of_mem_fitAll member
      obtain ⟨_, _, rfl, _⟩ := fit_measured_eq_ok found
      exact beats_onLine sloped three (Exact.real.inj whole) fun same => different (by rw [same])

/-- At one, two and three every family can be fitted. -/
theorem selectBest?_straight_counting :
    (2 : ℝ) ≠ 0 ∧
      (∃ x ∈ [1, 2, 3], ∃ y ∈ [1, 2, 3], ∃ z ∈ [1, 2, 3], (x : ℝ) ≠ y ∧ x ≠ z ∧ y ≠ z) ∧
      fit .linear ([1, 2, 3].map fun x : ℝ => ⟨real x, real (1 + 2 * x)⟩) ≠
        .error (.singularSystem .linear) ∧
      ∃ best, selectBest? (fitAll ([1, 2, 3].map fun x : ℝ => ⟨real x, real (1 + 2 * x)⟩)) =
          some best ∧
        best.family = .linear ∧ best.coefficients = [real 1, real 2] ∧ best.rSquare = real 1 := by
  have three : ∃ x ∈ [1, 2, 3], ∃ y ∈ [1, 2, 3], ∃ z ∈ [1, 2, 3],
      (x : ℝ) ≠ y ∧ x ≠ z ∧ y ≠ z :=
    ⟨1, by simp, 2, by simp, 3, by simp, by norm_num, by norm_num, by norm_num⟩
  have regular : fit .linear ([1, 2, 3].map fun x : ℝ => ⟨real x, real (1 + 2 * x)⟩) ≠
      .error (.singularSystem .linear) := by
    have spread : ¬ WithinRounding Family.linear.abscissa [1, 2, 3] := by
      norm_num [WithinRounding, average, Family.abscissa]
    have fitted : fit .linear (measured (Family.linear.onLine 1 2 [1, 2, 3])) =
        .ok (bestModel .linear (Family.linear.onLine 1 2 [1, 2, 3])) := by
      rw [fit_linear_onLine two_ne_zero (x := 1) (y := 2) (by simp) (by simp) (by norm_num),
        if_neg spread]
    intro singular
    rw [show fit .linear ([1, 2, 3].map fun x : ℝ => ⟨real x, real (1 + 2 * x)⟩) =
      .ok _ from fitted] at singular
    cases singular
  exact ⟨two_ne_zero, three, regular, selectBest?_straight two_ne_zero three regular⟩

end Model

end ProfileDrift
