import ProfileDrift.Proofs.DoubleShare
import ProfileDrift.Proofs.FlatData

namespace ProfileDrift

namespace Double

/-- No finite number is above infinity or below its negative, so a range that begins with
them is the range of its first number. -/
theorem range_of_first {value : Float} (finite : value.isFinite = true) :
    Scalar.smaller Scalar.infinity value = value ∧
      Scalar.larger (-Scalar.infinity) value = value := by
  have number : ¬ value.isNaN = true := by
    rw [not_isNaN_of_isFinite finite]
    exact Bool.false_ne_true
  have ordered : ¬ Scalar.infinity < value ∧ ¬ value < -Scalar.infinity := by
    change value.toModel.unpack.isFinite = true at finite
    rw [lt_iff, lt_iff, unpack_infinity, unpack_neg_infinity]
    generalize value.toModel.unpack = parts at finite ⊢
    cases parts with
    | infinity | notANumber => cases finite
    | zero | finite => exact ⟨nofun, nofun⟩
  exact ⟨(if_neg number).trans (if_neg ordered.1), (if_neg number).trans (if_neg ordered.2)⟩

end Double

namespace Model

section Range

/-- The range from the least to the greatest size of some observations. -/
structure Spans (range : Float × Float) (points : List (Observation Float)) : Prop where
  within : ∀ point ∈ points, range.1 ≤ point.x ∧ point.x ≤ range.2
  low : ∃ point ∈ points, point.x = range.1
  high : ∃ point ∈ points, point.x = range.2

variable {range : Float × Float} {points : List (Observation Float)}

/-- The range with one more size in it. -/
def widened (range : Float × Float) (point : Observation Float) : Float × Float :=
  (Scalar.smaller range.1 point.x, Scalar.larger range.2 point.x)

theorem sizeRange_eq (observations : List (Observation Float)) :
    sizeRange observations = observations.foldl widened (Scalar.infinity, -Scalar.infinity) := rfl

theorem spans_singleton {point : Observation Float} (finite : point.x.isFinite = true) :
    Spans (point.x, point.x) [point] where
  within := List.forall_mem_singleton.mpr
    ⟨Double.le_refl (Double.not_isNaN_of_isFinite finite),
      Double.le_refl (Double.not_isNaN_of_isFinite finite)⟩
  low := ⟨point, List.mem_cons_self .., rfl⟩
  high := ⟨point, List.mem_cons_self .., rfl⟩

/-- Widening moves the ends outwards, if at all, and to a size that is there. -/
theorem Spans.widened (spans : Spans range points) {point : Observation Float}
    (finite : point.x.isFinite = true) : Spans (widened range point) (points ++ [point]) := by
  have number := Double.not_isNaN_of_isFinite finite
  obtain ⟨least, inside, least_eq⟩ := spans.low
  obtain ⟨greatest, inside', greatest_eq⟩ := spans.high
  obtain ⟨low_eq, low_le, low_le'⟩ :=
    Double.smaller_spec (Double.not_isNaN_of_le (spans.within least inside).1).1 number
  obtain ⟨high_eq, le_high, le_high'⟩ :=
    Double.larger_spec (Double.not_isNaN_of_le (spans.within least inside).2).2 number
  refine ⟨fun other member => ?_, ?_, ?_⟩
  · rcases List.mem_append.mp member with before | last
    · obtain ⟨above, below⟩ := spans.within other before
      exact ⟨Double.le_trans low_le above, Double.le_trans below le_high⟩
    · obtain rfl := List.mem_singleton.mp last
      exact ⟨low_le', le_high'⟩
  · rcases low_eq with same | same
    · exact ⟨least, List.mem_append_left _ inside, least_eq.trans same.symm⟩
    · exact ⟨point, List.mem_append_right _ (List.mem_cons_self ..), same.symm⟩
  · rcases high_eq with same | same
    · exact ⟨greatest, List.mem_append_left _ inside', greatest_eq.trans same.symm⟩
    · exact ⟨point, List.mem_append_right _ (List.mem_cons_self ..), same.symm⟩

theorem Spans.foldl_widened (spans : Spans range points) {later : List (Observation Float)}
    (finite : ∀ point ∈ later, point.x.isFinite = true) :
    Spans (later.foldl Model.widened range) (points ++ later) := by
  induction later generalizing range points with
  | nil => rwa [List.append_nil]
  | cons point later ih =>
    obtain ⟨here, there⟩ := List.forall_mem_cons.mp finite
    rw [List.append_cons]
    exact ih (spans.widened here) there

/-- The range begins as that of no sizes at all, and ends as that of all of them. -/
theorem spans_sizeRange (some : points ≠ [])
    (finite : ∀ point ∈ points, point.x.isFinite = true) : Spans (sizeRange points) points := by
  obtain ⟨first, rest, rfl⟩ := List.exists_cons_of_ne_nil some
  obtain ⟨here, there⟩ := List.forall_mem_cons.mp finite
  obtain ⟨low, high⟩ := Double.range_of_first here
  rw [sizeRange_eq, List.foldl_cons, widened, low, high]
  exact (spans_singleton here).foldl_widened there

theorem Spans.isFinite (spans : Spans range points)
    (finite : ∀ point ∈ points, point.x.isFinite = true) :
    range.1.isFinite = true ∧ range.2.isFinite = true := by
  obtain ⟨least, inside, low⟩ := spans.low
  obtain ⟨greatest, inside', high⟩ := spans.high
  exact ⟨low ▸ finite least inside, high ▸ finite greatest inside'⟩

end Range

section Share

variable {observations : List (Observation Float)}

/-- On either side only squares are added up. -/
theorem isAccrued_foldl_withSquares (model : Model Float) (yMean : Float)
    (points : List (Observation Float)) {squares : Float × Float}
    (accrued : Double.IsAccrued squares.1 ∧ Double.IsAccrued squares.2) :
    let last := points.foldl (withSquares model yMean) squares
    Double.IsAccrued last.1 ∧ Double.IsAccrued last.2 := by
  induction points generalizing squares with
  | nil => exact accrued
  | cons point points ih =>
    exact ih ⟨(accrued.1.add (Double.isAccrued_mul_self _)).1,
      (accrued.2.add (Double.isAccrued_mul_self _)).1⟩

/-- No curve explains more than all of the variance. -/
theorem explained_le_one {model : Model Float}
    (definite : (explained model observations).isFinite = true) :
    explained model observations ≤ 1.0 := by
  have one : (1.0 : Float).isFinite = true := by decide +kernel
  have none : Double.IsAccrued 0.0 := .zero
  have start : Double.IsAccrued ((0.0 : Float), (0.0 : Float)).1 ∧
      Double.IsAccrued ((0.0 : Float), (0.0 : Float)).2 := ⟨none, none⟩
  have squares := isAccrued_foldl_withSquares model (Scalar.mean (observations.map (·.y)))
    observations start
  rw [explained_eq] at definite ⊢
  generalize observations.foldl _ (0.0, 0.0) = last at definite squares ⊢
  obtain ⟨residual, total⟩ := squares
  dsimp only at definite ⊢
  split at definite
  · rename_i level
    rw [if_pos level]
    exact Double.le_refl (Double.not_isNaN_of_isFinite one)
  · rename_i varied
    rw [if_neg varied]
    exact Double.sub_le (by decide +kernel) one (residual.div total)
      (Double.not_isNaN_of_isFinite definite)

end Share

/-- What can be relied on in a model that was fitted: it is of the family that was asked for,
its numbers are finite, it explains at most everything, and a level everything or nothing.
Over finite sizes its range is theirs. -/
theorem fit_reliable {family : Family} {observations : List (Observation Float)}
    {model : Model Float} (fitted : fit family observations = .ok model) :
    model.family = family ∧
    model.coefficients.length = family.coefficientCount ∧
    (∀ value ∈ model.coefficients, value.isFinite = true) ∧
    model.rSquare.isFinite = true ∧
    model.rSquare ≤ 1.0 ∧
    (family = .constant → model.rSquare = 0.0 ∨ model.rSquare = 1.0) ∧
    ((∀ point ∈ observations, point.x.isFinite = true) →
      Spans (model.xStart, model.xEnd) observations) := by
  have own := family_of_fit fitted
  have complete := complete_of_fit fitted
  have level : family = .constant → model.rSquare = 0.0 ∨ model.rSquare = 1.0 := by
    rintro rfl
    exact (rSquare_constant fitted).symm.imp And.right And.right
  obtain ⟨some, _, _, coefficients, _, finite, definite, rfl⟩ := fit_eq_ok fitted
  exact ⟨own, own ▸ complete, finite, definite, explained_le_one definite, level,
    spans_sizeRange some⟩

theorem fit_reliable_line : ∃ model : Model Float,
    fit .linear [⟨3.0, 7.0⟩, ⟨1.0, 2.0⟩, ⟨2.0, 4.0⟩] = .ok model ∧
      model.coefficients.length = 2 ∧ model.rSquare ≤ 1.0 ∧
      Spans (model.xStart, model.xEnd) [⟨3.0, 7.0⟩, ⟨1.0, 2.0⟩, ⟨2.0, 4.0⟩] := by
  have succeeds : (fit .linear [⟨3.0, (7.0 : Float)⟩, ⟨1.0, 2.0⟩, ⟨2.0, 4.0⟩]).toBool = true := by
    rw [fit_eq, checkSpread_eq]
    decide +kernel
  cases fitted : fit .linear [⟨3.0, (7.0 : Float)⟩, ⟨1.0, 2.0⟩, ⟨2.0, 4.0⟩] with
  | error failure => rw [fitted] at succeeds; cases succeeds
  | ok model =>
    obtain ⟨_, complete, _, _, share, _, range⟩ := fit_reliable fitted
    exact ⟨model, rfl, complete, share, range (by decide +kernel)⟩

end Model

end ProfileDrift
