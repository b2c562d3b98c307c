import ProfileDrift.Proofs.DoubleLaws

namespace ProfileDrift.Double

open Float.Model

theorem not_isNaN_of_isFinite {value : Float} (finite : value.isFinite = true) :
    value.isNaN = false := by
  change value.toModel.unpack.isFinite = true at finite
  change value.toModel.unpack.isNaN = false
  cases parts : value.toModel.unpack with
  | notANumber => rw [parts] at finite; cases finite
  | infinity | zero | finite => rfl

/-- Only what is not a number cannot be compared. -/
theorem exists_compare {left right : Float} (number : left.isNaN = false)
    (another : right.isNaN = false) : ∃ ordering,
      UnpackedFloat.compare left.toModel.unpack right.toModel.unpack = some ordering := by
  change left.toModel.unpack.isNaN = false at number
  change right.toModel.unpack.isNaN = false at another
  generalize left.toModel.unpack = left at number ⊢
  generalize right.toModel.unpack = right at another ⊢
  cases left with
  | notANumber => cases number
  | infinity sign =>
    cases right with
    | notANumber => cases another
    | infinity | zero | finite => cases sign <;> exact ⟨_, rfl⟩
  | zero sign =>
    cases right with
    | notANumber => cases another
    | zero => exact ⟨_, rfl⟩
    | infinity other | finite other => cases other <;> exact ⟨_, rfl⟩
  | finite sign =>
    cases right with
    | notANumber => cases another
    | zero => cases sign <;> exact ⟨_, rfl⟩
    | infinity other => cases other <;> exact ⟨_, rfl⟩
    | finite other => cases sign <;> cases other <;> exact ⟨_, rfl⟩

theorem lt_iff {left right : Float} : left < right ↔
    UnpackedFloat.compare left.toModel.unpack right.toModel.unpack = some .lt := by
  have read : left < right ↔
      UnpackedFloat.lt left.toModel.unpack right.toModel.unpack = true := decide_eq_true_iff
  rw [read, UnpackedFloat.lt, beq_iff_eq]

theorem le_iff {left right : Float} : left ≤ right ↔ ∃ ordering,
    UnpackedFloat.compare left.toModel.unpack right.toModel.unpack = some ordering ∧
      ordering.isLE = true := by
  have read : left ≤ right ↔
      UnpackedFloat.le left.toModel.unpack right.toModel.unpack = true := decide_eq_true_iff
  rw [read, UnpackedFloat.le, Option.any_eq_true]

theorem le_of_lt {left right : Float} (below : left < right) : left ≤ right :=
  le_iff.mpr ⟨.lt, lt_iff.mp below, rfl⟩

theorem unpack_infinity :
    (Scalar.infinity : Float).toModel.unpack = .infinity .positive := rfl

theorem unpack_neg_infinity :
    (-Scalar.infinity : Float).toModel.unpack = .infinity .negative := rfl

/-- What is not below zero is finite as far as it is below infinity. -/
theorem isFinite_iff_lt_infinity {value : Float} (nonnegative : 0.0 ≤ value) :
    value.isFinite = true ↔ value < Scalar.infinity := by
  have ordered := le_iff.mp nonnegative
  change value.toModel.unpack.isFinite = true ↔ _
  change ∃ ordering, UnpackedFloat.compare (.zero .positive) _ = some ordering ∧ _
    at ordered
  rw [lt_iff, unpack_infinity]
  generalize value.toModel.unpack = parts at ordered ⊢
  cases parts with
  | notANumber => exact ⟨nofun, nofun⟩
  | zero sign => exact ⟨fun _ => rfl, fun _ => rfl⟩
  | finite sign => cases sign <;> exact ⟨fun _ => rfl, fun _ => rfl⟩
  | infinity sign =>
    cases sign with
    | positive => exact ⟨nofun, nofun⟩
    | negative =>
      obtain ⟨ordering, compared, isLE⟩ := ordered
      cases compared
      cases isLE

theorem le_of_not_lt {left right : Float} (number : left.isNaN = false)
    (another : right.isNaN = false) (above : ¬ left < right) : right ≤ left := by
  obtain ⟨ordering, compared⟩ := exists_compare number another
  rw [lt_iff, compared] at above
  refine le_iff.mpr ⟨ordering.swap, by rw [compare_swap, compared]; rfl, ?_⟩
  cases ordering with
  | lt => exact absurd rfl above
  | eq => rfl
  | gt => rfl

theorem le_refl {value : Float} (number : value.isNaN = false) : value ≤ value := by
  by_cases below : value < value
  · exact le_of_lt below
  · exact le_of_not_lt number number below

theorem not_isNaN_of_le {left right : Float} (ordered : left ≤ right) :
    left.isNaN = false ∧ right.isNaN = false := by
  obtain ⟨ordering, compared, _⟩ := le_iff.mp ordered
  change left.toModel.unpack.isNaN = false ∧ right.toModel.unpack.isNaN = false
  generalize left.toModel.unpack = left at compared ⊢
  generalize right.toModel.unpack = right at compared ⊢
  constructor
  · cases left with
    | notANumber => cases compared
    | infinity | zero | finite => rfl
  · cases right with
    | notANumber => cases left <;> cases compared
    | infinity | zero | finite => rfl

/-- The smaller of two numbers is one of them, and neither is below it. -/
theorem smaller_spec {left right : Float} (number : left.isNaN = false)
    (another : right.isNaN = false) :
    (Scalar.smaller left right = left ∨ Scalar.smaller left right = right) ∧
      Scalar.smaller left right ≤ left ∧ Scalar.smaller left right ≤ right := by
  have smaller : Scalar.smaller left right = if left < right then left else right :=
    if_neg (by rw [another]; exact Bool.false_ne_true)
  rw [smaller]
  split
  · rename_i below
    exact ⟨.inl rfl, le_refl number, le_of_lt below⟩
  · rename_i above
    exact ⟨.inr rfl, le_of_not_lt number another above, le_refl another⟩

/-- The larger of two numbers is one of them, and neither is above it. -/
theorem larger_spec {left right : Float} (number : left.isNaN = false)
    (another : right.isNaN = false) :
    (Scalar.larger left right = left ∨ Scalar.larger left right = right) ∧
      left ≤ Scalar.larger left right ∧ right ≤ Scalar.larger left right := by
  have larger : Scalar.larger left right = if right < left then left else right :=
    if_neg (by rw [another]; exact Bool.false_ne_true)
  rw [larger]
  split
  · rename_i above
    exact ⟨.inl rfl, le_refl number, le_of_lt above⟩
  · rename_i below
    exact ⟨.inr rfl, le_of_not_lt another number below, le_refl another⟩

/-- A number that is moved into the unit interval lies in it. -/
theorem clamp_mem {value : Float} (number : value.isNaN = false) :
    (0.0 : Float) ≤ Scalar.clamp 0.0 1.0 value ∧ Scalar.clamp (0.0 : Float) 1.0 value ≤ 1.0 := by
  have zero : (0.0 : Float).isNaN = false := by decide +kernel
  have one : (1.0 : Float).isNaN = false := by decide +kernel
  have unit : (0.0 : Float) ≤ 1.0 := by decide +kernel
  have raised : ∃ least : Float, Scalar.clamp 0.0 1.0 value = (if 1.0 < least then 1.0 else least) ∧
      least.isNaN = false ∧ 0.0 ≤ least := by
    refine ⟨if value < 0.0 then 0.0 else value, rfl, ?_⟩
    split
    · exact ⟨zero, le_refl zero⟩
    · rename_i above
      exact ⟨number, le_of_not_lt number zero above⟩
  obtain ⟨least, clamped, isNumber, nonnegative⟩ := raised
  rw [clamped]
  split
  · exact ⟨unit, le_refl one⟩
  · rename_i within
    exact ⟨nonnegative, le_of_not_lt one isNumber within⟩

end ProfileDrift.Double
