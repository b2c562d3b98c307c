import Mathlib.Data.Prod.Lex
import ProfileDrift.Proofs.DoubleOrder

namespace ProfileDrift.Double

open Float.Model Float.Model.UnpackedFloat

/-- Where an unpacked number stands among all numbers. The sign comes first; numbers of one
sign go by exponent and then by mantissa, those below zero the other way round. -/
def placeOf : UnpackedFloat → ℤ ×ₗ (ℤ ×ₗ ℤ)
  | .notANumber | .zero _ => toLex (0, toLex (0, 0))
  | .infinity .positive => toLex (2, toLex (0, 0))
  | .infinity .negative => toLex (-2, toLex (0, 0))
  | .finite .positive mantissa exponent _ => toLex (1, toLex (exponent, mantissa))
  | .finite .negative mantissa exponent _ => toLex (-1, toLex (-exponent, -mantissa))

def place (value : Float) : ℤ ×ₗ (ℤ ×ₗ ℤ) := placeOf value.toModel.unpack

/-- Numbers compare as their places do. -/
theorem compare_placeOf {left right : UnpackedFloat} (number : left.isNaN = false)
    (another : right.isNaN = false) :
    (UnpackedFloat.compare left right = some .lt ↔ placeOf left < placeOf right) ∧
      (UnpackedFloat.compare left right = some .eq ↔ placeOf left = placeOf right) := by
  cases left with
  | notANumber => cases number
  | infinity sign =>
    cases right with
    | notANumber => cases another
    | infinity other => cases sign <;> cases other <;> decide
    | zero other => cases sign <;> cases other <;> decide
    | finite other mantissa exponent positive =>
      cases sign <;> cases other <;>
        simp [UnpackedFloat.compare, placeOf, Prod.Lex.toLex_lt_toLex]
  | zero sign =>
    cases right with
    | notANumber => cases another
    | infinity other => cases sign <;> cases other <;> decide
    | zero other => cases sign <;> cases other <;> decide
    | finite other mantissa exponent positive =>
      cases other <;> simp [UnpackedFloat.compare, placeOf, Prod.Lex.toLex_lt_toLex]
  | finite sign mantissa exponent positive =>
    cases right with
    | notANumber => cases another
    | infinity other =>
      cases sign <;> cases other <;>
        simp [UnpackedFloat.compare, placeOf, Prod.Lex.toLex_lt_toLex]
    | zero other =>
      cases sign <;> simp [UnpackedFloat.compare, placeOf, Prod.Lex.toLex_lt_toLex]
    | finite other mantissa' exponent' positive' =>
      cases sign <;> cases other <;>
        simp [UnpackedFloat.compare, placeOf, Prod.Lex.toLex_lt_toLex, Ordering.then_eq_lt,
          Ordering.then_eq_gt, Ordering.then_eq_eq, compare_lt_iff_lt, compare_gt_iff_gt]

variable {left right : Float}

theorem lt_iff_place (number : left.isNaN = false) (another : right.isNaN = false) :
    left < right ↔ place left < place right :=
  lt_iff.trans (compare_placeOf number another).1

theorem beq_iff_place (number : left.isNaN = false) (another : right.isNaN = false) :
    (left == right) = true ↔ place left = place right := by
  change UnpackedFloat.beq left.toModel.unpack right.toModel.unpack = true ↔ _
  rw [UnpackedFloat.beq, beq_iff_eq]
  exact (compare_placeOf number another).2

theorem le_iff_place (number : left.isNaN = false) (another : right.isNaN = false) :
    left ≤ right ↔ place left ≤ place right := by
  constructor
  · intro ordered
    by_contra above
    exact not_le_of_lt ((lt_iff_place another number).mpr (not_le.mp above)) ordered
  · intro ordered
    exact le_of_not_lt another number fun above =>
      (((lt_iff_place another number).mp above).not_ge) ordered

theorem le_trans {least value greatest : Float} (ordered : least ≤ value)
    (ordered' : value ≤ greatest) : least ≤ greatest := by
  obtain ⟨number, another⟩ := not_isNaN_of_le ordered
  have last := (not_isNaN_of_le ordered').2
  rw [le_iff_place number another] at ordered
  rw [le_iff_place another last] at ordered'
  exact (le_iff_place number last).mpr (ordered.trans ordered')

theorem lt_le_trans {least value greatest : Float} (below : least < value)
    (ordered : value ≤ greatest) : least < greatest := by
  obtain ⟨number, another⟩ := not_isNaN_of_le (le_of_lt below)
  have last := (not_isNaN_of_le ordered).2
  rw [lt_iff_place number another] at below
  rw [le_iff_place another last] at ordered
  exact (lt_iff_place number last).mpr (below.trans_le ordered)

theorem le_lt_trans {least value greatest : Float} (ordered : least ≤ value)
    (below : value < greatest) : least < greatest := by
  obtain ⟨number, another⟩ := not_isNaN_of_le ordered
  have last := (not_isNaN_of_le (le_of_lt below)).2
  rw [le_iff_place number another] at ordered
  rw [lt_iff_place another last] at below
  exact (lt_iff_place number last).mpr (ordered.trans_lt below)

theorem lt_lt_trans {least value greatest : Float} (below : least < value)
    (below' : value < greatest) : least < greatest :=
  lt_le_trans below (le_of_lt below')

/-- What is as large as a finite number is finite. -/
theorem isFinite_of_beq (same : (left == right) = true) (finite : right.isFinite = true) :
    left.isFinite = true := by
  change UnpackedFloat.beq left.toModel.unpack right.toModel.unpack = true at same
  change right.toModel.unpack.isFinite = true at finite
  change left.toModel.unpack.isFinite = true
  rw [UnpackedFloat.beq, beq_iff_eq] at same
  generalize left.toModel.unpack = left at same ⊢
  generalize right.toModel.unpack = right at same finite
  cases left with
  | notANumber => cases same
  | zero | finite => rfl
  | infinity sign =>
    cases right with
    | notANumber | infinity => cases finite
    | zero => cases sign <;> cases same
    | finite other => cases sign <;> cases other <;> cases same

/-- What lies between finite numbers is finite. -/
theorem isFinite_of_between {least value greatest : Float} (above : least ≤ value)
    (below : value ≤ greatest) (finite : least.isFinite = true)
    (finite' : greatest.isFinite = true) : value.isFinite = true := by
  obtain ⟨ordering, compared, isLE⟩ := le_iff.mp above
  obtain ⟨ordering', compared', isLE'⟩ := le_iff.mp below
  change least.toModel.unpack.isFinite = true at finite
  change greatest.toModel.unpack.isFinite = true at finite'
  change value.toModel.unpack.isFinite = true
  generalize least.toModel.unpack = least at finite compared
  generalize greatest.toModel.unpack = greatest at finite' compared'
  generalize value.toModel.unpack = value at compared compared' ⊢
  cases value with
  | notANumber => cases compared'
  | zero | finite => rfl
  | infinity sign =>
    cases sign with
    | positive =>
      cases greatest with
      | notANumber | infinity => cases finite'
      | zero | finite => cases compared'; cases isLE'
    | negative =>
      cases least with
      | notANumber | infinity => cases finite
      | zero | finite => cases compared; cases isLE

/-- Only the two zeros share a place. -/
theorem eq_of_place_eq (number : left.isNaN = false) (another : right.isNaN = false)
    (same : place left = place right) (nonzero : (left == 0.0) = false) : left = right := by
  change left.toModel.unpack.isNaN = false at number
  change right.toModel.unpack.isNaN = false at another
  change UnpackedFloat.beq left.toModel.unpack (.zero .positive) = false at nonzero
  refine eq_of_unpack_eq ?_
  unfold place at same
  generalize left.toModel.unpack = left at number nonzero same ⊢
  generalize right.toModel.unpack = right at another same ⊢
  cases left with
  | notANumber => cases number
  | zero sign => cases nonzero
  | infinity sign =>
    cases right with
    | notANumber => cases another
    | infinity other => cases sign <;> cases other <;> simp [placeOf] at same ⊢
    | zero other => cases sign <;> simp [placeOf] at same
    | finite other => cases sign <;> cases other <;> simp [placeOf] at same
  | finite sign =>
    cases right with
    | notANumber => cases another
    | infinity other | finite other =>
      cases sign <;> cases other <;> simp_all [placeOf]
    | zero other => cases sign <;> simp [placeOf] at same

end ProfileDrift.Double
