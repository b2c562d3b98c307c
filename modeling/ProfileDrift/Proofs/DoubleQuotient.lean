import ProfileDrift.Proofs.DoubleSigns

namespace ProfileDrift.Double

open Float.Model Float.Model.UnpackedFloat

variable {value other left right divisor : Float}

section Number

theorem isNaN_neg_unpacked (parts : UnpackedFloat) : parts.neg.isNaN = parts.isNaN := by
  cases parts <;> rfl

/-- Packing makes no number meaningless, not even where it overflows. -/
theorem isNaN_unpack_pack {parts : UnpackedFloat} (number : parts.isNaN = false) :
    (UnpackedFloat.unpack Format.binary64
      (UnpackedFloat.pack Format.binary64 parts)).isNaN = false := by
  have above {mantissa : ℕ} (exponent : ℤ) (positive : 0 < mantissa) :
      (UnpackedFloat.unpack Format.binary64 (UnpackedFloat.pack Format.binary64
        (.finite .positive mantissa exponent positive))).isNaN = false := by
    have ordered := @zero_le_pack_finite mantissa exponent positive
    generalize UnpackedFloat.unpack Format.binary64 _ = packed at ordered ⊢
    cases packed with
    | notANumber => cases ordered
    | infinity | zero | finite => rfl
  cases parts with
  | notANumber => cases number
  | infinity sign | zero sign => cases sign <;> rfl
  | finite sign mantissa exponent positive =>
    cases sign with
    | positive => exact above exponent positive
    | negative =>
      have negated := unpack_pack_neg Format.binary64
        (.finite .positive mantissa exponent positive) rfl
      exact (congrArg UnpackedFloat.isNaN negated).trans
        ((isNaN_neg_unpacked _).trans (above exponent positive))

theorem isNaN_roundWithAccuracy (sign : Sign) (mantissa : ℕ) (exponent : ℤ)
    (accuracy : Accuracy) :
    (roundWithAccuracy Format.binary64 sign mantissa exponent accuracy).isNaN = false := by
  unfold roundWithAccuracy
  dsimp only
  split <;> rfl

theorem isNaN_normalize (mantissa exponent : ℤ) (zero : Sign) :
    (UnpackedFloat.normalize Format.binary64 mantissa exponent zero).isNaN = false := by
  unfold UnpackedFloat.normalize
  split
  · exact isNaN_roundWithAccuracy _ _ _ .exact
  · rfl
  · exact isNaN_roundWithAccuracy _ _ _ .exact

/-- The difference of finite numbers may be infinite, but it is a number. -/
theorem isNaN_sub (finite : left.isFinite = true) (finite' : right.isFinite = true) :
    (left - right).isNaN = false := by
  change (left - right).toModel.unpack.isNaN = false
  rw [unpack_sub]
  refine isNaN_unpack_pack ?_
  change left.toModel.unpack.isFinite = true at finite
  change right.toModel.unpack.isFinite = true at finite'
  generalize left.toModel.unpack = left at finite ⊢
  generalize right.toModel.unpack = right at finite' ⊢
  cases left with
  | notANumber | infinity => cases finite
  | zero sign =>
    cases right with
    | notANumber | infinity => cases finite'
    | zero other => cases sign <;> cases other <;> rfl
    | finite => rfl
  | finite =>
    cases right with
    | notANumber | infinity => cases finite'
    | zero => rfl
    | finite => exact isNaN_normalize _ _ _

theorem isNaN_div (number : value.isNaN = false) (finite : divisor.isFinite = true)
    (nonzero : (divisor == 0.0) = false) : (value / divisor).isNaN = false := by
  change value.toModel.unpack.isNaN = false at number
  change divisor.toModel.unpack.isFinite = true at finite
  change UnpackedFloat.beq divisor.toModel.unpack (.zero .positive) = false at nonzero
  refine @isNaN_unpack_pack
    (UnpackedFloat.div Format.binary64 value.toModel.unpack divisor.toModel.unpack) ?_
  generalize value.toModel.unpack = value at number ⊢
  generalize divisor.toModel.unpack = divisor at finite nonzero ⊢
  cases divisor with
  | notANumber | infinity => cases finite
  | zero => cases nonzero
  | finite =>
    cases value with
    | notANumber => cases number
    | infinity | zero => rfl
    | finite => exact isNaN_roundWithAccuracy _ _ _ _

end Number

section Finite

/-- Only a finite number less another is finite. -/
theorem isFinite_of_isFinite_sub_left (finite : (left - right).isFinite = true) :
    left.isFinite = true :=
  isFinite_of_isFinite_sub ((IsOpposite.sub left right).isFinite.trans finite)

/-- Packing makes nothing finite. -/
theorem isFinite_of_unpack_pack {parts : UnpackedFloat}
    (finite : (UnpackedFloat.unpack Format.binary64
      (UnpackedFloat.pack Format.binary64 parts)).isFinite = true) : parts.isFinite = true := by
  cases parts with
  | zero | finite => rfl
  | notANumber => exact absurd finite (by decide +kernel)
  | infinity sign => cases sign <;> exact absurd finite (by decide +kernel)

theorem isFinite_of_isFinite_mul (finite : (left * right).isFinite = true) :
    right.isFinite = true := by
  have product : (UnpackedFloat.mul Format.binary64 left.toModel.unpack
    right.toModel.unpack).isFinite = true := isFinite_of_unpack_pack finite
  change right.toModel.unpack.isFinite = true
  generalize left.toModel.unpack = left at product
  generalize right.toModel.unpack = right at product ⊢
  cases right with
  | zero | finite => rfl
  | notANumber | infinity => cases left <;> cases product

theorem isFinite_of_isFinite_div (finite : (value / divisor).isFinite = true) :
    value.isFinite = true := by
  have quotient : (UnpackedFloat.div Format.binary64 value.toModel.unpack
    divisor.toModel.unpack).isFinite = true := isFinite_of_unpack_pack finite
  change value.toModel.unpack.isFinite = true
  generalize divisor.toModel.unpack = divisor at quotient
  generalize value.toModel.unpack = value at quotient ⊢
  cases value with
  | zero | finite => rfl
  | notANumber | infinity => cases divisor <;> cases quotient

end Finite

section Sign

theorem div_neg_unpacked (value divisor : UnpackedFloat) :
    UnpackedFloat.div Format.binary64 value.neg divisor =
      (UnpackedFloat.div Format.binary64 value divisor).neg := by
  have turned (sign other : Sign) : -sign / other = -(sign / other) := by
    cases sign <;> cases other <;> rfl
  cases value with
  | notANumber => rfl
  | infinity | zero | finite =>
    cases divisor <;>
      simp only [UnpackedFloat.neg, UnpackedFloat.div, turned, roundWithAccuracy_neg]

theorem IsOpposite.div (opposite : IsOpposite value other) (divisor : Float) :
    IsOpposite (value / divisor) (other / divisor) := by
  have swapped := Same.div_left opposite divisor.toModel.unpack
  rw [div_neg_unpacked] at swapped
  have packed := swapped.unpack_pack
  rw [unpack_pack_neg _ _ rfl] at packed
  exact packed

/-- What is neither above zero nor below it is what it would be with the other sign. -/
theorem positive_or_negative (value : Float) :
    0.0 < value ∨ value < 0.0 ∨ IsOpposite value value := by
  rw [lt_iff, lt_iff, IsOpposite]
  change UnpackedFloat.compare (.zero .positive) _ = _ ∨
    UnpackedFloat.compare _ (.zero .positive) = _ ∨ _
  generalize value.toModel.unpack = parts
  cases parts with
  | notANumber => exact .inr (.inr (.refl _))
  | zero => exact .inr (.inr (.zeros _ _))
  | infinity sign | finite sign =>
    cases sign with
    | positive => exact .inl rfl
    | negative => exact .inr (.inl rfl)

theorem isAccrued_of_pos (above : 0.0 < value) : IsAccrued value := by
  rw [lt_iff] at above
  change UnpackedFloat.compare (.zero .positive) _ = _ at above
  unfold IsAccrued
  cases parts : value.toModel.unpack with
  | notANumber => exact .notANumber
  | zero => rw [parts] at above; cases above
  | infinity sign =>
    cases sign with
    | positive => exact .infinity
    | negative => rw [parts] at above; cases above
  | finite sign mantissa exponent positive =>
    cases sign with
    | positive => exact .finite positive (canonical_of_unpack_eq parts)
    | negative => rw [parts] at above; cases above

theorem IsAccrued.not_lt_zero (accrued : IsAccrued value) : ¬ value < 0.0 := by
  rw [lt_iff]
  change ¬ UnpackedFloat.compare _ (.zero .positive) = _
  unfold IsAccrued at accrued
  generalize value.toModel.unpack = parts at accrued ⊢
  cases accrued <;> exact nofun

theorem unpack_abs (finite : value.isFinite = true) :
    value.abs.toModel.unpack = value.toModel.unpack.abs :=
  unpack_pack_abs finite

theorem isAccrued_abs (finite : value.isFinite = true) : IsAccrued value.abs := by
  rw [IsAccrued, unpack_abs finite, unpack_eq finite, abs_signed]
  exact accrued_signed (canonical_ofFloat value)

/-- Divided by the size of a finite number that is not zero, a number stays one. -/
theorem isNaN_div_abs (number : value.isNaN = false) (finite : divisor.isFinite = true)
    (nonzero : (divisor == 0.0) = false) : (value / divisor.abs).isNaN = false := by
  refine isNaN_div number ?_ ?_
  · change divisor.abs.toModel.unpack.isFinite = true
    rw [unpack_abs finite, unpack_eq finite, abs_signed]
    exact isFinite_signed _ _
  · change UnpackedFloat.beq divisor.abs.toModel.unpack (.zero .positive) = false
    change UnpackedFloat.beq divisor.toModel.unpack (.zero .positive) = false at nonzero
    rw [unpack_abs finite]
    generalize divisor.toModel.unpack = parts at nonzero ⊢
    cases parts with
    | zero => cases nonzero
    | notANumber | infinity | finite => rfl

theorem not_lt_of_lt (below : left < right) : ¬ right < left := fun above =>
  not_le_of_lt below (le_of_lt above)

/-- Divided by what is not negative, a number keeps its sign, if anything is left of it. -/
theorem pos_of_div_pos (accrued : IsAccrued divisor) (above : 0.0 < value / divisor) :
    0.0 < value := by
  rcases positive_or_negative value with positive | negative | own
  · exact positive
  · have turned := ((IsOpposite.neg value).div divisor).lt_zero_iff.mpr above
    have accrued' : IsAccrued (-value) :=
      isAccrued_of_pos ((IsOpposite.neg value).zero_lt_iff.mpr negative)
    exact absurd turned (accrued'.div accrued).not_lt_zero
  · exact absurd ((own.div divisor).lt_zero_iff.mpr above) (not_lt_of_lt above)

theorem neg_of_div_neg (accrued : IsAccrued divisor) (below : value / divisor < 0.0) :
    value < 0.0 :=
  (IsOpposite.neg value).zero_lt_iff.mp
    (pos_of_div_pos accrued (((IsOpposite.neg value).div divisor).zero_lt_iff.mpr below))

end Sign

section Size

/-- A number that is its own opposite is zero. -/
theorem abs_eq_zero (own : IsOpposite value value) (number : value.isNaN = false) :
    value.abs = 0.0 := by
  change value.toModel.unpack.isNaN = false at number
  unfold IsOpposite at own
  refine eq_zero_iff.mpr ?_
  change UnpackedFloat.unpack Format.binary64
    (UnpackedFloat.pack Format.binary64 value.toModel.unpack.abs) = _
  generalize value.toModel.unpack = parts at number own ⊢
  cases parts with
  | notANumber => cases number
  | zero sign => cases sign <;> rfl
  | infinity sign | finite sign => cases sign <;> cases own

theorem abs_of_pos (above : 0.0 < value) : value.abs = value := by
  have kept : value.toModel.unpack.abs = value.toModel.unpack := by
    rw [lt_iff] at above
    change UnpackedFloat.compare (.zero .positive) _ = _ at above
    generalize value.toModel.unpack = parts at above ⊢
    cases parts with
    | notANumber | zero => cases above
    | infinity sign | finite sign =>
      cases sign with
      | positive => rfl
      | negative => cases above
  refine eq_of_unpack_eq ?_
  change UnpackedFloat.unpack Format.binary64
    (UnpackedFloat.pack Format.binary64 value.toModel.unpack.abs) = _
  rw [kept, unpack_pack_unpack]

theorem abs_of_neg (below : value < 0.0) : value.abs = -value := by
  have turned : value.toModel.unpack.abs = value.toModel.unpack.neg := by
    rw [lt_iff] at below
    change UnpackedFloat.compare _ (.zero .positive) = _ at below
    generalize value.toModel.unpack = parts at below ⊢
    cases parts with
    | notANumber | zero => cases below
    | infinity sign | finite sign =>
      cases sign with
      | positive => cases below
      | negative => rfl
  refine eq_of_unpack_eq ?_
  change UnpackedFloat.unpack Format.binary64
    (UnpackedFloat.pack Format.binary64 value.toModel.unpack.abs) = _
  rw [turned, unpack_neg]

theorem not_isNaN_of_abs (number : value.abs.isNaN = false) : value.isNaN = false := by
  change (UnpackedFloat.unpack Format.binary64
    (UnpackedFloat.pack Format.binary64 value.toModel.unpack.abs)).isNaN = false at number
  change value.toModel.unpack.isNaN = false
  generalize value.toModel.unpack = parts at number ⊢
  cases parts with
  | notANumber => exact absurd number (by decide +kernel)
  | infinity | zero | finite => rfl

theorem compare_neg_swap (left right : UnpackedFloat) :
    UnpackedFloat.compare left right.neg = UnpackedFloat.compare right left.neg := by
  cases left with
  | notANumber => cases right <;> rfl
  | infinity sign =>
    cases right with
    | infinity other => cases sign <;> cases other <;> rfl
    | notANumber | zero | finite => cases sign <;> rfl
  | zero sign =>
    cases right with
    | infinity other | finite other => cases other <;> rfl
    | notANumber | zero => rfl
  | finite sign mantissa exponent =>
    cases right with
    | infinity other => cases sign <;> cases other <;> rfl
    | notANumber => rfl
    | zero other => cases sign <;> rfl
    | finite other mantissa' exponent' =>
      have turned := magnitude_swap mantissa mantissa' exponent exponent'
      cases sign with
      | positive =>
        cases other with
        | positive => rfl
        | negative =>
          change some ((compare exponent exponent').then (compare mantissa mantissa')) =
            some ((compare exponent' exponent).then (compare mantissa' mantissa)).swap
          rw [turned, Ordering.swap_swap]
      | negative =>
        cases other with
        | positive => exact congrArg some turned.symm
        | negative => rfl

theorem lt_neg_of_lt_neg (below : left < -right) : right < -left := by
  rw [lt_iff, unpack_neg_eq] at below ⊢
  rw [← compare_neg_swap]
  exact below

/-- A size lies beyond a number above zero only on one of the two sides. -/
theorem lt_abs (above : 0.0 < left) (beyond : left < value.abs) :
    left < value ∧ 0.0 < value ∨ value < -left ∧ value < 0.0 := by
  rcases positive_or_negative value with positive | negative | own
  · rw [abs_of_pos positive] at beyond
    exact .inl ⟨beyond, positive⟩
  · rw [abs_of_neg negative] at beyond
    exact .inr ⟨lt_neg_of_lt_neg beyond, negative⟩
  · have number : value.isNaN = false := not_isNaN_of_abs (not_isNaN_of_le (le_of_lt beyond)).2
    rw [abs_eq_zero own number] at beyond
    exact absurd beyond (not_lt_of_lt above)

end Size

end ProfileDrift.Double
