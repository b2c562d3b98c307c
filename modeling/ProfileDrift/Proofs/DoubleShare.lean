import ProfileDrift.Proofs.DoublePlace
import ProfileDrift.Proofs.WholeDoubles

namespace ProfileDrift.Double

open Float.Model Float.Model.UnpackedFloat

section Quotient

/-- What has accrued can be divided by what has, and no sign appears. -/
theorem Accrued.div {value other : UnpackedFloat} (accrued : Accrued value)
    (another : Accrued other) : Accrued (UnpackedFloat.div Format.binary64 value other) := by
  cases accrued with
  | zero =>
    cases another with
    | zero | notANumber => exact .notANumber
    | finite | infinity => exact .zero
  | infinity =>
    cases another with
    | zero | finite => exact .infinity
    | infinity | notANumber => exact .notANumber
  | notANumber => cases another <;> exact .notANumber
  | @finite mantissa exponent positive canonical =>
    cases another with
    | zero => exact .infinity
    | infinity => exact .zero
    | notANumber => exact .notANumber
    | @finite mantissa' exponent' positive' canonical' =>
      obtain ⟨shift, target, core, -, long⟩ := exists_divCore positive positive' exponent exponent'
      obtain ⟨size, kept, -, rounded⟩ := exists_roundWithAccuracy .positive
        (accuracyOfFraction (mantissa <<< shift % mantissa') mantissa') long
      rw [UnpackedFloat.div, core]
      exact (congrArg Accrued rounded).mpr (accrued_signed kept)

theorem IsAccrued.div {left right : Float} (accrued : IsAccrued left)
    (another : IsAccrued right) : IsAccrued (left / right) :=
  (Accrued.div accrued another).unpack_pack.1

end Quotient

section Remainder

/-- No number is rounded to a double above a size that it does not exceed. -/
theorem placeOf_rounded_le {size rounded : Dyadic} (canonical : size.Canonical)
    (positive : 0 < size.mantissa) (fits : size.exponent ≤ 971) (kept : rounded.Canonical)
    {number : ℚ} (covers : rounded.Covers number) (within : number ≤ size.value) :
    placeOf (UnpackedFloat.unpack Format.binary64
      (UnpackedFloat.pack Format.binary64 (rounded.signed .positive))) ≤
        placeOf (size.signed .positive) := by
  have ordered : ¬ size.Precedes rounded := fun before =>
    (before.lt_of_covers canonical kept (Dyadic.covers_value size) covers).not_ge within
  unfold Dyadic.Precedes at ordered
  rw [unpack_pack_signed kept .positive (by omega), signed_of_pos _ positive, Dyadic.signed]
  split
  · simp [placeOf, Prod.Lex.toLex_le_toLex]
  · simp only [placeOf, Prod.Lex.toLex_le_toLex, lt_irrefl, true_and, false_or, Nat.cast_le]
    omega

/-- Below zero nothing comes after a positive number, even if it is too large to be packed. -/
theorem placeOf_negative_le {size : Dyadic} (positive : 0 < size.mantissa) {rounded : Dyadic}
    (kept : rounded.Canonical) :
    placeOf (UnpackedFloat.unpack Format.binary64
      (UnpackedFloat.pack Format.binary64 (rounded.signed .negative))) ≤
        placeOf (size.signed .positive) := by
  rw [signed_of_pos .positive positive]
  rcases unpack_pack_canonical kept .negative with same | infinite
  · rw [same, Dyadic.signed]
    split <;> simp [placeOf, Prod.Lex.toLex_le_toLex]
  · rw [infinite]
    simp [placeOf, Prod.Lex.toLex_le_toLex]

/-- Where the difference of two positive numbers is rounded to, it is not above the first. -/
theorem placeOf_sub_finite_le {size other : Dyadic} (canonical : size.Canonical)
    (positive : 0 < size.mantissa) (fits : size.exponent ≤ 971) (positive' : 0 < other.mantissa) :
    placeOf (UnpackedFloat.unpack Format.binary64 (UnpackedFloat.pack Format.binary64
      (UnpackedFloat.sub Format.binary64 (size.signed .positive) (other.signed .positive)))) ≤
        placeOf (size.signed .positive) := by
  obtain ⟨least, least_eq⟩ : ∃ least, least = min size.exponent other.exponent := ⟨_, rfl⟩
  obtain ⟨mantissa, mantissa_eq⟩ : ∃ mantissa,
      mantissa = size.mantissa <<< (size.exponent - least).toNat := ⟨_, rfl⟩
  obtain ⟨taken, taken_eq⟩ : ∃ taken,
      taken = other.mantissa <<< (other.exponent - least).toNat := ⟨_, rfl⟩
  have difference : UnpackedFloat.sub Format.binary64 (size.signed .positive)
      (other.signed .positive) =
        UnpackedFloat.normalize Format.binary64 (mantissa - taken) least .positive := by
    rw [signed_of_pos _ positive, signed_of_pos _ positive', mantissa_eq, taken_eq, least_eq]
    rfl
  rw [difference, UnpackedFloat.normalize]
  split
  · rename_i negative
    have some : 0 < (-((mantissa : ℤ) - taken)).toNat := by
      have := Int.compare_eq_lt.mp negative
      omega
    obtain ⟨rounded, kept, -, same⟩ := exists_round_covers .negative least some
    rw [same]
    exact placeOf_negative_le positive kept
  · rw [signed_of_pos _ positive]
    simp [placeOf, unpack_pack_zero, Prod.Lex.toLex_le_toLex]
  · rename_i above
    have some : 0 < ((mantissa : ℤ) - taken).toNat := by
      have := Int.compare_eq_gt.mp above
      omega
    obtain ⟨rounded, kept, covers, same⟩ := exists_round_covers .positive least some
    have within : (((mantissa : ℤ) - taken).toNat : ℚ) * 2 ^ least ≤ size.value := by
      rw [Dyadic.value, ← shiftLeft_mul_zpow size.mantissa (show least ≤ size.exponent by omega),
        ← mantissa_eq]
      refine mul_le_mul_of_nonneg_right ?_ (Dyadic.unit_pos least).le
      exact_mod_cast (by omega : ((mantissa : ℤ) - taken).toNat ≤ mantissa)
    rw [same]
    exact placeOf_rounded_le canonical positive fits kept covers within

theorem placeOf_sub_accrued_le {size : Dyadic} {other : UnpackedFloat}
    (canonical : size.Canonical) (positive : 0 < size.mantissa) (fits : size.exponent ≤ 971)
    (accrued : Accrued other) :
    placeOf (UnpackedFloat.unpack Format.binary64 (UnpackedFloat.pack Format.binary64
      (UnpackedFloat.sub Format.binary64 (size.signed .positive) other))) ≤
        placeOf (size.signed .positive) := by
  cases accrued with
  | zero =>
    have all : UnpackedFloat.sub Format.binary64 (size.signed .positive) (.zero .positive) =
        size.signed .positive := by
      simp [signed_of_pos .positive positive, UnpackedFloat.sub]
    rw [all, unpack_pack_signed canonical .positive fits]
  | infinity =>
    have beyond : UnpackedFloat.sub Format.binary64 (size.signed .positive)
        (.infinity .positive) = .infinity (-.positive) := by
      simp [signed_of_pos .positive positive, UnpackedFloat.sub]
    rw [beyond, signed_of_pos .positive positive]
    exact Prod.Lex.toLex_le_toLex.mpr (.inl (by decide : (-2 : ℤ) < 1))
  | notANumber =>
    have meaningless : UnpackedFloat.sub Format.binary64 (size.signed .positive) .notANumber =
        .notANumber := by
      simp [signed_of_pos .positive positive, UnpackedFloat.sub]
    rw [meaningless, signed_of_pos .positive positive]
    exact Prod.Lex.toLex_le_toLex.mpr (.inl (by decide : (0 : ℤ) < 1))
  | @finite mantissa exponent positive' =>
    have parts : (Dyadic.mk mantissa exponent).signed .positive =
        .finite .positive mantissa exponent positive' := signed_of_pos .positive positive'
    exact parts ▸ placeOf_sub_finite_le canonical positive fits positive'

theorem signOf_of_pos {value : Float} (positive : 0.0 < value) (finite : value.isFinite = true) :
    0 < (Dyadic.ofFloat value).mantissa ∧ signOf value = .positive := by
  rw [lt_iff, unpack_eq finite] at positive
  change UnpackedFloat.compare (.zero .positive) _ = _ at positive
  unfold Dyadic.signed at positive
  split at positive
  · cases positive
  · rename_i nonzero
    cases sign : signOf value with
    | positive => exact ⟨Nat.pos_of_ne_zero nonzero, rfl⟩
    | negative => rw [sign] at positive; cases positive

/-- Taking away what squares add up to leaves no more than was there. -/
theorem sub_le {value other : Float} (positive : 0.0 < value) (finite : value.isFinite = true)
    (accrued : IsAccrued other) (number : (value - other).isNaN = false) :
    value - other ≤ value := by
  obtain ⟨nonzero, sign⟩ := signOf_of_pos positive finite
  rw [le_iff_place number (not_isNaN_of_isFinite finite), place, place, unpack_sub,
    unpack_eq finite, sign]
  exact placeOf_sub_accrued_le (canonical_ofFloat value) nonzero
    (exponent_le_of_isFinite finite) accrued

end Remainder

end ProfileDrift.Double
