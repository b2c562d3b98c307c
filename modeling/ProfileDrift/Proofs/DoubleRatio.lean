import ProfileDrift.Proofs.DoubleQuotient

namespace ProfileDrift.Double

open Float.Model Float.Model.UnpackedFloat

variable {value left right divisor : Float}

section Place

/-- No number is rounded to a double below a size that it is not below. -/
theorem le_placeOf_rounded {size rounded : Dyadic} (canonical : size.Canonical)
    (positive : 0 < size.mantissa) (kept : rounded.Canonical) {number : ℚ}
    (covers : rounded.Covers number) (within : size.value ≤ number) :
    placeOf (size.signed .positive) ≤ placeOf (UnpackedFloat.unpack Format.binary64
      (UnpackedFloat.pack Format.binary64 (rounded.signed .positive))) := by
  have ordered : ¬ rounded.Precedes size := fun before =>
    (before.lt_of_covers kept canonical covers (Dyadic.covers_value size)).not_ge within
  have least := canonical.least
  have full := kept.full
  unfold Dyadic.Precedes at ordered
  have positive' : 0 < rounded.mantissa := by omega
  rw [signed_of_pos _ positive]
  rcases unpack_pack_canonical kept .positive with same | infinite
  · rw [same, signed_of_pos _ positive']
    simp only [placeOf, Prod.Lex.toLex_le_toLex, lt_irrefl, true_and, false_or, Nat.cast_le]
    omega
  · rw [infinite]
    exact Prod.Lex.toLex_le_toLex.mpr (.inl (by decide : (1 : ℤ) < 2))

theorem place_eq (above : 0.0 < value) (finite : value.isFinite = true) :
    place value = placeOf ((Dyadic.ofFloat value).signed .positive) := by
  rw [place, unpack_eq finite, (signOf_of_pos above finite).2]

/-- Above zero doubles stand in the order of their sizes. -/
theorem value_le_of_le (above : 0.0 < left) (finite : left.isFinite = true)
    (finite' : right.isFinite = true) (ordered : left ≤ right) :
    (Dyadic.ofFloat left).value ≤ (Dyadic.ofFloat right).value := by
  have above' := lt_le_trans above ordered
  rw [le_iff_place (not_isNaN_of_isFinite finite) (not_isNaN_of_isFinite finite'),
    place_eq above finite, place_eq above' finite',
    signed_of_pos _ (signOf_of_pos above finite).1,
    signed_of_pos _ (signOf_of_pos above' finite').1] at ordered
  simp only [placeOf, Prod.Lex.toLex_le_toLex, lt_irrefl, true_and, false_or, Nat.cast_le]
    at ordered
  rcases ordered with before | ⟨exponents, mantissas⟩
  · exact (Dyadic.Precedes.lt_of_covers (.inl before) (canonical_ofFloat left)
      (canonical_ofFloat right) (Dyadic.covers_value _) (Dyadic.covers_value _)).le
  · unfold Dyadic.value
    rw [exponents]
    exact mul_le_mul_of_nonneg_right (by exact_mod_cast mantissas) (Dyadic.unit_pos _).le

end Place

theorem pos_or_neg (number : value.isNaN = false) (nonzero : (value == 0.0) = false) :
    0.0 < value ∨ value < 0.0 := by
  have zero : (0.0 : Float).isNaN = false := by decide +kernel
  have apart : place 0.0 ≠ place value := fun same => by
    rw [(beq_iff_place number zero).mpr same.symm] at nonzero
    cases nonzero
  rw [lt_iff_place zero number, lt_iff_place number zero]
  exact apart.lt_or_gt

section Ratio

/-- The quotient of two numbers above zero is rounded once. -/
theorem exists_ratio (above : 0.0 < value) (finite : value.isFinite = true)
    (above' : 0.0 < divisor) (finite' : divisor.isFinite = true) :
    ∃ rounded : Dyadic, rounded.Canonical ∧
      rounded.Covers ((Dyadic.ofFloat value).value / (Dyadic.ofFloat divisor).value) ∧
      (value / divisor).toModel.unpack = UnpackedFloat.unpack Format.binary64
        (UnpackedFloat.pack Format.binary64 (rounded.signed .positive)) := by
  obtain ⟨positive, sign⟩ := signOf_of_pos above finite
  obtain ⟨positive', sign'⟩ := signOf_of_pos above' finite'
  obtain ⟨rounded, kept, covers, quotient⟩ :=
    exists_div_covers .positive .positive positive positive' rfl
  refine ⟨rounded, kept, covers, ?_⟩
  change UnpackedFloat.unpack Format.binary64 (UnpackedFloat.pack Format.binary64
    (UnpackedFloat.div Format.binary64 value.toModel.unpack divisor.toModel.unpack)) = _
  rw [unpack_eq finite, unpack_eq finite', sign, sign', signed_of_pos _ positive,
    signed_of_pos _ positive', quotient]
  rfl

theorem value_pos (above : 0.0 < value) (finite : value.isFinite = true) :
    0 < (Dyadic.ofFloat value).value :=
  mul_pos (by exact_mod_cast (signOf_of_pos above finite).1) (Dyadic.unit_pos _)

theorem ofFloat_one : Dyadic.ofFloat 1.0 = ⟨2 ^ 52, -52⟩ := by decide +kernel

theorem value_one : (⟨2 ^ 52, -52⟩ : Dyadic).value = 1 := by
  norm_num [Dyadic.value]

/-- A ratio is above one only for a number that is larger than what it is divided by. -/
theorem lt_of_one_lt_div (finite : value.isFinite = true) (above : 0.0 < divisor)
    (finite' : divisor.isFinite = true) (more : 1.0 < value / divisor) : divisor < value := by
  have unit : (0.0 : Float) < 1.0 := by decide +kernel
  have positive := pos_of_div_pos (isAccrued_of_pos above) (lt_lt_trans unit more)
  by_contra less
  have ordered := value_le_of_le positive finite finite'
    (le_of_not_lt (not_isNaN_of_isFinite finite') (not_isNaN_of_isFinite finite) less)
  obtain ⟨rounded, kept, covers, quotient⟩ := exists_ratio positive finite above finite'
  have within := (div_le_one (value_pos above finite')).mpr ordered
  have below : place (value / divisor) ≤ place 1.0 := by
    rw [place_eq unit (by decide +kernel), ofFloat_one, place, quotient]
    exact placeOf_rounded_le ⟨by norm_num, by norm_num, .inl le_rfl⟩ (Nat.two_pow_pos 52)
      (by norm_num) kept covers (value_one ▸ within)
  rw [lt_iff_place (by decide +kernel) (not_isNaN_of_le (le_of_lt more)).2] at more
  exact more.not_ge below

/-- A ratio is below one only for a number that is smaller than what it is divided by. -/
theorem lt_of_div_lt_one (finite : value.isFinite = true) (above : 0.0 < divisor)
    (finite' : divisor.isFinite = true) (less : value / divisor < 1.0) : value < divisor := by
  have unit : (0.0 : Float) < 1.0 := by decide +kernel
  by_contra more
  have reversed := le_of_not_lt (not_isNaN_of_isFinite finite) (not_isNaN_of_isFinite finite') more
  have positive := lt_le_trans above reversed
  have ordered := value_le_of_le above finite' finite reversed
  obtain ⟨rounded, kept, covers, quotient⟩ := exists_ratio positive finite above finite'
  have within := (one_le_div (value_pos above finite')).mpr ordered
  have beyond : place 1.0 ≤ place (value / divisor) := by
    rw [place_eq unit (by decide +kernel), ofFloat_one, place, quotient]
    exact le_placeOf_rounded ⟨by norm_num, by norm_num, .inl le_rfl⟩ (Nat.two_pow_pos 52) kept
      covers (value_one ▸ within)
  rw [lt_iff_place (not_isNaN_of_le (le_of_lt less)).1 (by decide +kernel)] at less
  exact less.not_ge beyond

/-- A ratio stays what it is when both of its sides change their signs. -/
theorem neg_div_neg (value divisor : Float) : -value / -divisor = value / divisor := by
  refine eq_of_unpack_eq ?_
  change UnpackedFloat.unpack Format.binary64 (UnpackedFloat.pack Format.binary64
    (UnpackedFloat.div Format.binary64 (-value).toModel.unpack (-divisor).toModel.unpack)) =
    UnpackedFloat.unpack Format.binary64 (UnpackedFloat.pack Format.binary64
      (UnpackedFloat.div Format.binary64 value.toModel.unpack divisor.toModel.unpack))
  rw [unpack_neg_eq, unpack_neg_eq]
  congr 2
  have turned (sign other : Sign) : -sign / -other = sign / other := by
    cases sign <;> cases other <;> rfl
  cases value.toModel.unpack <;> cases divisor.toModel.unpack <;>
    simp only [UnpackedFloat.neg, UnpackedFloat.div, turned]

theorem neg_neg_eq (value : Float) : - -value = value := by
  refine eq_of_unpack_eq ?_
  rw [unpack_neg_eq, unpack_neg_eq, neg_neg]

/-- Divided by a number below zero, what is smaller than it is above one, and only that. -/
theorem lt_of_one_lt_div_neg (finite : value.isFinite = true) (below : divisor < 0.0)
    (finite' : divisor.isFinite = true) (more : 1.0 < value / divisor) : value < divisor := by
  rw [← neg_div_neg] at more
  have turned := lt_neg_of_lt_neg (lt_of_one_lt_div (isFinite_neg finite)
    ((IsOpposite.neg divisor).zero_lt_iff.mpr below) (isFinite_neg finite') more)
  rwa [neg_neg_eq] at turned

theorem lt_of_div_neg_lt_one (finite : value.isFinite = true) (below : divisor < 0.0)
    (finite' : divisor.isFinite = true) (less : value / divisor < 1.0) : divisor < value := by
  rw [← neg_div_neg] at less
  have turned := lt_of_div_lt_one (isFinite_neg finite)
    ((IsOpposite.neg divisor).zero_lt_iff.mpr below) (isFinite_neg finite') less
  have again := lt_neg_of_lt_neg turned
  rwa [neg_neg_eq] at again

end Ratio

end ProfileDrift.Double
