import ProfileDrift.Decimal.Literal
import ProfileDrift.Proofs.DoubleRounding
import ProfileDrift.Proofs.ShortestDecimal

namespace ProfileDrift

open Float.Model Float.Model.UnpackedFloat

namespace Double

variable {size : Dyadic} {number : ℚ}

theorem mul_eq (canonical : size.Canonical) {mantissa another : ℕ} {exponent exponent' : ℤ}
    {positive : 0 < mantissa} {positive' : 0 < another}
    (long : 52 ≤ (mantissa * another).log2 ∨ exponent + exponent' ≤ -1074)
    (exact : number = mantissa * 2 ^ exponent * (another * 2 ^ exponent'))
    (covers : size.Covers number) :
    UnpackedFloat.mul Format.binary64 (.finite .positive mantissa exponent positive)
      (.finite .positive another exponent' positive') = size.signed .positive := by
  refine roundWithAccuracy_eq canonical .positive ?_ long covers
  have unit := Dyadic.unit_pos (exponent + exponent')
  have places : number / 2 ^ (exponent + exponent') = (mantissa * another : ℕ) := by
    rw [div_eq_iff unit.ne', exact, zpow_add₀ two_ne_zero]
    push_cast
    ring
  rw [places]
  exact locates_exact _

/-- A quotient whose dividend is shifted far enough has all the bits of a mantissa. -/
theorem pow_le_shiftLeft_div {mantissa another shift : ℕ} (positive : 0 < mantissa)
    (positive' : 0 < another) (room : another.log2 + 53 ≤ mantissa.log2 + shift) :
    2 ^ 52 ≤ mantissa <<< shift / another := by
  rw [Nat.le_div_iff_mul_le positive', Nat.shiftLeft_eq]
  calc 2 ^ 52 * another ≤ 2 ^ 52 * 2 ^ (another.log2 + 1) :=
        Nat.mul_le_mul_left _ Nat.lt_log2_self.le
    _ = 2 ^ (another.log2 + 53) := by rw [← pow_add]; congr 1; omega
    _ ≤ 2 ^ (mantissa.log2 + shift) := Nat.pow_le_pow_right (by decide) room
    _ = 2 ^ mantissa.log2 * 2 ^ shift := pow_add ..
    _ ≤ mantissa * 2 ^ shift := Nat.mul_le_mul_right _ (Nat.log2_self_le positive.ne')

theorem shiftLeft_div_add (mantissa shift : ℕ) {another : ℕ} (positive : 0 < another) :
    (mantissa * 2 ^ shift / another : ℚ) = (mantissa <<< shift / another : ℕ) +
      (mantissa <<< shift % another : ℕ) / another := by
  have some : (0 : ℚ) < another := by exact_mod_cast positive
  have whole : (mantissa : ℚ) * 2 ^ shift =
      another * (mantissa <<< shift / another : ℕ) + (mantissa <<< shift % another : ℕ) := by
    have parts := Nat.div_add_mod (mantissa <<< shift) another
    rw [Nat.shiftLeft_eq] at parts ⊢
    exact_mod_cast parts.symm
  rw [whole, add_div, mul_div_cancel_left₀ _ some.ne']

/-- Before it is rounded a quotient has all the bits of a mantissa, or it stands at the least
place. -/
theorem exists_divCore {mantissa another : ℕ} (positive : 0 < mantissa) (positive' : 0 < another)
    (exponent exponent' : ℤ) : ∃ (shift : ℕ) (target : ℤ),
      divCore Format.binary64 mantissa exponent another exponent' =
        (mantissa <<< shift / another, target,
          accuracyOfFraction (mantissa <<< shift % another) another) ∧
      exponent = exponent' + target + shift ∧
      (52 ≤ (mantissa <<< shift / another).log2 ∨ target ≤ -1074) := by
  obtain ⟨target, target_eq⟩ : ∃ target, target = min (exponent - exponent')
      (max (((mantissa.log2 : ℤ) + 1 + exponent) - (another.log2 + 1 + exponent') - 53) (-1074)) :=
    ⟨_, rfl⟩
  obtain ⟨shift, shift_eq⟩ : ∃ shift, shift = (exponent - exponent' - target).toNat := ⟨_, rfl⟩
  refine ⟨shift, target, ?_, by omega, ?_⟩
  · have mantissaBits : Format.binary64.mantissaBits = 53 := rfl
    have minExponent : Format.binary64.minExponent = -1074 := by decide
    rw [shift_eq, target_eq, divCore, Format.targetExponent, mantissaBits, minExponent]
    rfl
  · by_cases least : target ≤ -1074
    · exact .inr least
    · have wide : 2 ^ 52 ≤ mantissa <<< shift / another :=
        pow_le_shiftLeft_div positive positive' (by omega)
      exact .inl ((Nat.le_log2 (by omega)).mpr wide)

/-- A quotient is rounded once, to the double that covers it. -/
theorem exists_div_covers {mantissa another : ℕ} {exponent exponent' : ℤ}
    (sign other : Sign) (positive : 0 < mantissa) (positive' : 0 < another)
    (exact : number = mantissa * 2 ^ exponent / (another * 2 ^ exponent')) :
    ∃ rounded : Dyadic, rounded.Canonical ∧ rounded.Covers number ∧
      UnpackedFloat.div Format.binary64 (.finite sign mantissa exponent positive)
        (.finite other another exponent' positive') = rounded.signed (sign / other) := by
  obtain ⟨shift, target, core, shifted, long⟩ :=
    exists_divCore positive positive' exponent exponent'
  have places : number / 2 ^ target = mantissa * 2 ^ shift / another := by
    have unit := Dyadic.unit_pos target
    have unit' := Dyadic.unit_pos exponent'
    have scaled : (2 : ℚ) ^ exponent = 2 ^ exponent' * 2 ^ target * 2 ^ shift := by
      rw [shifted, zpow_add₀ two_ne_zero, zpow_add₀ two_ne_zero, zpow_natCast]
    rw [exact, scaled]
    field_simp
  rw [UnpackedFloat.div, core]
  refine exists_roundWithAccuracy_covers (sign / other) ?_ long
  rw [places, shiftLeft_div_add mantissa shift positive']
  exact locates_fraction _ (Nat.mod_lt _ positive')

theorem div_eq (canonical : size.Canonical) {mantissa another : ℕ} {exponent exponent' : ℤ}
    {positive : 0 < mantissa} {positive' : 0 < another}
    (exact : number = mantissa * 2 ^ exponent / (another * 2 ^ exponent'))
    (covers : size.Covers number) :
    UnpackedFloat.div Format.binary64 (.finite .positive mantissa exponent positive)
      (.finite .positive another exponent' positive') = size.signed .positive := by
  obtain ⟨rounded, kept, again, same⟩ :=
    exists_div_covers .positive .positive positive positive' exact
  rw [same, again.unique kept canonical covers]
  rfl

/-- The double holds a number exactly, as a size with all of its bits. -/
structure Holds (value : Float) (number : ℚ) (size : Dyadic) : Prop where
  full : 2 ^ 52 ≤ size.mantissa
  exact : number = size.mantissa * 2 ^ size.exponent
  parts : value.toModel.unpack = size.signed .positive

/-- The table of powers of ten that are used without rounding is right. -/
theorem holds_powerOfTen (place : Fin Float.exactlyRepresentablePowersOfTen.size) :
    ∃ size, Holds Float.exactlyRepresentablePowersOfTen[place] (10 ^ place.val) size := by
  have table : ∀ place : Fin Float.exactlyRepresentablePowersOfTen.size,
      let power := Float.exactlyRepresentablePowersOfTen[place]
      power.isFinite = true ∧ Decimal.isNegative power = false ∧
        2 ^ 52 ≤ (Dyadic.ofFloat power).mantissa ∧
        (Dyadic.ofFloat power).numerator = 10 ^ place.val * (Dyadic.ofFloat power).denominator := by
    decide +kernel
  obtain ⟨finite, positive, full, exact⟩ := table place
  generalize Float.exactlyRepresentablePowersOfTen[place] = power at *
  refine ⟨Dyadic.ofFloat power, full, ?_, ?_⟩
  · have bottom : ((Dyadic.ofFloat power).denominator : ℚ) ≠ 0 :=
      Nat.cast_ne_zero.mpr (Dyadic.ofFloat power).denominator_pos.ne'
    rw [← Dyadic.value, ← Dyadic.numerator_div_denominator, exact, eq_div_iff bottom]
    push_cast
    rfl
  · rw [unpack_eq finite, signOf, positive]
    rfl

theorem holds_toFloat {number : ℕ} (positive : 0 < number) (narrow : number < 2 ^ 53) :
    ∃ size, Holds number.toUInt64.toFloat number size := by
  have bits : number.log2 < 53 := (Nat.log2_lt positive.ne').mpr narrow
  obtain ⟨shift, shift_eq⟩ : ∃ shift, shift = 52 - number.log2 := ⟨_, rfl⟩
  have size_eq : number.toUInt64.toNat = number := by
    rw [Nat.toUInt64, UInt64.toNat_ofNat', Nat.mod_eq_of_lt (by omega)]
  have full : 2 ^ 52 ≤ number <<< shift := by
    rw [Nat.shiftLeft_eq]
    calc 2 ^ 52 = 2 ^ number.log2 * 2 ^ shift := by rw [← pow_add]; congr 1; omega
      _ ≤ number * 2 ^ shift := Nat.mul_le_mul_right _ (Nat.log2_self_le positive.ne')
  have canonical : (Dyadic.mk (number <<< shift) (-shift)).Canonical := by
    refine ⟨?_, by dsimp only; omega, .inl full⟩
    change number <<< shift < 2 ^ 53
    rw [Nat.shiftLeft_eq]
    calc number * 2 ^ shift < 2 ^ (number.log2 + 1) * 2 ^ shift :=
          Nat.mul_lt_mul_of_pos_right Nat.lt_log2_self (Nat.two_pow_pos _)
      _ = 2 ^ 53 := by rw [← pow_add]; congr 1; omega
  have exact : (number : ℚ) = (number <<< shift : ℕ) * 2 ^ (-shift : ℤ) := by
    rw [Nat.shiftLeft_eq, zpow_neg, zpow_natCast]
    push_cast
    field_simp
  refine ⟨⟨number <<< shift, -shift⟩, full, exact, ?_⟩
  have rounded : UnpackedFloat.ofUInt64 Format.binary64 number.toUInt64 =
      (Dyadic.mk (number <<< shift) (-shift)).signed .positive := by
    have above : compare (number : ℤ) 0 = .gt := Int.compare_eq_gt.mpr (by omega)
    have places : (0 - (max ((number.log2 : ℤ) + 0 - 52) (-1074))).toNat = shift := by omega
    rw [UnpackedFloat.ofUInt64, UnpackedFloat.ofNat, UnpackedFloat.ofInt, UnpackedFloat.normalize,
      size_eq, above]
    dsimp only
    rw [UnpackedFloat.round, targetExponent_eq, decreaseExponent, Int.toNat_natCast, places, zero_sub]
    refine roundWithAccuracy_eq canonical .positive ?_ (.inl ?_) (Dyadic.covers_value _)
    · have places : Dyadic.value ⟨number <<< shift, -shift⟩ / 2 ^ (-shift : ℤ) =
          (number <<< shift : ℕ) := by
        rw [Dyadic.value, mul_div_cancel_right₀ _ (Dyadic.unit_pos _).ne']
      rw [places]
      exact locates_exact _
    · exact (Nat.le_log2 (by omega)).mpr full
  change UnpackedFloat.unpack Format.binary64 (UnpackedFloat.pack Format.binary64
    (UnpackedFloat.ofUInt64 Format.binary64 number.toUInt64)) = _
  rw [rounded]
  exact unpack_pack_signed canonical .positive (by dsimp only; omega)

theorem Holds.mantissa_pos {value : Float} (holds : Holds value number size) :
    0 < size.mantissa := by
  have := holds.full
  omega

theorem unpack_mul_of_holds {value other : Float} {number another : ℚ} {size size' product : Dyadic}
    (holds : Holds value number size) (holds' : Holds other another size')
    (canonical : product.Canonical) (fits : product.exponent ≤ 971)
    (covers : product.Covers (number * another)) :
    (value * other).toModel.unpack = product.signed .positive := by
  have long : 52 ≤ (size.mantissa * size'.mantissa).log2 := by
    have wide : 2 ^ 52 ≤ size.mantissa * size'.mantissa :=
      holds.full.trans (Nat.le_mul_of_pos_right _ holds'.mantissa_pos)
    exact (Nat.le_log2 (by omega)).mpr wide
  rw [unpack_mul, holds.parts, holds'.parts, signed_of_pos _ holds.mantissa_pos,
    signed_of_pos _ holds'.mantissa_pos, mul_eq canonical (.inl long) ?_ covers]
  · exact unpack_pack_signed canonical .positive fits
  · rw [holds.exact, holds'.exact]

theorem unpack_div_of_holds {value other : Float} {number another : ℚ}
    {size size' quotient : Dyadic}
    (holds : Holds value number size) (holds' : Holds other another size')
    (canonical : quotient.Canonical) (fits : quotient.exponent ≤ 971)
    (covers : quotient.Covers (number / another)) :
    (value / other).toModel.unpack = quotient.signed .positive := by
  change UnpackedFloat.unpack Format.binary64 (UnpackedFloat.pack Format.binary64
    (UnpackedFloat.div Format.binary64 value.toModel.unpack other.toModel.unpack)) = _
  rw [holds.parts, holds'.parts, signed_of_pos _ holds.mantissa_pos,
    signed_of_pos _ holds'.mantissa_pos, div_eq canonical ?_ covers]
  · exact unpack_pack_signed canonical .positive fits
  · rw [holds.exact, holds'.exact]

/-- Digits and a power of ten are multiplied or divided with one rounding in all. -/
theorem ofScientific_eq {significand : ℕ} {scale : ℤ} (positive : 0 < significand)
    (high : scale ≤ 2048) (low : -(2048 + significand.log2 : ℤ) ≤ scale)
    (canonical : size.Canonical) (covers : size.Covers (significand * 10 ^ scale)) :
    UnpackedFloat.ofScientific Format.binary64 significand scale = size.signed .positive := by
  have range : (2 : ℤ) ^ Format.binary64.exponentBits = 2048 := rfl
  rw [UnpackedFloat.ofScientific, dif_neg positive.ne', range, if_neg (by omega),
    if_neg (by omega)]
  split
  · refine mul_eq canonical (.inl ?_) ?_ covers
    · have wide : 2 ^ 52 ≤ significand <<< 53 * 10 ^ scale.toNat := by
        have power : 0 < 10 ^ scale.toNat := Nat.pow_pos (by decide)
        rw [Nat.shiftLeft_eq]
        nlinarith
      exact (Nat.le_log2 (Nat.ne_of_gt (Nat.zero_lt_of_lt wide))).mpr wide
    · change (significand * 10 ^ scale : ℚ) = (significand <<< 53 : ℕ) * 2 ^ (-53 : ℤ) *
        ((10 ^ scale.toNat : ℕ) * 2 ^ (0 : ℤ))
      obtain ⟨exponent, rfl⟩ := Int.eq_ofNat_of_zero_le ‹0 ≤ scale›
      rw [Nat.shiftLeft_eq, Int.toNat_natCast, zpow_natCast, zpow_zero]
      push_cast
      norm_num
      ring
  · refine div_eq canonical ?_ covers
    obtain ⟨exponent, rfl⟩ : ∃ exponent : ℕ, scale = -(exponent : ℤ) :=
      ⟨(-scale).toNat, by omega⟩
    rw [neg_neg, Int.toNat_natCast, zpow_neg, zpow_natCast, zpow_zero, mul_one, mul_one,
      div_eq_mul_inv]
    push_cast
    rfl

/-- A decimal is read as the double it is rounded to, unless its exponent is so far out
that it is not looked at. -/
theorem unpack_ofScientific {significand places : ℕ} {negative : Bool} {scale : ℤ}
    (scale_eq : scale = if negative then -(places : ℤ) else places) (positive : 0 < significand)
    (high : scale ≤ 2048) (low : -(2048 + significand.log2 : ℤ) ≤ scale)
    (canonical : size.Canonical) (fits : size.exponent ≤ 971)
    (covers : size.Covers (significand * 10 ^ scale)) :
    (Float.ofScientific significand negative places).toModel.unpack = size.signed .positive := by
  unfold Float.ofScientific
  split
  · rename_i exact
    obtain ⟨_, holds⟩ := holds_toFloat positive exact.1
    have listed : Float.exactlyRepresentablePowersOfTen.size = 23 := rfl
    obtain ⟨_, holds'⟩ := holds_powerOfTen ⟨places, by omega⟩
    dsimp only
    split
    · rename_i below
      refine unpack_div_of_holds holds holds' canonical fits ?_
      rw [scale_eq, if_pos below, zpow_neg, zpow_natCast, ← div_eq_mul_inv] at covers
      exact covers
    · rename_i above
      refine unpack_mul_of_holds holds holds' canonical fits ?_
      rw [scale_eq, if_neg above, zpow_natCast] at covers
      exact covers
  · have signed_eq : (if negative then Int.negOfNat places else Int.ofNat places) = scale := by
      rw [scale_eq]
      cases negative
      · rfl
      · exact Int.negOfNat_eq
    dsimp only
    rw [signed_eq]
    change UnpackedFloat.unpack Format.binary64 (UnpackedFloat.pack Format.binary64
      (UnpackedFloat.ofScientific Format.binary64 significand scale)) = _
    rw [ofScientific_eq positive high low canonical covers]
    exact unpack_pack_signed canonical .positive fits

end Double

namespace Dyadic

variable {size : Dyadic} {number : ℚ}

theorem two_pow_lt_ten_pow : (2 : ℚ) ^ (1080 : ℤ) < 10 ^ (400 : ℤ) := by
  have eighth : ((2 : ℚ) ^ 135) ^ 8 < (10 ^ 50) ^ 8 :=
    pow_lt_pow_left₀ (by norm_num) (by positivity) (by decide)
  rw [← pow_mul, ← pow_mul, ← zpow_natCast, ← zpow_natCast] at eighth
  exact eighth

/-- What is rounded to a finite double is below a power of ten that has many digits. -/
theorem Covers.lt_pow (covers : size.Covers number) (canonical : size.Canonical)
    (fits : size.exponent ≤ 971) : number < 10 ^ (400 : ℤ) := by
  have narrow : (size.mantissa : ℚ) + 1 / 2 ≤ 2 ^ (53 : ℤ) := by
    have whole : (size.mantissa + 1 : ℚ) ≤ 2 ^ (53 : ℤ) := by exact_mod_cast canonical.narrow
    linarith
  have unit : (2 : ℚ) ^ size.exponent ≤ 2 ^ (971 : ℤ) := zpow_le_zpow_right₀ (by norm_num) fits
  calc number ≤ size.upper := covers.below
    _ = (size.mantissa + 1 / 2) * 2 ^ size.exponent := size.upper_eq
    _ ≤ 2 ^ (53 : ℤ) * 2 ^ (971 : ℤ) := mul_le_mul narrow unit (unit_pos _).le (unit_pos _).le
    _ = 2 ^ (1024 : ℤ) := by rw [← zpow_add₀ two_ne_zero]; rfl
    _ ≤ 2 ^ (1080 : ℤ) := zpow_le_zpow_right₀ (by norm_num) (by decide)
    _ < 10 ^ (400 : ℤ) := two_pow_lt_ten_pow

theorem Covers.pow_lt (covers : size.Covers number) (canonical : size.Canonical)
    (positive : 0 < size.mantissa) : (10 : ℚ) ^ (-400 : ℤ) < number := by
  have some : (1 / 2 : ℚ) ≤ size.mantissa - size.margins.1 / 4 := by
    have one : (1 : ℚ) ≤ size.mantissa := by exact_mod_cast positive
    have few : (size.margins.1 : ℚ) ≤ 2 := by
      rcases size.margins_eq with ⟨_, _, same⟩ | ⟨_, same⟩ <;> rw [same] <;> norm_num
    linarith
  have unit : (2 : ℚ) ^ (-1074 : ℤ) ≤ 2 ^ size.exponent :=
    zpow_le_zpow_right₀ (by norm_num) canonical.least
  calc (10 : ℚ) ^ (-400 : ℤ) < 2 ^ (-1080 : ℤ) := by
        rw [zpow_neg, zpow_neg, inv_lt_inv₀ (zpow_pos (by norm_num) _) (unit_pos _)]
        exact two_pow_lt_ten_pow
    _ ≤ 2 ^ (-1075 : ℤ) := zpow_le_zpow_right₀ (by norm_num) (by decide)
    _ = 1 / 2 * 2 ^ (-1074 : ℤ) := by
        rw [one_div, ← zpow_neg_one, ← zpow_add₀ two_ne_zero]
        rfl
    _ ≤ (size.mantissa - size.margins.1 / 4) * 2 ^ size.exponent :=
      mul_le_mul some unit (unit_pos _).le (by linarith)
    _ = size.lower := size.lower_eq.symm
    _ ≤ number := covers.above

end Dyadic

namespace Decimal.Literal

open Double

variable {size : Dyadic}

/-- A positive decimal is read as the double it is rounded to. -/
theorem unpack_magnitude {significand : ℕ} {scale : ℤ} (positive : 0 < significand)
    (canonical : size.Canonical) (fits : size.exponent ≤ 971) (nonzero : 0 < size.mantissa)
    (covers : size.Covers (significand * 10 ^ scale)) :
    (magnitude significand scale).toModel.unpack = size.signed .positive := by
  have some : (0 : ℚ) < significand := by exact_mod_cast positive
  obtain ⟨length, length_eq⟩ : ∃ length, length = (digits significand).length := ⟨_, rfl⟩
  have nonempty : 0 < length := length_eq ▸ Nat.length_toDigits_pos
  have least : (10 : ℚ) ^ (length - 1 : ℤ) ≤ significand := by
    have whole := pow_length_digits_le positive
    have place : (length : ℤ) - 1 = (length - 1 : ℕ) := by omega
    rw [← length_eq] at whole
    rw [place, zpow_natCast]
    exact_mod_cast whole
  have less : (significand : ℚ) < 10 ^ (length : ℤ) := by
    have whole := lt_pow_length_digits significand
    rw [← length_eq] at whole
    rw [zpow_natCast]
    exact_mod_cast whole
  have unit : (0 : ℚ) < 10 ^ scale := zpow_pos (by norm_num) _
  have notLarge : scale + length ≤ 400 := by
    have bound : (10 : ℚ) ^ (length - 1 + scale : ℤ) < 10 ^ (400 : ℤ) := by
      rw [zpow_add₀ (by norm_num)]
      exact (mul_le_mul_of_nonneg_right least unit.le).trans_lt (covers.lt_pow canonical fits)
    have := (zpow_lt_zpow_iff_right₀ (by norm_num)).mp bound
    omega
  have notSmall : -400 < scale + length := by
    have bound : (10 : ℚ) ^ (-400 : ℤ) < 10 ^ (length + scale : ℤ) := by
      rw [zpow_add₀ (by norm_num)]
      exact (covers.pow_lt canonical nonzero).trans (mul_lt_mul_of_pos_right less unit)
    have := (zpow_lt_zpow_iff_right₀ (by norm_num)).mp bound
    omega
  have short : length ≤ significand.log2 + 1 := by
    rw [length_eq]
    refine (Nat.length_toDigits_le_iff (by decide) (Nat.succ_pos _)).mpr ?_
    exact Nat.lt_log2_self.trans_le (Nat.pow_le_pow_left (by decide) _)
  unfold magnitude
  dsimp only
  change (if significand = 0 ∨ scale + ((digits significand).length : ℤ) < -400 then 0.0
    else if 400 < scale + ((digits significand).length : ℤ) then 1.0 / 0.0
    else _ : Float).toModel.unpack = _
  rw [← length_eq, if_neg (by omega), if_neg (by omega)]
  split
  · exact unpack_ofScientific (by rw [if_pos rfl]; omega) positive (by omega) (by omega) canonical
      fits covers
  · exact unpack_ofScientific (by rw [if_neg Bool.false_ne_true]; omega) positive (by omega)
      (by omega) canonical fits covers

/-- A literal is read as the double that it is rounded to. -/
theorem toFloat_eq {literal : Literal} {value : Float} (finite : value.isFinite = true)
    (sign : literal.negative = isNegative value)
    (zero : (Dyadic.ofFloat value).mantissa = 0 → literal.significand = 0)
    (covers : 0 < (Dyadic.ofFloat value).mantissa →
      (Dyadic.ofFloat value).Covers (literal.significand * 10 ^ literal.scale)) :
    literal.toFloat = value := by
  have canonical := canonical_ofFloat value
  have fits := exponent_le_of_isFinite finite
  have size : (magnitude literal.significand literal.scale).toModel.unpack =
      (Dyadic.ofFloat value).signed .positive := by
    rcases Nat.eq_zero_or_pos (Dyadic.ofFloat value).mantissa with none | some
    · rw [zero none, Dyadic.signed, dif_pos none]
      have nothing : magnitude 0 literal.scale = 0.0 := by
        rw [magnitude]
        exact if_pos (.inl rfl)
      rw [nothing]
      rfl
    · have number := (covers some).pos some
      have positive : 0 < literal.significand := by
        refine Nat.pos_of_ne_zero fun nothing => ?_
        rw [nothing] at number
        simp at number
      exact unpack_magnitude positive canonical fits some (covers some)
  refine eq_of_unpack_eq ?_
  rw [unpack_eq finite, toFloat, signOf, sign]
  cases isNegative value with
  | false =>
    rw [if_neg Bool.false_ne_true, if_neg Bool.false_ne_true]
    exact size
  | true =>
    rw [if_pos rfl, if_pos rfl, unpack_neg, size, neg_signed]
    exact unpack_pack_signed canonical _ fits

end Decimal.Literal

end ProfileDrift
