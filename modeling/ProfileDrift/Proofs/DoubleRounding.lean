import ProfileDrift.Proofs.DoubleRange

namespace ProfileDrift

open Float.Model Float.Model.UnpackedFloat

namespace Double

/-- How far a number lies beyond a mantissa and its round bit, in units of the last place. -/
def beyond (extended : ExtendedMantissa) (number : ℚ) : ℚ :=
  number - extended.mantissa - extended.roundBit.toNat / 2

/-- A mantissa with its residual bits tells where a number lies: less than half a unit
beyond, and beyond at all exactly if the sticky bit is set. -/
structure Locates (extended : ExtendedMantissa) (number : ℚ) : Prop where
  least : 0 ≤ beyond extended number
  less : beyond extended number < 1 / 2
  sticky : extended.stickyBit = true ↔ 0 < beyond extended number

variable {extended : ExtendedMantissa} {number : ℚ}

theorem beyond_shiftRightOne (extended : ExtendedMantissa) (number : ℚ) :
    beyond extended.shiftRightOne (number / 2) =
      beyond extended number / 2 + extended.roundBit.toNat / 4 := by
  have split : (extended.mantissa : ℚ) =
      2 * (extended.mantissa / 2 : ℕ) + (extended.mantissa % 2 : ℕ) := by
    exact_mod_cast (Nat.div_add_mod extended.mantissa 2).symm
  have bit : (extended.shiftRightOne.roundBit.toNat : ℚ) = (extended.mantissa % 2 : ℕ) := by
    change ((extended.mantissa % 2 != 0).toNat : ℚ) = _
    rcases Nat.mod_two_eq_zero_or_one extended.mantissa with even | odd
    · rw [even]; rfl
    · rw [odd]; rfl
  have halved : (extended.shiftRightOne.mantissa : ℚ) = (extended.mantissa / 2 : ℕ) := rfl
  rw [beyond, beyond, bit, halved]
  linarith

theorem Locates.shiftRightOne (located : Locates extended number) :
    Locates extended.shiftRightOne (number / 2) := by
  obtain ⟨least, less, sticky⟩ := located
  refine ⟨?_, ?_, ?_⟩ <;> rw [beyond_shiftRightOne]
  · positivity
  · have small : (extended.roundBit.toNat : ℚ) ≤ 1 := by exact_mod_cast Bool.toNat_le _
    linarith
  · change (extended.roundBit || extended.stickyBit) = true ↔ _
    rw [Bool.or_eq_true, sticky]
    cases extended.roundBit
    · norm_num
    · refine ⟨fun _ => ?_, fun _ => .inl rfl⟩
      rw [Bool.toNat_true, Nat.cast_one]
      linarith

theorem Locates.shiftRight (located : Locates extended number) (places : ℕ) :
    Locates (extended >>> places) (number / 2 ^ places) := by
  induction places with
  | zero =>
    rw [pow_zero, div_one]
    exact located
  | succ places ih =>
    rw [pow_succ, ← div_div]
    exact ih.shiftRightOne

theorem mantissa_shiftRight (extended : ExtendedMantissa) (places : ℕ) :
    (extended >>> places).mantissa = extended.mantissa / 2 ^ places := by
  induction places with
  | zero =>
    rw [pow_zero, Nat.div_one]
    rfl
  | succ places ih =>
    rw [pow_succ, ← Nat.div_div_eq_div_mul, ← ih]
    rfl

theorem Locates.mantissa_le (located : Locates extended number) : extended.mantissa ≤ number := by
  have least := located.least
  have bit : (0 : ℚ) ≤ extended.roundBit.toNat / 2 := by positivity
  rw [beyond] at least
  linarith

/-- Rounding goes to the nearest whole number, and from half way to the even one. -/
theorem Locates.nearest (located : Locates extended number) :
    |number - extended.roundedMantissa| ≤ 1 / 2 ∧
      (extended.roundedMantissa % 2 = 1 → |number - extended.roundedMantissa| < 1 / 2) := by
  obtain ⟨mantissa, round, rest⟩ := extended
  obtain ⟨least, less, sticky⟩ := located
  have at_sticky : 0 < number - mantissa - round.toNat / 2 ↔ rest = true := sticky.symm
  change 0 ≤ number - mantissa - round.toNat / 2 at least
  change number - mantissa - round.toNat / 2 < 1 / 2 at less
  have strictly (rounded : ℕ) (below : number - 1 / 2 < rounded)
      (above : rounded < number + 1 / 2) :
      |number - rounded| ≤ 1 / 2 ∧ (rounded % 2 = 1 → |number - rounded| < 1 / 2) := by
    have near : |number - rounded| < 1 / 2 := abs_lt.mpr ⟨by linarith, by linarith⟩
    exact ⟨near.le, fun _ => near⟩
  cases round with
  | false =>
    rw [Bool.toNat_false, Nat.cast_zero, zero_div, sub_zero] at least less
    have rounded : ExtendedMantissa.roundedMantissa ⟨mantissa, false, rest⟩ = mantissa := by
      cases rest <;> rfl
    rw [rounded]
    exact strictly mantissa (by linarith) (by linarith)
  | true =>
    rw [Bool.toNat_true, Nat.cast_one] at least less at_sticky
    cases rest with
    | false =>
      have half : number = mantissa + 1 / 2 := by
        have none : ¬ 0 < number - mantissa - 1 / 2 := fun more => by simpa using at_sticky.mp more
        linarith
      change |number - (mantissa + mantissa % 2 : ℕ)| ≤ 1 / 2 ∧
        ((mantissa + mantissa % 2) % 2 = 1 → _)
      refine ⟨?_, fun odd => absurd odd (by omega)⟩
      rcases Nat.mod_two_eq_zero_or_one mantissa with even | odd
      · rw [even, half, abs_le]
        constructor <;> push_cast <;> linarith
      · rw [odd, half, abs_le]
        constructor <;> push_cast <;> linarith
    | true =>
      have more : 0 < number - mantissa - 1 / 2 := at_sticky.mpr rfl
      exact strictly (mantissa + 1) (by push_cast; linarith) (by push_cast; linarith)

theorem le_roundedMantissa (extended : ExtendedMantissa) :
    extended.mantissa ≤ extended.roundedMantissa := by
  obtain ⟨mantissa, round, rest⟩ := extended
  cases round <;> cases rest <;>
    simp [ExtendedMantissa.roundedMantissa, ExtendedMantissa.accuracy, Accuracy.roundToNearestEven]

theorem locates_exact (mantissa : ℕ) :
    Locates (.ofMantissaAndAccuracy mantissa .exact) mantissa := by
  have none : beyond (.ofMantissaAndAccuracy mantissa .exact) mantissa = 0 := by
    change (mantissa : ℚ) - mantissa - ((0 : ℕ) : ℚ) / 2 = 0
    norm_num
  refine ⟨none.ge, by rw [none]; norm_num, ?_⟩
  rw [none]
  exact ⟨fun set => Bool.noConfusion set, fun more => absurd more (lt_irrefl 0)⟩

theorem locates_fraction (mantissa : ℕ) {part whole : ℕ} (less : part < whole) :
    Locates (.ofMantissaAndAccuracy mantissa (accuracyOfFraction part whole))
      (mantissa + part / whole) := by
  have positive : (0 : ℚ) < whole := by exact_mod_cast Nat.zero_lt_of_lt less
  have below : (part / whole : ℚ) < 1 := (div_lt_one positive).mpr (by exact_mod_cast less)
  unfold accuracyOfFraction
  split
  · rename_i zero
    rw [zero, Nat.cast_zero, zero_div, add_zero]
    exact locates_exact mantissa
  · rename_i nonzero
    have above : (0 : ℚ) < part / whole :=
      div_pos (by exact_mod_cast Nat.pos_of_ne_zero nonzero) positive
    have rest (extended : ExtendedMantissa) (same : extended.mantissa = mantissa) :
        beyond extended (mantissa + part / whole) = part / whole - extended.roundBit.toNat / 2 := by
      rw [beyond, same]
      ring
    cases side : compare (2 * part) whole with
    | lt =>
      have half : (part / whole : ℚ) < 1 / 2 := by
        have twice : (2 * part : ℚ) < whole := by exact_mod_cast Nat.compare_eq_lt.mp side
        rw [div_lt_iff₀ positive]
        linarith
      refine ⟨?_, ?_, ?_⟩ <;> rw [rest _ rfl] <;>
        simp only [ExtendedMantissa.ofMantissaAndAccuracy, Bool.toNat_false, Nat.cast_zero, zero_div,
          sub_zero, true_iff]
      exacts [above.le, half, above]
    | eq =>
      have half : (part / whole : ℚ) = 1 / 2 := by
        have twice : (2 * part : ℚ) = whole := by exact_mod_cast Nat.compare_eq_eq.mp side
        rw [div_eq_iff positive.ne']
        linarith
      refine ⟨?_, ?_, ?_⟩ <;> rw [rest _ rfl, half] <;>
        norm_num [ExtendedMantissa.ofMantissaAndAccuracy]
    | gt =>
      have half : (1 / 2 : ℚ) < part / whole := by
        have twice : (whole : ℚ) < 2 * part := by exact_mod_cast Nat.compare_eq_gt.mp side
        rw [lt_div_iff₀ positive]
        linarith
      refine ⟨?_, ?_, ?_⟩ <;> rw [rest _ rfl] <;>
        simp only [ExtendedMantissa.ofMantissaAndAccuracy, Bool.toNat_true, Nat.cast_one, true_iff]
      all_goals linarith

theorem targetExponent_eq (mantissa : ℕ) (exponent : ℤ) :
    Format.binary64.targetExponent (totalExponent mantissa exponent) =
      max (mantissa.log2 + exponent - 52) (-1074) := by
  have mantissaBits : Format.binary64.mantissaBits = 53 := rfl
  have minExponent : Format.binary64.minExponent = -1074 := by decide
  rw [Format.targetExponent, totalExponent, mantissaBits, minExponent]
  congr 1
  omega

/-- The double of a mantissa that was rounded; one of too many bits is a power of two. -/
def carried (mantissa : ℕ) (exponent : ℤ) : Dyadic :=
  if mantissa < 2 ^ 53 then ⟨mantissa, exponent⟩ else ⟨2 ^ 52, exponent + 1⟩

/-- The second shift brings back a mantissa that was rounded up to one bit too many. -/
theorem second_shift {mantissa : ℕ} {exponent : ℤ} (wide : mantissa ≤ 2 ^ 53)
    (least : -1074 ≤ exponent) :
    shiftToTargetExponent Format.binary64 mantissa exponent .exact =
      (⟨(carried mantissa exponent).mantissa, false, false⟩,
        (carried mantissa exponent).exponent) := by
  rw [shiftToTargetExponent, targetExponent_eq, shiftToExponent]
  unfold carried
  split
  · rename_i narrow
    have bits : mantissa.log2 ≤ 52 := by
      by_cases zero : mantissa = 0
      · rw [zero]
        decide
      · exact Nat.le_of_lt_succ ((Nat.log2_lt zero).mpr narrow)
    have none : (max (mantissa.log2 + exponent - 52) (-1074) - exponent).toNat = 0 := by omega
    rw [none]
    dsimp only
    rw [Nat.cast_zero, add_zero]
    rfl
  · rename_i carry
    obtain rfl : mantissa = 2 ^ 53 := wide.antisymm (Nat.not_lt.mp carry)
    have one : (max (((2 ^ 53 : ℕ).log2 : ℤ) + exponent - 52) (-1074) - exponent).toNat = 1 := by
      rw [Nat.log2_two_pow]
      omega
    rw [one]
    rfl

/-- The mantissa that is left after the first shift fits, and is full unless the exponent
is the least. -/
theorem mantissa_first_shift {mantissa : ℕ} {exponent : ℤ} {places : ℕ}
    (shift : places = (max (mantissa.log2 + exponent - 52) (-1074) - exponent).toNat)
    (long : 52 ≤ mantissa.log2 ∨ exponent ≤ -1074) :
    mantissa / 2 ^ places < 2 ^ 53 ∧ -1074 ≤ exponent + places ∧
      (2 ^ 52 ≤ mantissa / 2 ^ places ∨ exponent + places = -1074) := by
  have room : 0 < 2 ^ places := Nat.two_pow_pos places
  refine ⟨?_, by omega, ?_⟩
  · rw [Nat.div_lt_iff_lt_mul room, ← pow_add]
    exact Nat.lt_log2_self.trans_le (Nat.pow_le_pow_right (by decide) (by omega))
  · by_cases least : exponent + places = -1074
    · exact .inr least
    · left
      have nonzero : mantissa ≠ 0 := by
        rintro rfl
        simp only [Nat.log2_zero] at shift long
        omega
      rw [Nat.le_div_iff_mul_le room, ← pow_add]
      exact (Nat.pow_le_pow_right (by decide) (by omega)).trans (Nat.log2_self_le nonzero)

theorem canonical_carried {mantissa : ℕ} {exponent : ℤ} (least : -1074 ≤ exponent)
    (full : 2 ^ 52 ≤ mantissa ∨ exponent = -1074) : (carried mantissa exponent).Canonical := by
  unfold carried
  split
  · rename_i narrow
    exact ⟨narrow, least, full⟩
  · exact ⟨by norm_num, by dsimp only; omega, .inl (Nat.le_refl _)⟩

/-- The nearest whole number of places is a double that the number is rounded to. Only a
full mantissa needs more: the midpoint below a power of two is nearer than the others. -/
theorem covers_carried {mantissa : ℕ} {exponent : ℤ} {number : ℚ} (wide : mantissa ≤ 2 ^ 53)
    (near : |number / 2 ^ exponent - mantissa| ≤ 1 / 2 ∧
      (mantissa % 2 = 1 → |number / 2 ^ exponent - mantissa| < 1 / 2))
    (full : (2 ^ 52 : ℚ) ≤ number / 2 ^ exponent ∨ exponent = -1074) :
    (carried mantissa exponent).Covers number := by
  have unit := Dyadic.unit_pos exponent
  have number_eq : number = number / 2 ^ exponent * 2 ^ exponent :=
    (div_mul_cancel₀ _ unit.ne').symm
  generalize number / 2 ^ exponent = places at near full number_eq
  obtain ⟨low, high⟩ := abs_le.mp near.1
  rw [number_eq]
  unfold carried
  split
  · rename_i narrow
    have lowest : (mantissa : ℚ) - (Dyadic.mk mantissa exponent).margins.1 / 4 ≤ places ∧
        (mantissa % 2 = 1 →
          (mantissa : ℚ) - (Dyadic.mk mantissa exponent).margins.1 / 4 < places) := by
      rcases (Dyadic.mk mantissa exponent).margins_eq with ⟨power, above, same⟩ | ⟨_, same⟩
      · have mantissa_le : (mantissa : ℚ) ≤ places := by
          have power' : (mantissa : ℚ) = 2 ^ 52 := by exact_mod_cast power
          rw [power']
          exact full.resolve_right (fun least => absurd above (by dsimp only; omega))
        rw [same]
        push_cast
        exact ⟨by linarith, fun _ => by linarith⟩
      · rw [same]
        push_cast
        refine ⟨by linarith, fun odd => ?_⟩
        obtain ⟨low, _⟩ := abs_lt.mp (near.2 odd)
        linarith
    refine Dyadic.covers_of_places lowest.1 (by dsimp only; linarith) fun odd => ⟨lowest.2 odd, ?_⟩
    obtain ⟨_, high⟩ := abs_lt.mp (near.2 odd)
    dsimp only
    linarith
  · rename_i carry
    have power : (mantissa : ℚ) = 2 ^ 53 := by exact_mod_cast wide.antisymm (Nat.not_lt.mp carry)
    have many : (1 : ℚ) ≤ (Dyadic.mk (2 ^ 52) (exponent + 1)).margins.1 := by
      rcases (Dyadic.mk (2 ^ 52) (exponent + 1)).margins_eq with ⟨_, _, same⟩ | ⟨_, same⟩ <;>
        rw [same] <;> norm_num
    have halved : places * 2 ^ exponent = places / 2 * 2 ^ (exponent + 1) := by
      rw [zpow_add_one₀ two_ne_zero]
      ring
    rw [halved]
    rw [power] at low high
    have full : ((2 ^ 52 : ℕ) : ℚ) = 2 ^ 52 := by norm_num
    refine Dyadic.covers_of_places ?_ ?_ fun odd => ?_
    · generalize (Dyadic.mk (2 ^ 52) (exponent + 1)).margins.1 = half at many ⊢
      rw [full]
      linarith
    · rw [full]
      linarith
    · norm_num at odd

theorem mantissa_ofMantissaAndAccuracy (mantissa : ℕ) (accuracy : Accuracy) :
    (ExtendedMantissa.ofMantissaAndAccuracy mantissa accuracy).mantissa = mantissa := by
  cases accuracy with
  | exact => rfl
  | inexact side => cases side <;> rfl

/-- Rounding shifts to the places of the result, rounds there and carries. -/
theorem roundWithAccuracy_carried (sign : Sign) {mantissa : ℕ} {exponent : ℤ}
    (accuracy : Accuracy) {places : ℕ}
    (shift : places = (max (mantissa.log2 + exponent - 52) (-1074) - exponent).toNat)
    (long : 52 ≤ mantissa.log2 ∨ exponent ≤ -1074) :
    roundWithAccuracy Format.binary64 sign mantissa exponent accuracy =
      (carried (ExtendedMantissa.ofMantissaAndAccuracy mantissa accuracy >>> places).roundedMantissa
        (exponent + places)).signed sign := by
  obtain ⟨first, first_eq⟩ : ∃ first,
      first = ExtendedMantissa.ofMantissaAndAccuracy mantissa accuracy >>> places := ⟨_, rfl⟩
  have kept : first.mantissa = mantissa / 2 ^ places := by
    rw [first_eq, mantissa_shiftRight, mantissa_ofMantissaAndAccuracy]
  obtain ⟨narrow, least, -⟩ := mantissa_first_shift shift long
  rw [← kept] at narrow
  have rounded := roundedMantissa_le first
  have shifted : shiftToTargetExponent Format.binary64 mantissa exponent accuracy =
      (first, exponent + places) := by
    rw [shiftToTargetExponent, targetExponent_eq, shiftToExponent, ← shift, first_eq]
  rw [roundWithAccuracy, shifted, ← first_eq]
  dsimp only
  rw [second_shift (by omega) least]
  rfl

/-- A number is rounded to a double in whose interval it lies. -/
theorem exists_roundWithAccuracy_covers (sign : Sign) {mantissa : ℕ} {exponent : ℤ}
    {accuracy : Accuracy} {number : ℚ}
    (located : Locates (.ofMantissaAndAccuracy mantissa accuracy) (number / 2 ^ exponent))
    (long : 52 ≤ mantissa.log2 ∨ exponent ≤ -1074) :
    ∃ size : Dyadic, size.Canonical ∧ size.Covers number ∧
      roundWithAccuracy Format.binary64 sign mantissa exponent accuracy = size.signed sign := by
  obtain ⟨places, shift⟩ : ∃ places,
      places = (max (mantissa.log2 + exponent - 52) (-1074) - exponent).toNat := ⟨_, rfl⟩
  rw [roundWithAccuracy_carried sign accuracy shift long]
  obtain ⟨first, first_eq⟩ : ∃ first,
      first = ExtendedMantissa.ofMantissaAndAccuracy mantissa accuracy >>> places := ⟨_, rfl⟩
  have kept : first.mantissa = mantissa / 2 ^ places := by
    rw [first_eq, mantissa_shiftRight, mantissa_ofMantissaAndAccuracy]
  obtain ⟨narrow, least, full⟩ := mantissa_first_shift shift long
  rw [← kept] at narrow full
  have reached : Locates first (number / 2 ^ (exponent + places)) := by
    rw [first_eq, zpow_add₀ two_ne_zero, zpow_natCast, ← div_div]
    exact located.shiftRight places
  have rounded := roundedMantissa_le first
  have grown := le_roundedMantissa first
  rw [← first_eq]
  refine ⟨_, canonical_carried least (by omega),
    covers_carried (by omega) reached.nearest (full.imp_left fun wide => ?_), rfl⟩
  have wide' : (2 ^ 52 : ℚ) ≤ first.mantissa := by exact_mod_cast wide
  exact wide'.trans reached.mantissa_le

/-- Whichever double covers a number, that is the one it is rounded to. -/
theorem roundWithAccuracy_eq {size : Dyadic} (canonical : size.Canonical) (sign : Sign)
    {mantissa : ℕ} {exponent : ℤ} {accuracy : Accuracy} {number : ℚ}
    (located : Locates (.ofMantissaAndAccuracy mantissa accuracy) (number / 2 ^ exponent))
    (long : 52 ≤ mantissa.log2 ∨ exponent ≤ -1074) (covers : size.Covers number) :
    roundWithAccuracy Format.binary64 sign mantissa exponent accuracy = size.signed sign := by
  obtain ⟨rounded, kept, again, same⟩ := exists_roundWithAccuracy_covers sign located long
  rw [same, again.unique kept canonical covers]

end Double

end ProfileDrift
