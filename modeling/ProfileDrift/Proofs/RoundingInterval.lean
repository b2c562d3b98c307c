import Mathlib.Algebra.Order.Field.Power
import Mathlib.Tactic.Linarith
import Mathlib.Tactic.Ring
import ProfileDrift.Decimal.Shortest

namespace ProfileDrift.Dyadic

/-- A size that a double can have: of fifty-three bits, or of fewer at the least
exponent. Zero is one of them, and there is no greatest. -/
structure Canonical (size : Dyadic) : Prop where
  narrow : size.mantissa < 2 ^ 53
  least : -1074 ≤ size.exponent
  full : 2 ^ 52 ≤ size.mantissa ∨ size.exponent = -1074

def value (size : Dyadic) : ℚ := size.mantissa * 2 ^ size.exponent

/-- Half way to the next smaller double. -/
def lower (size : Dyadic) : ℚ := (4 * size.mantissa - size.margins.1) * 2 ^ (size.exponent - 2)

/-- Half way to the next larger double. -/
def upper (size : Dyadic) : ℚ := (4 * size.mantissa + size.margins.2) * 2 ^ (size.exponent - 2)

/-- A number that is rounded to this size: it lies between the midpoints to the
neighbours, and on one of them only if the mantissa is even. -/
structure Covers (size : Dyadic) (number : ℚ) : Prop where
  above : size.lower ≤ number
  below : number ≤ size.upper
  inside : size.mantissa % 2 = 1 → size.lower < number ∧ number < size.upper

theorem margins_eq (size : Dyadic) :
    size.mantissa = 2 ^ 52 ∧ -1074 < size.exponent ∧ size.margins = (1, 2) ∨
      ¬ (size.mantissa = 2 ^ 52 ∧ -1074 < size.exponent) ∧ size.margins = (2, 2) := by
  unfold margins
  split
  · rename_i power
    exact .inl ⟨power.1, power.2, rfl⟩
  · rename_i other
    exact .inr ⟨other, rfl⟩

theorem margins_snd (size : Dyadic) : size.margins.2 = 2 := by
  rcases size.margins_eq with ⟨_, _, same⟩ | ⟨_, same⟩ <;> rw [same]

theorem unit_pos (exponent : ℤ) : (0 : ℚ) < 2 ^ exponent := zpow_pos two_pos exponent

theorem lower_eq (size : Dyadic) :
    size.lower = (size.mantissa - size.margins.1 / 4) * 2 ^ size.exponent := by
  rw [lower, zpow_sub₀ two_ne_zero]
  ring

theorem upper_eq (size : Dyadic) : size.upper = (size.mantissa + 1 / 2) * 2 ^ size.exponent := by
  rw [upper, margins_snd, zpow_sub₀ two_ne_zero]
  push_cast
  ring

theorem covers_of_places {size : Dyadic} {places : ℚ}
    (above : size.mantissa - size.margins.1 / 4 ≤ places) (below : places ≤ size.mantissa + 1 / 2)
    (inside : size.mantissa % 2 = 1 →
      size.mantissa - size.margins.1 / 4 < places ∧ places < size.mantissa + 1 / 2) :
    size.Covers (places * 2 ^ size.exponent) := by
  have unit := unit_pos size.exponent
  refine ⟨?_, ?_, fun odd => ⟨?_, ?_⟩⟩
  · rw [lower_eq]
    exact mul_le_mul_of_nonneg_right above unit.le
  · rw [upper_eq]
    exact mul_le_mul_of_nonneg_right below unit.le
  · rw [lower_eq]
    exact mul_lt_mul_of_pos_right (inside odd).1 unit
  · rw [upper_eq]
    exact mul_lt_mul_of_pos_right (inside odd).2 unit

theorem covers_value (size : Dyadic) : size.Covers size.value := by
  have room : (0 : ℚ) < size.margins.1 := by
    rcases size.margins_eq with ⟨_, _, same⟩ | ⟨_, same⟩ <;> rw [same] <;> norm_num
  exact covers_of_places (by linarith) (by linarith) fun _ => ⟨by linarith, by linarith⟩

theorem lower_pos {size : Dyadic} (positive : 0 < size.mantissa) : 0 < size.lower := by
  have many : (1 : ℚ) ≤ size.mantissa := by exact_mod_cast positive
  have few : (size.margins.1 : ℚ) ≤ 2 := by
    rcases size.margins_eq with ⟨_, _, same⟩ | ⟨_, same⟩ <;> rw [same] <;> norm_num
  exact mul_pos (by linarith) (unit_pos _)

theorem Covers.pos {size : Dyadic} {number : ℚ} (covers : size.Covers number)
    (positive : 0 < size.mantissa) : 0 < number :=
  (lower_pos positive).trans_le covers.above

section Apart

variable {size other : Dyadic}

/-- One double is before another if its exponent is smaller, or its mantissa at the
same exponent. -/
def Precedes (size other : Dyadic) : Prop :=
  size.exponent < other.exponent ∨
    size.exponent = other.exponent ∧ size.mantissa < other.mantissa

/-- The intervals of two doubles meet at most in a midpoint, which then lies between a
mantissa that is even and one that is odd. Both ends are counted in quarters of the
last place of the smaller double. -/
theorem Precedes.ends (before : size.Precedes other) (canonical : size.Canonical)
    (another : other.Canonical) :
    ∃ places : ℕ, other.exponent = size.exponent + places ∧
      (4 * size.mantissa + 2 : ℤ) ≤ (4 * other.mantissa - other.margins.1) * 2 ^ places ∧
      ((4 * size.mantissa + 2 : ℤ) = (4 * other.mantissa - other.margins.1) * 2 ^ places →
        size.mantissa % 2 = 1 ∨ other.mantissa % 2 = 1) := by
  have narrow := canonical.narrow
  have full := another.full
  have least := canonical.least
  have margins := other.margins_eq
  generalize other.margins = ends at margins ⊢
  rcases before with earlier | ⟨same, less⟩
  · -- The other mantissa is full, and what it counts is at least doubled.
    obtain ⟨places, shift⟩ : ∃ places : ℕ, other.exponent = size.exponent + (places + 1 : ℕ) :=
      ⟨(other.exponent - size.exponent - 1).toNat, by omega⟩
    have wide : 2 ^ 52 ≤ other.mantissa := full.resolve_right (by omega)
    have grown : (1 : ℤ) ≤ 2 ^ places := one_le_pow₀ (by norm_num)
    have few : (2 ^ 54 - 1 : ℤ) ≤ 4 * other.mantissa - ends.1 := by
      rcases margins with ⟨_, _, rfl⟩ | ⟨_, rfl⟩ <;> push_cast <;> omega
    have doubled : (2 ^ 54 - 1 : ℤ) * 2 ≤ (4 * other.mantissa - ends.1) * 2 ^ (places + 1) := by
      refine mul_le_mul few ?_ (by norm_num) (by omega)
      rw [pow_succ]
      omega
    exact ⟨places + 1, shift, by omega, fun equal => .inl (by omega)⟩
  · refine ⟨0, by rw [same, Nat.cast_zero, add_zero], ?_⟩
    rw [pow_zero, mul_one]
    rcases margins with ⟨_, _, rfl⟩ | ⟨_, rfl⟩ <;> push_cast <;> omega

theorem Precedes.upper_le (before : size.Precedes other) (canonical : size.Canonical)
    (another : other.Canonical) :
    size.upper ≤ other.lower ∧
      (size.upper = other.lower → size.mantissa % 2 = 1 ∨ other.mantissa % 2 = 1) := by
  obtain ⟨places, shift, least, parity⟩ := before.ends canonical another
  have upper_eq : size.upper = ((4 * size.mantissa + 2 : ℤ) : ℚ) * 2 ^ (size.exponent - 2) := by
    rw [upper, margins_snd]
    push_cast
    rfl
  have lower_eq : other.lower =
      (((4 * other.mantissa - other.margins.1) * 2 ^ places : ℤ) : ℚ) *
        2 ^ (size.exponent - 2) := by
    have place : other.exponent - 2 = size.exponent - 2 + places := by omega
    rw [lower, place, zpow_add₀ two_ne_zero, zpow_natCast]
    push_cast
    ring
  rw [upper_eq, lower_eq]
  refine ⟨mul_le_mul_of_nonneg_right (by exact_mod_cast least) (unit_pos _).le, fun equal => ?_⟩
  exact parity (by exact_mod_cast mul_right_cancel₀ (unit_pos _).ne' equal)

/-- Rounding keeps the order of numbers. -/
theorem Precedes.lt_of_covers (before : size.Precedes other) (canonical : size.Canonical)
    (another : other.Canonical) {number later : ℚ} (covers : size.Covers number)
    (again : other.Covers later) : number < later := by
  obtain ⟨ordered, parity⟩ := before.upper_le canonical another
  by_contra reversed
  have within : later ≤ size.upper := (not_lt.mp reversed).trans covers.below
  have equal : size.upper = other.lower := ordered.antisymm (again.above.trans within)
  have outside : other.lower ≤ number := again.above.trans (not_lt.mp reversed)
  rcases parity equal with odd | odd
  · exact absurd ((covers.inside odd).2.trans_le equal.le) outside.not_gt
  · exact absurd ((again.inside odd).1.trans_le within) equal.le.not_gt

theorem value_le_of_not_precedes (canonical : size.Canonical) (another : other.Canonical)
    (ordered : ¬ size.Precedes other) : other.value ≤ size.value := by
  unfold Precedes at ordered
  by_cases same : other.exponent = size.exponent ∧ other.mantissa = size.mantissa
  · exact le_of_eq (by rw [value, value, same.1, same.2])
  · have before : other.Precedes size := by
      unfold Precedes
      omega
    exact (before.lt_of_covers another canonical (covers_value other) (covers_value size)).le

/-- What a number is rounded to does not pass a double that the number does not pass. -/
theorem Covers.value_le (canonical : size.Canonical) (another : other.Canonical) {number : ℚ}
    (covers : other.Covers number) (within : number ≤ size.value) : other.value ≤ size.value :=
  value_le_of_not_precedes canonical another fun before =>
    (before.lt_of_covers canonical another (covers_value size) covers).not_ge within

theorem Covers.le_value (canonical : size.Canonical) (another : other.Canonical) {number : ℚ}
    (covers : other.Covers number) (within : size.value ≤ number) : size.value ≤ other.value :=
  value_le_of_not_precedes another canonical fun before =>
    (before.lt_of_covers another canonical covers (covers_value size)).not_ge within

/-- No number is rounded to two doubles. -/
theorem Covers.unique (canonical : size.Canonical) (another : other.Canonical) {number : ℚ}
    (covers : size.Covers number) (again : other.Covers number) : size = other := by
  have forth : ¬ size.Precedes other := fun before =>
    lt_irrefl number (before.lt_of_covers canonical another covers again)
  have back : ¬ other.Precedes size := fun before =>
    lt_irrefl number (before.lt_of_covers another canonical again covers)
  unfold Precedes at forth back
  have exponents : size.exponent = other.exponent := by omega
  have mantissas : size.mantissa = other.mantissa := by omega
  obtain ⟨_, _⟩ := size
  obtain ⟨_, _⟩ := other
  exact congrArg₂ Dyadic.mk mantissas exponents

end Apart

theorem covers_iff (size : Dyadic) (number : ℚ) :
    size.Covers number ↔
      if size.mantissa % 2 = 0 then size.lower ≤ number ∧ number ≤ size.upper
      else size.lower < number ∧ number < size.upper := by
  constructor
  · intro covers
    split
    · exact ⟨covers.above, covers.below⟩
    · exact covers.inside (by omega)
  · intro bounds
    split at bounds
    · rename_i even
      exact ⟨bounds.1, bounds.2, fun odd => absurd odd (by omega)⟩
    · exact ⟨bounds.1.le, bounds.2.le, fun _ => bounds⟩

section WholeNumbers

/-- A power with the part of its exponent below zero taken out. -/
theorem zpow_mul_pow_toNat {base : ℚ} (nonzero : base ≠ 0) (exponent : ℤ) :
    base ^ exponent * base ^ (-exponent).toNat = base ^ exponent.toNat := by
  rw [← zpow_natCast, ← zpow_natCast, ← zpow_add₀ nonzero]
  congr 1
  omega

variable (significand count : ℕ) (exponent place : ℤ)

/-- A decimal and a count of binary places are compared in whole numbers after both
are taken times this one, which clears their denominators. -/
def common : ℚ := 10 ^ (-exponent).toNat * 2 ^ (-place).toNat

theorem common_pos : 0 < common exponent place := by
  unfold common
  positivity

theorem decimal_mul_common :
    (significand * 10 ^ exponent : ℚ) * common exponent place =
      (significand * Nat.pow 10 exponent.toNat * Nat.pow 2 (-place).toNat : ℕ) := by
  rw [common, Nat.pow_eq, Nat.pow_eq]
  push_cast
  rw [← zpow_mul_pow_toNat (by norm_num) exponent]
  ring

theorem binary_mul_common :
    (count * 2 ^ place : ℚ) * common exponent place =
      (count * (Nat.pow 10 (-exponent).toNat * Nat.pow 2 place.toNat) : ℕ) := by
  rw [common, Nat.pow_eq, Nat.pow_eq]
  push_cast
  rw [← zpow_mul_pow_toNat two_ne_zero place]
  ring

theorem binary_le_decimal :
    (count * 2 ^ place : ℚ) ≤ significand * 10 ^ exponent ↔
      count * (Nat.pow 10 (-exponent).toNat * Nat.pow 2 place.toNat) ≤
        significand * Nat.pow 10 exponent.toNat * Nat.pow 2 (-place).toNat := by
  rw [← mul_le_mul_iff_of_pos_right (common_pos exponent place), binary_mul_common,
    decimal_mul_common, Nat.cast_le]

theorem decimal_le_binary :
    (significand * 10 ^ exponent : ℚ) ≤ count * 2 ^ place ↔
      significand * Nat.pow 10 exponent.toNat * Nat.pow 2 (-place).toNat ≤
        count * (Nat.pow 10 (-exponent).toNat * Nat.pow 2 place.toNat) := by
  rw [← mul_le_mul_iff_of_pos_right (common_pos exponent place), binary_mul_common,
    decimal_mul_common, Nat.cast_le]

end WholeNumbers

/-- The test in whole numbers is the test of whether the decimal is rounded to the
double. -/
theorem readsBack_iff {size : Dyadic} (positive : 0 < size.mantissa) (significand : ℕ)
    (exponent : ℤ) :
    size.readsBack significand exponent = true ↔ size.Covers (significand * 10 ^ exponent) := by
  have few : size.margins.1 ≤ 4 * size.mantissa := by
    rcases size.margins_eq with ⟨_, _, same⟩ | ⟨_, same⟩ <;> rw [same] <;> dsimp only <;> omega
  have lower_eq : size.lower =
      (4 * size.mantissa - size.margins.1 : ℕ) * 2 ^ (size.exponent - 2) := by
    rw [lower, Nat.cast_sub few]
    push_cast
    rfl
  have upper_eq : size.upper =
      (4 * size.mantissa + size.margins.2 : ℕ) * 2 ^ (size.exponent - 2) := by
    rw [upper]
    push_cast
    rfl
  rw [covers_iff, lower_eq, upper_eq, lt_iff_not_ge, lt_iff_not_ge, binary_le_decimal,
    decimal_le_binary, decimal_le_binary, binary_le_decimal, Nat.not_le, Nat.not_le]
  unfold readsBack
  dsimp only
  split <;> simp only [Bool.and_eq_true, decide_eq_true_eq]

end ProfileDrift.Dyadic
