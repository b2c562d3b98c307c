import Mathlib.Tactic.FieldSimp
import ProfileDrift.Proofs.RoundingInterval

namespace ProfileDrift

namespace Decimal

theorem pow_length_digits_le {number : ℕ} (positive : 0 < number) :
    10 ^ ((digits number).length - 1) ≤ number := by
  by_contra few
  have nonempty : 0 < (digits number).length := Nat.length_toDigits_pos
  by_cases single : (digits number).length = 1
  · rw [single] at few
    omega
  · have shorter : (digits number).length ≤ (digits number).length - 1 :=
      (Nat.length_toDigits_le_iff (by decide) (by omega)).mpr (by omega)
    omega

theorem lt_pow_length_digits (number : ℕ) : number < 10 ^ (digits number).length :=
  (Nat.length_toDigits_le_iff (by decide) Nat.length_toDigits_pos).mp (Nat.le_refl _)

variable {numerator denominator : ℕ}

/-- A fraction reaches the power of ten of its leading digit. -/
theorem pow_leadingExponent_le (top : 0 < numerator) (bottom : 0 < denominator) :
    (10 : ℚ) ^ leadingExponent numerator denominator ≤ numerator / denominator := by
  have above : (0 : ℚ) < numerator := by exact_mod_cast top
  have under : (0 : ℚ) < denominator := by exact_mod_cast bottom
  unfold leadingExponent
  split
  · rename_i large
    have quotient : 0 < numerator / denominator := Nat.div_pos large bottom
    have nonempty : 0 < (digits (numerator / denominator)).length := Nat.length_toDigits_pos
    have place : ((digits (numerator / denominator)).length : ℤ) - 1 =
        ((digits (numerator / denominator)).length - 1 : ℕ) := by omega
    rw [place, zpow_natCast, le_div_iff₀ under]
    have whole : 10 ^ ((digits (numerator / denominator)).length - 1) * denominator ≤ numerator :=
      (Nat.mul_le_mul_right _ (pow_length_digits_le quotient)).trans (Nat.div_mul_le_self ..)
    exact_mod_cast whole
  · -- The inverse, rounded up, is one more than a number of so many digits.
    generalize inverse : (denominator + numerator - 1) / numerator - 1 = count
    have bound : denominator ≤ (count + 1) * numerator := by
      have rounded := Nat.lt_mul_div_succ (denominator + numerator - 1) top
      have raised : (denominator + numerator - 1) / numerator ≤ count + 1 := by omega
      have scaled := Nat.mul_le_mul_left numerator raised
      rw [Nat.mul_succ] at rounded
      rw [Nat.mul_comm]
      omega
    have enough : denominator ≤ 10 ^ (digits count).length * numerator :=
      bound.trans (Nat.mul_le_mul_right _ (lt_pow_length_digits count))
    rw [zpow_neg, zpow_natCast, inv_le_comm₀ (by positivity) (div_pos above under), inv_div,
      div_le_iff₀ above]
    exact_mod_cast enough

/-- The nearest whole number is off by half of one at most. -/
theorem abs_roundDiv_sub_le (bottom : 0 < denominator) :
    |(roundDiv numerator denominator : ℚ) - numerator / denominator| ≤ 1 / 2 := by
  have under : (0 : ℚ) < denominator := by exact_mod_cast bottom
  have split := Nat.div_add_mod numerator denominator
  have bounds : 2 * numerator ≤ (2 * roundDiv numerator denominator + 1) * denominator ∧
      2 * roundDiv numerator denominator * denominator ≤ 2 * numerator + denominator := by
    have less := Nat.mod_lt numerator bottom
    unfold roundDiv
    dsimp only
    generalize numerator / denominator = quotient at split ⊢
    generalize numerator % denominator = rest at split less ⊢
    split_ifs <;> constructor <;> nlinarith
  have lowerBound :
      (2 * numerator : ℚ) ≤ (2 * roundDiv numerator denominator + 1) * denominator := by
    exact_mod_cast bounds.1
  have upperBound : (2 * roundDiv numerator denominator * denominator : ℚ) ≤
      2 * numerator + denominator := by
    exact_mod_cast bounds.2
  have exact : (numerator / denominator : ℚ) * denominator = numerator := by field_simp
  rw [abs_le]
  constructor
  · by_contra below
    nlinarith
  · by_contra above
    nlinarith

theorem inUnits_div (exponent : ℤ) :
    ((inUnits numerator denominator exponent).1 : ℚ) / (inUnits numerator denominator exponent).2 =
      numerator / denominator / 10 ^ exponent := by
  have power := Dyadic.zpow_mul_pow_toNat (by norm_num : (10 : ℚ) ≠ 0) exponent
  rw [inUnits, Nat.pow_eq, Nat.pow_eq]
  push_cast
  rw [← power]
  field_simp

end Decimal

namespace Dyadic

open Decimal

variable {size : Dyadic}

theorem numerator_div_denominator (size : Dyadic) :
    (size.numerator : ℚ) / size.denominator = size.value := by
  have power := zpow_mul_pow_toNat (two_ne_zero (α := ℚ)) size.exponent
  rw [numerator, denominator, value, Nat.pow_eq, Nat.pow_eq]
  push_cast
  rw [← power]
  field_simp

theorem numerator_pos (positive : 0 < size.mantissa) : 0 < size.numerator := by
  rw [numerator, Nat.pow_eq]
  positivity

theorem denominator_pos (size : Dyadic) : 0 < size.denominator := by
  rw [denominator, Nat.pow_eq]
  positivity

def leading (size : Dyadic) : ℤ := leadingExponent size.numerator size.denominator

theorem pow_leading_le (positive : 0 < size.mantissa) : (10 : ℚ) ^ size.leading ≤ size.value := by
  rw [← numerator_div_denominator]
  exact pow_leadingExponent_le (numerator_pos positive) size.denominator_pos

/-- Half a step of the grid of seventeen digits is less than the way to a neighbour. -/
theorem covers_of_near (canonical : size.Canonical) (positive : 0 < size.mantissa) {number : ℚ}
    (near : |number - size.value| ≤ 1 / 2 * 10 ^ (size.leading - 16)) : size.Covers number := by
  have step : (10 : ℚ) ^ (size.leading - 16) * 10 ^ 16 ≤ size.value := by
    have whole : (10 : ℚ) ^ (size.leading - 16) * 10 ^ 16 = 10 ^ size.leading := by
      rw [← zpow_natCast, ← zpow_add₀ (by norm_num)]
      congr 1
      omega
    rw [whole]
    exact pow_leading_le positive
  have unit := unit_pos size.exponent
  have narrow : (size.mantissa : ℚ) ≤ 2 ^ 53 - 1 := by
    have := canonical.narrow
    have whole : size.mantissa + 1 ≤ 2 ^ 53 := by omega
    have cast : (size.mantissa + 1 : ℚ) ≤ 2 ^ 53 := by exact_mod_cast whole
    linarith
  obtain ⟨low, high⟩ := abs_le.mp near
  rw [value] at step low high
  have below : size.lower < number := by
    rw [lower_eq]
    rcases size.margins_eq with ⟨power, _, same⟩ | ⟨_, same⟩
    · rw [same]
      rw [power] at step low ⊢
      push_cast at step low ⊢
      nlinarith
    · rw [same]
      push_cast
      nlinarith
  have above : number < size.upper := by
    rw [upper_eq]
    nlinarith
  exact ⟨below.le, above.le, fun _ => ⟨below, above⟩⟩

theorem covers_of_nearestOnGrid? (positive : 0 < size.mantissa) {exponent : ℤ} {significand : ℕ}
    (found : size.nearestOnGrid? exponent = some significand) :
    size.Covers (significand * 10 ^ exponent) := by
  obtain ⟨nearest, other, tried⟩ : ∃ nearest other, size.nearestOnGrid? exponent =
      if size.readsBack nearest exponent then some nearest
      else if size.readsBack other exponent then some other else none := ⟨_, _, rfl⟩
  rw [tried] at found
  split at found
  · rename_i reads
    cases found
    exact (readsBack_iff positive _ _).mp reads
  · split at found
    · rename_i reads
      cases found
      exact (readsBack_iff positive _ _).mp reads
    · cases found

/-- There is a decimal of seventeen digits for every double. -/
theorem isSome_nearestOnGrid? (canonical : size.Canonical) (positive : 0 < size.mantissa) :
    (size.nearestOnGrid? (size.leading - 16)).isSome := by
  obtain ⟨units, place⟩ : ∃ units,
      units = inUnits size.numerator size.denominator (size.leading - 16) := ⟨_, rfl⟩
  have ratio : (units.1 : ℚ) / units.2 = size.value / 10 ^ (size.leading - 16) := by
    rw [place, inUnits_div, numerator_div_denominator]
  have bottom : 0 < units.2 := by
    have := size.denominator_pos
    rw [place, inUnits, Nat.pow_eq, Nat.pow_eq]
    positivity
  have step : (0 : ℚ) < 10 ^ (size.leading - 16) := zpow_pos (by norm_num) _
  have near : |(roundDiv units.1 units.2 : ℚ) * 10 ^ (size.leading - 16) - size.value| ≤
      1 / 2 * 10 ^ (size.leading - 16) := by
    have half : |(roundDiv units.1 units.2 : ℚ) - units.1 / units.2| ≤ 1 / 2 :=
      abs_roundDiv_sub_le bottom
    have off := mul_le_mul_of_nonneg_right half step.le
    rw [ratio, ← abs_of_pos step, ← abs_mul, abs_of_pos step, sub_mul,
      div_mul_cancel₀ _ step.ne'] at off
    exact off
  have reads : size.readsBack (roundDiv units.1 units.2) (size.leading - 16) = true :=
    (readsBack_iff positive _ _).mpr (covers_of_near canonical positive near)
  unfold nearestOnGrid?
  rw [← place]
  dsimp only
  rw [if_pos reads]
  rfl

theorem covers_shortestFrom (canonical : size.Canonical) (positive : 0 < size.mantissa)
    (tries count : ℕ) (bound : tries + count = 16) :
    size.Covers ((size.shortestFrom size.leading tries count).significand *
      10 ^ (size.shortestFrom size.leading tries count).exponent) := by
  induction tries generalizing count with
  | zero =>
    obtain rfl : count = 16 := by omega
    obtain ⟨significand, found⟩ :=
      Option.isSome_iff_exists.mp (isSome_nearestOnGrid? canonical positive)
    have covers := covers_of_nearestOnGrid? positive found
    rw [shortestFrom]
    dsimp only
    rw [Nat.cast_ofNat, found, Option.getD_some]
    exact covers
  | succ tries ih =>
    rw [shortestFrom]
    split
    · rename_i significand found
      exact covers_of_nearestOnGrid? positive found
    · exact ih (count + 1) (by omega)

/-- The shortest decimal of a double is rounded to it. -/
theorem covers_shortest (canonical : size.Canonical) (positive : 0 < size.mantissa) :
    size.Covers (size.shortest.significand * 10 ^ size.shortest.exponent) := by
  have covers := covers_shortestFrom canonical positive 16 0 rfl
  have found_eq : size.shortest =
      if (size.shortestFrom size.leading 16 0).significand = 10 then
        ⟨1, (size.shortestFrom size.leading 16 0).exponent + 1⟩
      else size.shortestFrom size.leading 16 0 := rfl
  rw [found_eq]
  split
  · rename_i ten
    have carried : ((1 : ℕ) : ℚ) * 10 ^ ((size.shortestFrom size.leading 16 0).exponent + 1) =
        (size.shortestFrom size.leading 16 0).significand *
          10 ^ (size.shortestFrom size.leading 16 0).exponent := by
      rw [ten, zpow_add_one₀ (by norm_num)]
      push_cast
      ring
    dsimp only
    rw [carried]
    exact covers
  · exact covers

theorem shortest_significand_pos (canonical : size.Canonical) (positive : 0 < size.mantissa) :
    0 < size.shortest.significand := by
  have number := (covers_shortest canonical positive).pos positive
  rcases Nat.eq_zero_or_pos size.shortest.significand with zero | some
  · rw [zero] at number
    simp at number
  · exact some

end Dyadic

end ProfileDrift
