import ProfileDrift.Proofs.DecimalReading
import ProfileDrift.Proofs.DoubleSquares

namespace ProfileDrift.Double

open Float.Model Float.Model.UnpackedFloat

variable {value other : Float} {number another : ℚ} {size size' sum : Dyadic}

theorem Holds.parts_eq (holds : Holds value number size) :
    value.toModel.unpack =
      .finite .positive size.mantissa size.exponent holds.mantissa_pos :=
  holds.parts.trans (signed_of_pos .positive holds.mantissa_pos)

theorem Holds.isFinite (holds : Holds value number size) : value.isFinite = true :=
  congrArg UnpackedFloat.isFinite holds.parts_eq

theorem Holds.canonical (holds : Holds value number size) : size.Canonical :=
  canonical_of_unpack_eq holds.parts_eq

theorem Holds.fits (holds : Holds value number size) : size.exponent ≤ 971 := by
  have within := exponent_le_of_isFinite holds.isFinite
  rwa [eq_of_signed_eq_finite ((unpack_eq holds.isFinite).symm.trans holds.parts_eq)] at within

theorem Holds.covers (holds : Holds value number size) : size.Covers number :=
  holds.exact ▸ Dyadic.covers_value size

/-- A number is rounded to a double that covers it, however its mantissa is written. -/
theorem exists_round_covers (sign : Sign) {mantissa : ℕ} (exponent : ℤ) (positive : 0 < mantissa) :
    ∃ rounded : Dyadic, rounded.Canonical ∧ rounded.Covers (mantissa * 2 ^ exponent) ∧
      UnpackedFloat.round Format.binary64 sign mantissa exponent = rounded.signed sign := by
  obtain ⟨places, lengthened, long, -⟩ := round_eq_lengthened sign exponent positive
  rw [lengthened]
  refine exists_roundWithAccuracy_covers sign ?_ long
  have shifted : (mantissa * 2 ^ exponent / 2 ^ (exponent - places) : ℚ) =
      (mantissa * 2 ^ places : ℕ) := by
    rw [div_eq_iff (Dyadic.unit_pos _).ne', zpow_sub₀ two_ne_zero, zpow_natCast]
    push_cast
    field_simp
  rw [shifted]
  exact locates_exact _

theorem round_eq (canonical : size.Canonical) (sign : Sign) {mantissa : ℕ} {exponent : ℤ}
    (positive : 0 < mantissa) (covers : size.Covers (mantissa * 2 ^ exponent)) :
    UnpackedFloat.round Format.binary64 sign mantissa exponent = size.signed sign := by
  obtain ⟨rounded, kept, again, same⟩ := exists_round_covers sign exponent positive
  rw [same, again.unique kept canonical covers]

theorem shiftLeft_mul_zpow (mantissa : ℕ) {exponent least : ℤ} (within : least ≤ exponent) :
    ((mantissa <<< (exponent - least).toNat : ℕ) : ℚ) * 2 ^ least = mantissa * 2 ^ exponent := by
  obtain ⟨places, rfl⟩ : ∃ places : ℕ, exponent = least + places :=
    ⟨(exponent - least).toNat, by omega⟩
  rw [add_sub_cancel_left, Int.toNat_natCast, Nat.shiftLeft_eq, zpow_add₀ two_ne_zero,
    zpow_natCast]
  push_cast
  ring

/-- A sum is rounded once, to the double that covers it. -/
theorem unpack_add_of_holds (holds : Holds value number size) (holds' : Holds other another size')
    (canonical : sum.Canonical) (fits : sum.exponent ≤ 971)
    (covers : sum.Covers (number + another)) :
    (value + other).toModel.unpack = sum.signed .positive := by
  obtain ⟨least, least_eq⟩ : ∃ least, least = min size.exponent size'.exponent := ⟨_, rfl⟩
  obtain ⟨mantissa, mantissa_eq⟩ : ∃ mantissa, mantissa =
      size.mantissa <<< (size.exponent - least).toNat +
        size'.mantissa <<< (size'.exponent - least).toNat := ⟨_, rfl⟩
  have positive : 0 < mantissa := by
    rw [mantissa_eq, Nat.shiftLeft_eq]
    exact Nat.add_pos_left (Nat.mul_pos holds.mantissa_pos (Nat.two_pow_pos _)) _
  have exact : number + another = mantissa * 2 ^ least := by
    rw [mantissa_eq, Nat.cast_add, add_mul, shiftLeft_mul_zpow _ (by omega),
      shiftLeft_mul_zpow _ (by omega), holds.exact, holds'.exact]
  have added : UnpackedFloat.add Format.binary64 value.toModel.unpack other.toModel.unpack =
      sum.signed .positive := by
    rw [holds.parts_eq, holds'.parts_eq, ← round_eq canonical .positive positive (exact ▸ covers),
      ← normalize_of_pos positive _ .positive, mantissa_eq, least_eq, Nat.cast_add]
    rfl
  rw [unpack_add, added]
  exact unpack_pack_signed canonical .positive fits

section Whole

variable {count many : ℕ}

/-- Whole numbers of up to fifty-three bits are held exactly. -/
theorem holds_ofNat (positive : 0 < count) (narrow : count < 2 ^ 53) :
    ∃ size, Holds (Float.ofNat count) count size := by
  obtain ⟨size, holds⟩ := holds_toFloat positive narrow
  refine ⟨size, holds.full, holds.exact, ?_⟩
  have scale : (0 : ℤ) = if false then -((0 : ℕ) : ℤ) else (0 : ℕ) := rfl
  have covers : size.Covers (count * 10 ^ (0 : ℤ)) := by
    rw [zpow_zero, mul_one]
    exact holds.covers
  exact unpack_ofScientific scale positive (by omega) (by omega) holds.canonical holds.fits covers

theorem Holds.unpack_pack (holds : Holds value number size) :
    UnpackedFloat.unpack Format.binary64
      (UnpackedFloat.pack Format.binary64 value.toModel.unpack) = value.toModel.unpack := by
  rw [holds.parts]
  exact unpack_pack_signed holds.canonical .positive holds.fits

theorem Holds.zero_add (holds : Holds value number size) : 0.0 + value = value := by
  refine eq_of_unpack_eq ((unpack_add 0.0 value).trans ?_)
  have same : UnpackedFloat.add Format.binary64 (.zero .positive) value.toModel.unpack =
      value.toModel.unpack := by
    rw [holds.parts_eq]
    rfl
  change UnpackedFloat.unpack Format.binary64 (UnpackedFloat.pack Format.binary64
    (UnpackedFloat.add Format.binary64 (.zero .positive) value.toModel.unpack)) = _
  rw [same, holds.unpack_pack]

theorem Holds.add_zero (holds : Holds value number size) : value + 0.0 = value := by
  refine eq_of_unpack_eq ((unpack_add value 0.0).trans ?_)
  have same : UnpackedFloat.add Format.binary64 value.toModel.unpack (.zero .positive) =
      value.toModel.unpack := by
    rw [holds.parts_eq]
    rfl
  change UnpackedFloat.unpack Format.binary64 (UnpackedFloat.pack Format.binary64
    (UnpackedFloat.add Format.binary64 value.toModel.unpack (.zero .positive))) = _
  rw [same, holds.unpack_pack]

theorem ofNat_zero : Float.ofNat 0 = 0.0 := by decide +kernel

/-- Whole numbers are added exactly while the sum has no more than fifty-three bits. -/
theorem ofNat_add (narrow : count + many < 2 ^ 53) :
    Float.ofNat count + Float.ofNat many = Float.ofNat (count + many) := by
  rcases Nat.eq_zero_or_pos count with rfl | positive
  · rw [ofNat_zero, Nat.zero_add]
    rcases Nat.eq_zero_or_pos many with rfl | positive'
    · decide +kernel
    · obtain ⟨_, holds⟩ := holds_ofNat positive' (by omega)
      exact holds.zero_add
  · obtain ⟨_, holds⟩ := holds_ofNat positive (by omega)
    rcases Nat.eq_zero_or_pos many with rfl | positive'
    · rw [ofNat_zero, Nat.add_zero]
      exact holds.add_zero
    · obtain ⟨_, holds'⟩ := holds_ofNat positive' (by omega)
      obtain ⟨_, sum⟩ := holds_ofNat (Nat.add_pos_left positive many) narrow
      have exact : (count + many : ℚ) = (count + many : ℕ) := (Nat.cast_add count many).symm
      refine eq_of_unpack_eq (Eq.trans ?_ sum.parts.symm)
      exact unpack_add_of_holds holds holds' sum.canonical sum.fits (exact ▸ sum.covers)

theorem Holds.zero_div (holds : Holds value number size) : 0.0 / value = 0.0 := by
  refine eq_zero_iff.mpr ?_
  change UnpackedFloat.unpack Format.binary64 (UnpackedFloat.pack Format.binary64
    (UnpackedFloat.div Format.binary64 (.zero .positive) value.toModel.unpack)) = _
  rw [holds.parts_eq, UnpackedFloat.div]
  rfl

/-- A multiple of no more than fifty-three bits is divided exactly. -/
theorem ofNat_mul_div (positive : 0 < many) (few : many < 2 ^ 53)
    (narrow : many * count < 2 ^ 53) :
    Float.ofNat (many * count) / Float.ofNat many = Float.ofNat count := by
  obtain ⟨_, divisor⟩ := holds_ofNat positive few
  rcases Nat.eq_zero_or_pos count with rfl | some
  · rw [Nat.mul_zero, ofNat_zero]
    exact divisor.zero_div
  · obtain ⟨_, quotient⟩ := holds_ofNat some
      (lt_of_le_of_lt (Nat.le_mul_of_pos_left count positive) narrow)
    obtain ⟨_, dividend⟩ := holds_ofNat (Nat.mul_pos positive some) narrow
    have exact : (count : ℚ) = (many * count : ℕ) / many := by
      rw [Nat.cast_mul, mul_div_cancel_left₀]
      exact_mod_cast positive.ne'
    refine eq_of_unpack_eq (Eq.trans ?_ quotient.parts.symm)
    exact unpack_div_of_holds dividend divisor quotient.canonical quotient.fits
      (exact ▸ quotient.covers)

theorem foldl_ofNat (values : List Float) (same : ∀ value ∈ values, value = Float.ofNat count)
    {start : ℕ} (narrow : start + values.length * count < 2 ^ 53) :
    values.foldl (· + ·) (Float.ofNat start) = Float.ofNat (start + values.length * count) := by
  induction values generalizing start with
  | nil => simp
  | cons first rest ih =>
    rw [List.length_cons, Nat.succ_mul] at narrow ⊢
    rw [List.foldl_cons, same first List.mem_cons_self, ofNat_add (by omega),
      ih (fun value member => same value (List.mem_cons_of_mem first member)) (by omega)]
    congr 1
    omega

/-- The mean of equal whole numbers is exact while their sum has no more than fifty-three
bits. -/
theorem mean_ofNat {values : List Float} (some : values ≠ [])
    (same : ∀ value ∈ values, value = Float.ofNat count) (few : values.length < 2 ^ 53)
    (narrow : values.length * count < 2 ^ 53) : Scalar.mean values = Float.ofNat count := by
  have sum : Scalar.sum values = Float.ofNat (values.length * count) := by
    rw [Scalar.sum, ← ofNat_zero, foldl_ofNat values same (by omega), Nat.zero_add]
  change Scalar.sum values / Float.ofNat values.length = _
  rw [sum]
  exact ofNat_mul_div (List.length_pos_of_ne_nil some) few narrow

end Whole

end ProfileDrift.Double
