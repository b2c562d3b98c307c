import ProfileDrift.Proofs.DoubleRatio

namespace ProfileDrift

open Float.Model Float.Model.UnpackedFloat

/-- A size that is not above a power of two needs no larger exponent than the power has. -/
theorem Dyadic.Canonical.exponent_le {size : Dyadic} (canonical : size.Canonical) {place : ℤ}
    (least : -1074 ≤ place) (within : size.value ≤ 2 ^ place) : size.exponent ≤ place := by
  rcases Nat.eq_zero_or_pos size.mantissa with none | some
  · have last := canonical.full.resolve_left (by omega)
    omega
  · have one : (1 : ℚ) ≤ size.mantissa := by exact_mod_cast some
    have unit : (2 : ℚ) ^ size.exponent ≤ 2 ^ place :=
      (le_mul_of_one_le_left (Dyadic.unit_pos _).le one).trans within
    exact (zpow_le_zpow_iff_right₀ (by norm_num)).mp unit

namespace Double

theorem toNat_implicit_single (fraction : BitVec 23) :
    (1#1 ++ fraction).toNat = 2 ^ 23 + fraction.toNat := by
  rw [BitVec.toNat_append, ← Nat.shiftLeft_add_eq_or_of_lt fraction.isLt]
  rfl

/-- What the fields of a single stand for: up to twenty-four bits, between the least place and
the greatest. -/
theorem range_of_unpack_single {bits : BitVec 32} {sign : Sign} {mantissa : ℕ} {exponent : ℤ}
    {positive : 0 < mantissa}
    (parts : UnpackedFloat.unpack Format.binary32 bits = .finite sign mantissa exponent positive) :
    mantissa < 2 ^ 24 ∧ -149 ≤ exponent ∧ exponent ≤ 104 := by
  have width : (@unpackMantissa Format.binary32 bits).toNat < 2 ^ 23 := BitVec.isLt _
  have range : (@unpackExponent Format.binary32 bits).toNat < 2 ^ 8 := BitVec.isLt _
  unfold UnpackedFloat.unpack at parts
  dsimp only at parts
  split at parts
  · split at parts <;> cases parts
  · rename_i regular
    have below : (@unpackExponent Format.binary32 bits).toNat ≠ 255 := fun all =>
      regular (BitVec.eq_of_toNat_eq all)
    split at parts
    · rename_i subnormal
      have least : (@unpackExponent Format.binary32 bits).toNat = 0 :=
        congrArg BitVec.toNat subnormal
      split at parts
      · cases parts
      · cases parts
        change _ < 2 ^ 24 ∧ -149 ≤ ((@unpackExponent Format.binary32 bits).toNat : ℤ) - 150 + 1 ∧
          ((@unpackExponent Format.binary32 bits).toNat : ℤ) - 150 + 1 ≤ 104
        omega
    · rename_i normal
      have nonzero : (@unpackExponent Format.binary32 bits).toNat ≠ 0 := fun none =>
        normal (BitVec.eq_of_toNat_eq none)
      cases parts
      have full := toNat_implicit_single (@unpackMantissa Format.binary32 bits)
      change (1#1 ++ @unpackMantissa Format.binary32 bits).toNat < 2 ^ 24 ∧
        -149 ≤ ((@unpackExponent Format.binary32 bits).toNat : ℤ) - 150 ∧
        ((@unpackExponent Format.binary32 bits).toNat : ℤ) - 150 ≤ 104
      rw [full]
      omega

/-- What a finite double can be that is no more than a single. -/
inductive Single : UnpackedFloat → Prop
  | zero (sign : Sign) : Single (.zero sign)
  | nonzero (sign : Sign) {size : Dyadic} : size.Canonical → 0 < size.mantissa →
      2 ^ (-149 : ℤ) ≤ size.value → size.value ≤ 2 ^ (128 : ℤ) → Single (size.signed sign)

theorem value_least : (⟨2 ^ 52, -201⟩ : Dyadic).value = 2 ^ (-149 : ℤ) := by
  norm_num [Dyadic.value]

theorem value_most : (⟨2 ^ 52, 76⟩ : Dyadic).value = 2 ^ (128 : ℤ) := by
  norm_num [Dyadic.value]

/-- A single that is taken for a double keeps to the range of singles. -/
theorem single_of_isFinite {single : Float32.Model} (finite : (ofSingle single).isFinite = true) :
    Single (ofSingle single).toModel.unpack := by
  change (UnpackedFloat.unpack Format.binary64 (UnpackedFloat.pack Format.binary64
    (rounded Format.binary64 single.unpack))).isFinite = true at finite
  change Single (UnpackedFloat.unpack Format.binary64 (UnpackedFloat.pack Format.binary64
    (rounded Format.binary64 single.unpack)))
  cases parts : single.unpack with
  | notANumber =>
    rw [parts] at finite
    exact absurd finite (by decide +kernel)
  | infinity sign =>
    rw [parts] at finite
    cases sign <;> exact absurd finite (by decide +kernel)
  | zero sign =>
    change Single (UnpackedFloat.unpack Format.binary64
      (UnpackedFloat.pack Format.binary64 (.zero sign)))
    rw [unpack_pack_zero]
    exact .zero sign
  | finite sign mantissa exponent positive =>
    obtain ⟨narrow, least, most⟩ := range_of_unpack_single parts
    have one : (1 : ℚ) ≤ mantissa := by exact_mod_cast positive
    have above : (2 : ℚ) ^ (-149 : ℤ) ≤ mantissa * 2 ^ exponent :=
      (zpow_le_zpow_right₀ (by norm_num) least).trans
        (le_mul_of_one_le_left (Dyadic.unit_pos _).le one)
    have below : (mantissa * 2 ^ exponent : ℚ) ≤ 2 ^ (128 : ℤ) := by
      have few : (mantissa : ℚ) ≤ 2 ^ (24 : ℤ) := by exact_mod_cast narrow.le
      have unit : (2 : ℚ) ^ exponent ≤ 2 ^ (104 : ℤ) := zpow_le_zpow_right₀ (by norm_num) most
      calc (mantissa * 2 ^ exponent : ℚ) ≤ 2 ^ (24 : ℤ) * 2 ^ (104 : ℤ) :=
            mul_le_mul few unit (Dyadic.unit_pos _).le (Dyadic.unit_pos _).le
        _ = 2 ^ (128 : ℤ) := by rw [← zpow_add₀ two_ne_zero]; rfl
    obtain ⟨size, canonical, covers, same⟩ := exists_round_covers sign exponent positive
    have least' := covers.le_value ⟨by norm_num, by norm_num, .inl le_rfl⟩ canonical
      (value_least ▸ above)
    have most' := covers.value_le ⟨by norm_num, by norm_num, .inl le_rfl⟩ canonical
      (value_most ▸ below)
    rw [value_least] at least'
    rw [value_most] at most'
    have positive' : 0 < size.mantissa := by
      refine Nat.pos_of_ne_zero fun none => ?_
      rw [Dyadic.value, none, Nat.cast_zero, zero_mul] at least'
      exact absurd least' (Dyadic.unit_pos _).not_ge
    rw [rounded, same, unpack_pack_signed canonical sign
      ((canonical.exponent_le (by norm_num) most').trans (by norm_num))]
    exact .nonzero sign canonical positive' least' most'

/-- The quotient of two singles does not leave the range of doubles. -/
theorem isFinite_div_single {value divisor : Float} (single : Single value.toModel.unpack)
    (single' : Single divisor.toModel.unpack) (nonzero : (divisor == 0.0) = false) :
    (value / divisor).isFinite = true := by
  change UnpackedFloat.beq divisor.toModel.unpack (.zero .positive) = false at nonzero
  change (UnpackedFloat.unpack Format.binary64 (UnpackedFloat.pack Format.binary64
    (UnpackedFloat.div Format.binary64 value.toModel.unpack divisor.toModel.unpack))).isFinite = true
  generalize value.toModel.unpack = value at single ⊢
  generalize divisor.toModel.unpack = divisor at single' nonzero ⊢
  cases single' with
  | zero => cases nonzero
  | @nonzero other size' canonical' positive' least' most' =>
    rw [signed_of_pos _ positive']
    cases single with
    | zero sign =>
      change (UnpackedFloat.unpack Format.binary64 (UnpackedFloat.pack Format.binary64
        (.zero (sign / other)))).isFinite = true
      rw [unpack_pack_zero]
      rfl
    | @nonzero sign size canonical positive least most =>
      rw [signed_of_pos _ positive]
      obtain ⟨quotient, kept, covers, same⟩ := exists_div_covers sign other positive positive'
        (show size.value / size'.value = _ from rfl)
      have some : 0 < size'.value := (Dyadic.unit_pos _).trans_le least'
      have within : size.value / size'.value ≤ 2 ^ (277 : ℤ) := by
        rw [div_le_iff₀ some]
        calc size.value ≤ 2 ^ (128 : ℤ) := most
          _ = 2 ^ (277 : ℤ) * 2 ^ (-149 : ℤ) := by rw [← zpow_add₀ two_ne_zero]; rfl
          _ ≤ 2 ^ (277 : ℤ) * size'.value :=
            mul_le_mul_of_nonneg_left least' (Dyadic.unit_pos _).le
      have largest : (⟨2 ^ 52, 225⟩ : Dyadic).value = 2 ^ (277 : ℤ) := by
        rw [Dyadic.value, Nat.cast_pow, ← zpow_natCast, Nat.cast_ofNat, ← zpow_add₀ two_ne_zero]
        rfl
      have bounded := covers.value_le ⟨by norm_num, by norm_num, .inl le_rfl⟩ kept
        (largest ▸ within)
      rw [largest] at bounded
      rw [same, unpack_pack_signed kept _
        ((kept.exponent_le (by norm_num) bounded).trans (by norm_num))]
      exact isFinite_signed _ _

end Double

end ProfileDrift
