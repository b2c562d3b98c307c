import Mathlib
import ProfileDrift.Decimal.Notation
import ProfileDrift.Proofs.RoundingInterval

namespace ProfileDrift

open Float.Model Float.Model.UnpackedFloat

/-- The size with a sign, as a number that has been unpacked. -/
def Dyadic.signed (sign : Sign) (size : Dyadic) : UnpackedFloat :=
  if zero : size.mantissa = 0 then .zero sign
  else .finite sign size.mantissa size.exponent (Nat.pos_of_ne_zero zero)

namespace Double

abbrev exponentOf (bits : BitVec 64) : BitVec 11 := @unpackExponent Format.binary64 bits

abbrev mantissaOf (bits : BitVec 64) : BitVec 52 := @unpackMantissa Format.binary64 bits

theorem toNat_implicit (mantissa : BitVec 52) :
    (1#1 ++ mantissa).toNat = 2 ^ 52 + mantissa.toNat := by
  rw [BitVec.toNat_append, ← Nat.shiftLeft_add_eq_or_of_lt mantissa.isLt]
  rfl

def signOf (value : Float) : Sign := if Decimal.isNegative value then .negative else .positive

theorem toNat_exponentOf (bits : BitVec 64) :
    (exponentOf bits).toNat = bits.toNat / 2 ^ 52 % 2 ^ 11 := by
  rw [exponentOf, unpackExponent, BitVec.toNat_cast, BitVec.extractLsb_toNat,
    Nat.shiftRight_eq_div_pow]
  rfl

theorem toNat_mantissaOf (bits : BitVec 64) : (mantissaOf bits).toNat = bits.toNat % 2 ^ 52 := by
  rw [mantissaOf, unpackMantissa, BitVec.toNat_cast, BitVec.extractLsb_toNat, Nat.shiftRight_zero]
  rfl

theorem ofBitVec_unpackSign (bits : BitVec 64) :
    Sign.ofBitVec (@unpackSign Format.binary64 bits) =
      if bits.toNat / 2 ^ 63 = 1 then .negative else .positive := by
  have top : (@unpackSign Format.binary64 bits).toNat = bits.toNat / 2 ^ 63 % 2 := by
    rw [unpackSign, BitVec.toNat_cast, BitVec.extractLsb_toNat, Nat.shiftRight_eq_div_pow]
    rfl
  have range := bits.isLt
  unfold Sign.ofBitVec
  by_cases negative : bits.toNat / 2 ^ 63 = 1
  · have one : @unpackSign Format.binary64 bits ≠ 0#1 := by
      intro zero
      rw [zero, negative] at top
      exact absurd top (by decide)
    rw [if_neg one, if_pos negative]
  · have zero : @unpackSign Format.binary64 bits = 0#1 := by
      refine BitVec.eq_of_toNat_eq ?_
      rw [top]
      change _ = 0
      omega
    rw [if_pos zero, if_neg negative]

theorem canonical_ofFloat (value : Float) : (Dyadic.ofFloat value).Canonical := by
  unfold Dyadic.ofFloat
  simp only [Nat.pow_eq, Int.subNatNat_eq_coe]
  split
  · exact ⟨by dsimp only; omega, by dsimp only; omega, .inr rfl⟩
  · exact ⟨by dsimp only; omega, by dsimp only; omega, .inl (by dsimp only; omega)⟩

/-- A double is known by what it is unpacked to. -/
theorem eq_of_unpack_eq {value other : Float}
    (same : value.toModel.unpack = other.toModel.unpack) : value = other :=
  Float.toBits_inj.mp (UInt64.toBitVec_inj.mp
    ((unpack_inj_of_valid value.toModel.valid other.toModel.valid).mp same))

/-- The size that the fields of a finite double stand for. -/
def sizeOf (exponent : BitVec 11) (mantissa : BitVec 52) : Dyadic :=
  if exponent = 0#11 then ⟨mantissa.toNat, -1074⟩
  else ⟨2 ^ 52 + mantissa.toNat, exponent.toNat - 1075⟩

theorem ofFloat_eq_sizeOf (value : Float) :
    Dyadic.ofFloat value = sizeOf (exponentOf value.toModel.toBits.toBitVec)
      (mantissaOf value.toModel.toBits.toBitVec) := by
  have fraction := toNat_mantissaOf value.toModel.toBits.toBitVec
  have biased := toNat_exponentOf value.toModel.toBits.toBitVec
  have zero : exponentOf value.toModel.toBits.toBitVec = 0#11 ↔
      (exponentOf value.toModel.toBits.toBitVec).toNat = 0 :=
    ⟨fun same => congrArg BitVec.toNat same, fun same => BitVec.eq_of_toNat_eq same⟩
  unfold sizeOf Dyadic.ofFloat
  simp only [zero, fraction, biased, Nat.pow_eq, Int.subNatNat_eq_coe]
  rfl

theorem signed_of_pos {size : Dyadic} (sign : Sign) (positive : 0 < size.mantissa) :
    size.signed sign = .finite sign size.mantissa size.exponent positive :=
  dif_neg positive.ne'

theorem eq_of_signed_eq_finite {size : Dyadic} {sign another : Sign} {mantissa : ℕ} {exponent : ℤ}
    {positive : 0 < mantissa}
    (same : size.signed sign = .finite another mantissa exponent positive) :
    size = ⟨mantissa, exponent⟩ := by
  unfold Dyadic.signed at same
  split at same <;> cases same
  rfl

theorem unpack_eq_signed {bits : BitVec 64} (regular : exponentOf bits ≠ -1#11) :
    UnpackedFloat.unpack Format.binary64 bits =
      (sizeOf (exponentOf bits) (mantissaOf bits)).signed
        (Sign.ofBitVec (@unpackSign Format.binary64 bits)) := by
  have bias : Format.binary64.exponentBias = 1023 := rfl
  unfold UnpackedFloat.unpack
  dsimp only
  rw [bias]
  change (if exponentOf bits = -1#11 then _ else if exponentOf bits = 0#11 then
    if none : mantissaOf bits = 0#52 then _ else _ else _) = _
  rw [if_neg regular]
  unfold sizeOf
  split
  · rename_i subnormal
    split
    · rename_i none
      rw [none]
      rfl
    · rename_i nonzero
      have positive : 0 < (mantissaOf bits).toNat :=
        Nat.pos_of_ne_zero fun nothing => nonzero (BitVec.eq_of_toNat_eq nothing)
      rw [signed_of_pos _ positive]
      congr 1
      change ((exponentOf bits).toNat : ℤ) - _ + 1 = -1074
      rw [subnormal]
      rfl
  · rw [signed_of_pos _ (by dsimp only; omega)]
    simp only [toNat_implicit]
    rfl

theorem regular_of_isFinite {value : Float} (finite : value.isFinite = true) :
    exponentOf value.toModel.toBits.toBitVec ≠ -1#11 := by
  intro infinite
  change (UnpackedFloat.unpack Format.binary64 _).isFinite = true at finite
  unfold UnpackedFloat.unpack at finite
  dsimp only at finite
  rw [if_pos infinite] at finite
  split at finite <;> cases finite

/-- What a finite double is unpacked to. -/
theorem unpack_eq {value : Float} (finite : value.isFinite = true) :
    value.toModel.unpack = (Dyadic.ofFloat value).signed (signOf value) := by
  have sign_eq : Sign.ofBitVec (@unpackSign Format.binary64 value.toModel.toBits.toBitVec) =
      signOf value := by
    rw [ofBitVec_unpackSign, signOf, Decimal.isNegative]
    simp only [Nat.pow_eq, beq_iff_eq]
    rfl
  rw [ofFloat_eq_sizeOf, ← sign_eq]
  exact unpack_eq_signed (regular_of_isFinite finite)

theorem exponent_le_of_isFinite {value : Float} (finite : value.isFinite = true) :
    (Dyadic.ofFloat value).exponent ≤ 971 := by
  have regular := regular_of_isFinite finite
  rw [ofFloat_eq_sizeOf]
  generalize exponentOf value.toModel.toBits.toBitVec = exponent at regular ⊢
  have range := exponent.isLt
  have notAllOnes : exponent.toNat ≠ 2047 := fun all => regular (BitVec.eq_of_toNat_eq all)
  unfold sizeOf
  split <;> dsimp only <;> omega

/-- A size that is not too large fills the fields of a finite double. -/
theorem pack_signed {size : Dyadic} (canonical : size.Canonical) (sign : Sign)
    (fits : size.exponent ≤ 971) :
    ∃ exponent mantissa, exponent ≠ -1#11 ∧ sizeOf exponent mantissa = size ∧
      UnpackedFloat.pack Format.binary64 (size.signed sign) =
        packComponents Format.binary64 sign exponent mantissa := by
  have bias : Format.binary64.exponentBias = 1023 := rfl
  have width : Format.binary64.mantissaBits = 53 := rfl
  obtain ⟨mantissa, exponent⟩ := size
  obtain ⟨narrow, least, full⟩ := canonical
  dsimp only at narrow least full fits
  by_cases zero : mantissa = 0
  · obtain rfl : exponent = -1074 := full.resolve_left (by omega)
    subst zero
    exact ⟨0#11, 0#52, by decide, rfl, rfl⟩
  have positive : 0 < mantissa := Nat.pos_of_ne_zero zero
  rw [signed_of_pos sign positive, UnpackedFloat.pack]
  dsimp only
  rw [bias, width, if_neg (by omega)]
  by_cases long : 2 ^ 52 ≤ mantissa
  · have biased : (exponent + (1023 : ℕ) + (52 : ℕ)).toNat < 2 ^ 11 := by omega
    have field := BitVec.toNat_ofNat (exponent + (1023 : ℕ) + (52 : ℕ)).toNat 11
    have rest := BitVec.toNat_ofNat mantissa 52
    rw [Nat.mod_eq_of_lt biased] at field
    have log : mantissa.log2 + 1 = 53 := by
      rw [(Nat.log2_eq_iff zero).mpr ⟨long, narrow⟩]
    rw [if_pos log]
    refine ⟨_, _, fun all => ?_, ?_, rfl⟩
    · have := congrArg BitVec.toNat all
      rw [field] at this
      change _ = 2047 at this
      omega
    · unfold sizeOf
      rw [if_neg fun none => ?_, field, rest]
      · congr 1 <;> omega
      · have := congrArg BitVec.toNat none
        rw [field] at this
        change _ = 0 at this
        omega
  · have log : mantissa.log2 + 1 ≠ 53 := by
      have := (Nat.log2_lt zero).mpr (Nat.not_le.mp long)
      omega
    rw [if_neg log]
    refine ⟨_, _, by decide, ?_, rfl⟩
    rw [sizeOf, if_pos rfl, BitVec.toNat_ofNat, Nat.mod_eq_of_lt (by omega)]
    exact congrArg (Dyadic.mk mantissa) (full.resolve_left long).symm

/-- Packing loses nothing of a size that is not too large. -/
theorem unpack_pack_signed {size : Dyadic} (canonical : size.Canonical) (sign : Sign)
    (fits : size.exponent ≤ 971) :
    UnpackedFloat.unpack Format.binary64 (UnpackedFloat.pack Format.binary64 (size.signed sign)) =
      size.signed sign := by
  obtain ⟨exponent, mantissa, regular, size_eq, packed⟩ := pack_signed canonical sign fits
  have exponent_eq :
      exponentOf (packComponents Format.binary64 sign exponent mantissa) = exponent :=
    unpackExponent_packComponents
  have mantissa_eq :
      mantissaOf (packComponents Format.binary64 sign exponent mantissa) = mantissa :=
    unpackMantissa_packComponents
  rw [packed, unpack_eq_signed (by rw [exponent_eq]; exact regular), exponent_eq, mantissa_eq,
    size_eq, unpackSign_packComponents, Sign.ofBitVec_toBitVec]

theorem isFinite_signed (size : Dyadic) (sign : Sign) : (size.signed sign).isFinite = true := by
  unfold Dyadic.signed
  split <;> rfl

theorem abs_signed (size : Dyadic) (sign : Sign) :
    (size.signed sign).abs = size.signed .positive := by
  unfold Dyadic.signed
  split <;> rfl

theorem neg_signed (size : Dyadic) (sign : Sign) :
    (size.signed sign).neg = size.signed (-sign) := by
  unfold Dyadic.signed
  split <;> rfl

theorem unpack_neg (value : Float) : (-value).toModel.unpack =
    UnpackedFloat.unpack Format.binary64 (UnpackedFloat.pack Format.binary64
      value.toModel.unpack.neg) := rfl

/-- The absolute value of a finite number forgets its sign and nothing else. -/
theorem unpack_pack_abs {value : Float} (finite : value.isFinite = true) :
    UnpackedFloat.unpack Format.binary64
        (UnpackedFloat.pack Format.binary64 value.toModel.unpack.abs) =
      value.toModel.unpack.abs := by
  rw [unpack_eq finite, abs_signed]
  exact unpack_pack_signed (canonical_ofFloat value) .positive (exponent_le_of_isFinite finite)

theorem isFinite_neg {value : Float} (finite : value.isFinite = true) :
    (-value).isFinite = true := by
  change (-value).toModel.unpack.isFinite = true
  rw [unpack_neg, unpack_eq finite, neg_signed,
    unpack_pack_signed (canonical_ofFloat value) _ (exponent_le_of_isFinite finite)]
  exact isFinite_signed ..

end Double

end ProfileDrift
