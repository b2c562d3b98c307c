import ProfileDrift.Proofs.DoubleShare

namespace ProfileDrift.Double

open Float.Model Float.Model.UnpackedFloat

/-- The same number, whatever the sign of a zero. -/
inductive Same : UnpackedFloat → UnpackedFloat → Prop
  | refl (value) : Same value value
  | zeros (sign another) : Same (.zero sign) (.zero another)

namespace Same

variable {value other third left right : UnpackedFloat}

theorem symm (same : Same value other) : Same other value := by
  cases same with
  | refl => exact .refl _
  | zeros sign another => exact .zeros another sign

theorem trans (same : Same value other) (same' : Same other third) : Same value third := by
  cases same with
  | refl => exact same'
  | zeros sign another =>
    cases same' with
    | refl => exact .zeros _ _
    | zeros _ last => exact .zeros _ _

theorem neg (same : Same value other) : Same value.neg other.neg := by
  cases same with
  | refl => exact .refl _
  | zeros => exact .zeros _ _

theorem isFinite (same : Same value other) : value.isFinite = other.isFinite := by
  cases same <;> rfl

theorem add (same : Same value other) (same' : Same left right) :
    Same (UnpackedFloat.add Format.binary64 value left)
      (UnpackedFloat.add Format.binary64 other right) := by
  cases same with
  | refl =>
    cases same' with
    | refl => exact .refl _
    | zeros sign another =>
      cases value with
      | zero third => cases sign <;> cases another <;> cases third <;> exact .zeros _ _
      | notANumber | infinity | finite => exact .refl _
  | zeros sign another =>
    cases same' with
    | refl =>
      cases left with
      | zero third => cases sign <;> cases another <;> cases third <;> exact .zeros _ _
      | notANumber | infinity | finite => exact .refl _
    | zeros third last =>
      cases sign <;> cases another <;> cases third <;> cases last <;> exact .zeros _ _

theorem mul (same : Same value other) (same' : Same left right) :
    Same (UnpackedFloat.mul Format.binary64 value left)
      (UnpackedFloat.mul Format.binary64 other right) := by
  cases same with
  | refl =>
    cases same' with
    | refl => exact .refl _
    | zeros sign another =>
      cases value with
      | zero | finite => exact .zeros _ _
      | notANumber | infinity => exact .refl _
  | zeros sign another =>
    cases same' with
    | refl =>
      cases left with
      | zero | finite => exact .zeros _ _
      | notANumber | infinity => exact .refl _
    | zeros => exact .zeros _ _

theorem div_left (same : Same value other) (divisor : UnpackedFloat) :
    Same (UnpackedFloat.div Format.binary64 value divisor)
      (UnpackedFloat.div Format.binary64 other divisor) := by
  cases same with
  | refl => exact .refl _
  | zeros sign another =>
    cases divisor with
    | infinity | finite => exact .zeros _ _
    | notANumber | zero => exact .refl _

theorem compare_left (same : Same value other) (third : UnpackedFloat) :
    UnpackedFloat.compare value third = UnpackedFloat.compare other third := by
  cases same with
  | refl => rfl
  | zeros sign another =>
    cases third with
    | infinity other | finite other => cases other <;> rfl
    | notANumber | zero => rfl

theorem compare_right (same : Same value other) (third : UnpackedFloat) :
    UnpackedFloat.compare third value = UnpackedFloat.compare third other := by
  rw [compare_swap value third, compare_swap other third, same.compare_left]

theorem unpack_pack (same : Same value other) :
    Same (UnpackedFloat.unpack Format.binary64 (UnpackedFloat.pack Format.binary64 value))
      (UnpackedFloat.unpack Format.binary64 (UnpackedFloat.pack Format.binary64 other)) := by
  cases same with
  | refl => exact .refl _
  | zeros sign another => cases sign <;> cases another <;> first | exact .refl _ | exact .zeros _ _

end Same

section Negation

variable (format : Format) (value left right : UnpackedFloat)

theorem neg_neg_sign (sign : Sign) : - -sign = sign := by cases sign <;> rfl

theorem apply_neg (sign : Sign) (number : ℤ) : (-sign).apply number = -sign.apply number := by
  cases sign with
  | positive => rfl
  | negative => exact (Int.neg_neg number).symm

theorem neg_neg : value.neg.neg = value := by
  cases value with
  | notANumber => rfl
  | infinity sign | zero sign | finite sign => simp only [UnpackedFloat.neg, neg_neg_sign]

theorem isFinite_neg_unpacked : value.neg.isFinite = value.isFinite := by cases value <;> rfl

theorem roundWithAccuracy_neg (sign : Sign) (mantissa : ℕ) (exponent : ℤ) (accuracy : Accuracy) :
    roundWithAccuracy format (-sign) mantissa exponent accuracy =
      (roundWithAccuracy format sign mantissa exponent accuracy).neg := by
  unfold roundWithAccuracy
  dsimp only
  split <;> rfl

theorem round_neg (sign : Sign) (mantissa : ℕ) (exponent : ℤ) :
    UnpackedFloat.round format (-sign) mantissa exponent =
      (UnpackedFloat.round format sign mantissa exponent).neg :=
  roundWithAccuracy_neg format sign _ _ .exact

theorem rounded_neg : rounded format value.neg = (rounded format value).neg := by
  cases value with
  | notANumber | infinity | zero => rfl
  | finite sign mantissa exponent => exact round_neg format sign mantissa exponent

theorem normalize_neg (mantissa exponent : ℤ) (zero another : Sign) :
    Same (UnpackedFloat.normalize format (-mantissa) exponent zero)
      (UnpackedFloat.normalize format mantissa exponent another).neg := by
  rcases lt_trichotomy mantissa 0 with below | none | above
  · have order : compare mantissa 0 = .lt := Int.compare_eq_lt.mpr below
    have swapped : compare (-mantissa) 0 = .gt := Int.compare_eq_gt.mpr (by omega)
    simp only [UnpackedFloat.normalize, order, swapped, ← round_neg]
    exact .refl _
  · subst none
    exact .zeros _ _
  · have order : compare mantissa 0 = .gt := Int.compare_eq_gt.mpr above
    have swapped : compare (-mantissa) 0 = .lt := Int.compare_eq_lt.mpr (by omega)
    simp only [UnpackedFloat.normalize, order, swapped, ← round_neg, Int.neg_neg]
    exact .refl _

/-- A difference is the sum with the negated number. -/
theorem sub_eq_add_neg_unpacked :
    UnpackedFloat.sub format left right = UnpackedFloat.add format left right.neg := by
  cases left with
  | notANumber => cases right <;> rfl
  | infinity sign =>
    cases right with
    | infinity other => cases sign <;> cases other <;> rfl
    | notANumber | zero | finite => rfl
  | zero sign =>
    cases right with
    | zero other => cases sign <;> cases other <;> rfl
    | notANumber | infinity | finite => rfl
  | finite sign =>
    cases right with
    | finite other =>
      simp only [UnpackedFloat.sub, UnpackedFloat.add, UnpackedFloat.neg, apply_neg,
        Int.sub_eq_add_neg]
    | notANumber | infinity | zero => rfl

theorem add_comm_unpacked :
    UnpackedFloat.add format left right = UnpackedFloat.add format right left := by
  cases left with
  | notANumber => cases right <;> rfl
  | infinity sign =>
    cases right with
    | infinity other => cases sign <;> cases other <;> rfl
    | notANumber | zero | finite => rfl
  | zero sign =>
    cases right with
    | zero other => cases sign <;> cases other <;> rfl
    | notANumber | infinity | finite => rfl
  | finite sign mantissa exponent =>
    cases right with
    | finite other another exponent' =>
      simp only [UnpackedFloat.add, min_comm exponent' exponent, decreaseExponent]
      rw [Int.add_comm]
    | notANumber | infinity | zero => rfl

theorem neg_add_unpacked : Same (UnpackedFloat.add format left.neg right.neg)
    (UnpackedFloat.add format left right).neg := by
  cases left with
  | notANumber => cases right <;> exact .refl _
  | infinity sign =>
    cases right with
    | infinity other => cases sign <;> cases other <;> exact .refl _
    | notANumber | zero | finite => exact .refl _
  | zero sign =>
    cases right with
    | zero other => cases sign <;> cases other <;> exact .zeros _ _
    | notANumber | infinity | finite => exact .refl _
  | finite sign mantissa exponent =>
    cases right with
    | finite other another exponent' =>
      simp only [UnpackedFloat.add, UnpackedFloat.neg, apply_neg, ← Int.neg_add]
      exact normalize_neg format _ _ .positive .positive
    | notANumber | infinity | zero => exact .refl _

/-- Taken the other way round, a difference changes its sign and nothing else. -/
theorem sub_swap_unpacked :
    Same (UnpackedFloat.sub format right left) (UnpackedFloat.sub format left right).neg := by
  have swapped := neg_add_unpacked format left right.neg
  rw [neg_neg, add_comm_unpacked] at swapped
  rw [sub_eq_add_neg_unpacked, sub_eq_add_neg_unpacked]
  exact swapped

theorem unpack_packComponents_neg (sign : Sign) (exponent : BitVec format.exponentBits)
    (mantissa : BitVec format.mantissaBitsWithoutImplicit) :
    UnpackedFloat.unpack format (packComponents format (-sign) exponent mantissa) =
      (UnpackedFloat.unpack format (packComponents format sign exponent mantissa)).neg := by
  unfold UnpackedFloat.unpack
  simp only [unpackExponent_packComponents, unpackMantissa_packComponents,
    unpackSign_packComponents, Sign.ofBitVec_toBitVec]
  split
  · split <;> rfl
  · split
    · split <;> rfl
    · rfl

/-- The sign of a number has a bit of its own. -/
theorem unpack_pack_neg (number : UnpackedFloat.unpack format (packedNaN format) = .notANumber) :
    UnpackedFloat.unpack format (UnpackedFloat.pack format value.neg) =
      (UnpackedFloat.unpack format (UnpackedFloat.pack format value)).neg := by
  cases value with
  | notANumber =>
    change UnpackedFloat.unpack format (packedNaN format) =
      (UnpackedFloat.unpack format (packedNaN format)).neg
    rw [number]
    rfl
  | infinity sign | zero sign => exact unpack_packComponents_neg format sign _ _
  | finite sign mantissa exponent =>
    unfold UnpackedFloat.pack UnpackedFloat.neg
    dsimp only
    split
    · exact unpack_packComponents_neg format sign _ _
    · split <;> exact unpack_packComponents_neg format sign _ _

end Negation

theorem unpack_pack_unpack (value : Float) : UnpackedFloat.unpack Format.binary64
    (UnpackedFloat.pack Format.binary64 value.toModel.unpack) = value.toModel.unpack :=
  congrArg (·.toModel.unpack) (Float.ofBits_toBits value)

theorem unpack_neg_eq (value : Float) : (-value).toModel.unpack = value.toModel.unpack.neg := by
  rw [unpack_neg, unpack_pack_neg _ _ rfl, unpack_pack_unpack]

/-- What is left of a number that is taken to single precision and back. -/
def singled (value : UnpackedFloat) : UnpackedFloat :=
  UnpackedFloat.unpack Format.binary64 (UnpackedFloat.pack Format.binary64
    (rounded Format.binary64 (UnpackedFloat.unpack Format.binary32
      (UnpackedFloat.pack Format.binary32 (rounded Format.binary32 value)))))

theorem unpack_toSingle (value : Float) :
    (Scalar.toSingle value).toModel.unpack = singled value.toModel.unpack := rfl

theorem singled_neg (value : UnpackedFloat) : singled value.neg = (singled value).neg := by
  unfold singled
  rw [rounded_neg, unpack_pack_neg _ _ rfl, rounded_neg, unpack_pack_neg _ _ rfl]

theorem Same.singled {value other : UnpackedFloat} (same : Same value other) :
    Same (singled value) (singled other) := by
  cases same with
  | refl => exact .refl _
  | zeros sign another => cases sign <;> cases another <;> first | exact .refl _ | exact .zeros _ _

/-- Two doubles that are the same number, whatever the sign of a zero. -/
def IsSame (value other : Float) : Prop := Same value.toModel.unpack other.toModel.unpack

namespace IsSame

variable {value other left right : Float}

theorem refl (value : Float) : IsSame value value := Same.refl _

theorem symm (same : IsSame value other) : IsSame other value := Same.symm same

theorem add (same : IsSame value other) (same' : IsSame left right) :
    IsSame (value + left) (other + right) := by
  unfold IsSame
  rw [unpack_add, unpack_add]
  exact (Same.add same same').unpack_pack

theorem sub (same : IsSame value other) (same' : IsSame left right) :
    IsSame (value - left) (other - right) := by
  unfold IsSame
  rw [unpack_sub, unpack_sub, sub_eq_add_neg_unpacked, sub_eq_add_neg_unpacked]
  exact (Same.add same (Same.neg same')).unpack_pack

theorem mul (same : IsSame value other) (same' : IsSame left right) :
    IsSame (value * left) (other * right) := by
  unfold IsSame
  rw [unpack_mul, unpack_mul]
  exact (Same.mul same same').unpack_pack

theorem div_left (same : IsSame value other) (divisor : Float) :
    IsSame (value / divisor) (other / divisor) :=
  (Same.div_left same divisor.toModel.unpack).unpack_pack

theorem isFinite (same : IsSame value other) : value.isFinite = other.isFinite :=
  Same.isFinite same

/-- Only the two zeros are the same number and not the same double. -/
theorem eq_or_zeros (same : IsSame value other) :
    value = other ∨ (value == 0.0) = true ∧ (other == 0.0) = true := by
  change _ ∨ UnpackedFloat.beq value.toModel.unpack (.zero .positive) = true ∧
    UnpackedFloat.beq other.toModel.unpack (.zero .positive) = true
  generalize parts : value.toModel.unpack = first
  generalize parts' : other.toModel.unpack = second
  have between : Same first second := parts ▸ parts' ▸ same
  cases between with
  | refl => exact .inl (eq_of_unpack_eq (parts.trans parts'.symm))
  | zeros => exact .inr ⟨rfl, rfl⟩

theorem lt_iff_lt (same : IsSame value other) (same' : IsSame left right) :
    value < left ↔ other < right := by
  rw [lt_iff, lt_iff, Same.compare_left same, Same.compare_right same']

theorem le_iff_le (same : IsSame value other) (same' : IsSame left right) :
    value ≤ left ↔ other ≤ right := by
  rw [le_iff, le_iff, Same.compare_left same, Same.compare_right same']

theorem beq (same : IsSame value other) (number : value.isNaN = false) :
    (value == other) = true := by
  have reflexive : (value == value) = true := (beq_iff_place number number).mpr rfl
  change UnpackedFloat.beq value.toModel.unpack value.toModel.unpack = true at reflexive
  change UnpackedFloat.beq value.toModel.unpack other.toModel.unpack = true
  rw [UnpackedFloat.beq, ← Same.compare_right same]
  exact reflexive

theorem clamp (same : IsSame value other) (low high : Float) :
    IsSame (Scalar.clamp low high value) (Scalar.clamp low high other) := by
  have raised : IsSame (if value < low then low else value) (if other < low then low else other) := by
    by_cases below : value < low
    · rw [if_pos below, if_pos ((same.lt_iff_lt (.refl low)).mp below)]
      exact .refl low
    · rw [if_neg below, if_neg (mt (same.lt_iff_lt (.refl low)).mpr below)]
      exact same
  unfold Scalar.clamp
  dsimp only
  by_cases above : high < if value < low then low else value
  · rw [if_pos above, if_pos (((IsSame.refl high).lt_iff_lt raised).mp above)]
    exact .refl high
  · rw [if_neg above, if_neg (mt ((IsSame.refl high).lt_iff_lt raised).mpr above)]
    exact raised

end IsSame

/-- Numbers in the same place are the same. -/
theorem isSame_of_place_eq {left right : Float} (number : left.isNaN = false)
    (another : right.isNaN = false) (same : place left = place right) : IsSame left right := by
  by_cases zero : (left == 0.0) = true
  · have zero' : (right == 0.0) = true := by
      rw [beq_iff_place another rfl, ← same]
      exact (beq_iff_place number rfl).mp zero
    change UnpackedFloat.beq left.toModel.unpack (.zero .positive) = true at zero
    change UnpackedFloat.beq right.toModel.unpack (.zero .positive) = true at zero'
    unfold IsSame
    generalize left.toModel.unpack = first at zero ⊢
    generalize right.toModel.unpack = second at zero' ⊢
    cases first with
    | zero sign =>
      cases second with
      | zero another => exact .zeros sign another
      | notANumber => cases zero'
      | infinity sign | finite sign => cases sign <;> cases zero'
    | notANumber => cases zero
    | infinity sign | finite sign => cases sign <;> cases zero
  · rw [eq_of_place_eq number another same (Bool.not_eq_true _ ▸ zero)]
    exact .refl right

/-- Two doubles of which one is what the other would be with the other sign. -/
def IsOpposite (value other : Float) : Prop :=
  Same other.toModel.unpack value.toModel.unpack.neg

namespace IsOpposite

variable {value other left right : Float}

theorem symm (opposite : IsOpposite value other) : IsOpposite other value := by
  have turned := Same.neg opposite
  rw [neg_neg] at turned
  exact turned.symm

theorem neg (value : Float) : IsOpposite value (-value) := by
  unfold IsOpposite
  rw [unpack_neg_eq]
  exact .refl _

theorem isFinite (opposite : IsOpposite value other) : other.isFinite = value.isFinite :=
  (Same.isFinite opposite).trans (isFinite_neg_unpacked _)

theorem add (opposite : IsOpposite value other) (opposite' : IsOpposite left right) :
    IsOpposite (value + left) (other + right) := by
  unfold IsOpposite
  rw [unpack_add, unpack_add, ← unpack_pack_neg _ _ rfl]
  exact ((Same.add opposite opposite').trans (neg_add_unpacked _ _ _)).unpack_pack

theorem sub (left right : Float) : IsOpposite (left - right) (right - left) := by
  unfold IsOpposite
  rw [unpack_sub, unpack_sub, ← unpack_pack_neg _ _ rfl]
  exact (sub_swap_unpacked _ _ _).unpack_pack

theorem of_same (opposite : IsOpposite value left) (same : IsSame left right) :
    IsOpposite value right := (Same.symm same).trans opposite

theorem lt_zero_iff (opposite : IsOpposite value other) : other < 0.0 ↔ 0.0 < value := by
  have turned (parts : UnpackedFloat) : UnpackedFloat.compare parts.neg (.zero .positive) =
      UnpackedFloat.compare (.zero .positive) parts := by
    cases parts with
    | notANumber | zero => rfl
    | infinity sign | finite sign => cases sign <;> rfl
  rw [lt_iff, lt_iff, Same.compare_left opposite]
  exact iff_of_eq (congrArg (· = some .lt) (turned _))

theorem zero_lt_iff (opposite : IsOpposite value other) : 0.0 < other ↔ value < 0.0 :=
  opposite.symm.lt_zero_iff.symm

theorem toSingle (opposite : IsOpposite value other) :
    IsOpposite (Scalar.toSingle value) (Scalar.toSingle other) := by
  unfold IsOpposite
  rw [unpack_toSingle, unpack_toSingle, ← singled_neg]
  exact Same.singled opposite

end IsOpposite

end ProfileDrift.Double
