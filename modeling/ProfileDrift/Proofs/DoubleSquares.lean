import ProfileDrift.Proofs.DoubleRounding

namespace ProfileDrift.Double

open Float.Model Float.Model.UnpackedFloat

theorem carried_pos {mantissa : ℕ} (exponent : ℤ) (positive : 0 < mantissa) :
    0 < (carried mantissa exponent).mantissa := by
  unfold carried
  split
  · exact positive
  · exact Nat.two_pow_pos 52

/-- What is rounded is a size that a double can have, and not zero unless it was below the
least place. -/
theorem exists_roundWithAccuracy (sign : Sign) {mantissa : ℕ} {exponent : ℤ}
    (accuracy : Accuracy) (long : 52 ≤ mantissa.log2 ∨ exponent ≤ -1074) :
    ∃ size : Dyadic, size.Canonical ∧
      (0 < mantissa → -1074 ≤ exponent → 0 < size.mantissa) ∧
      roundWithAccuracy Format.binary64 sign mantissa exponent accuracy = size.signed sign := by
  obtain ⟨places, shift⟩ : ∃ places,
      places = (max (mantissa.log2 + exponent - 52) (-1074) - exponent).toNat := ⟨_, rfl⟩
  have grown :=
    le_roundedMantissa (ExtendedMantissa.ofMantissaAndAccuracy mantissa accuracy >>> places)
  rw [mantissa_shiftRight, mantissa_ofMantissaAndAccuracy] at grown
  obtain ⟨-, least, full⟩ := mantissa_first_shift shift long
  refine ⟨_, canonical_carried least (full.imp_left fun wide => wide.trans grown), ?_,
    roundWithAccuracy_carried sign accuracy shift long⟩
  intro positive above
  refine carried_pos _ (lt_of_lt_of_le ?_ grown)
  rcases full with wide | lowest
  · exact (Nat.two_pow_pos 52).trans_le wide
  · -- The least place is reached only where nothing is shifted out.
    obtain rfl : places = 0 := by omega
    rwa [pow_zero, Nat.div_one]

/-- A mantissa is lengthened before it is rounded, until it has all of its bits or stands at
the least place. -/
theorem round_eq_lengthened (sign : Sign) {mantissa : ℕ} (exponent : ℤ) (positive : 0 < mantissa) :
    ∃ places : ℕ,
      UnpackedFloat.round Format.binary64 sign mantissa exponent =
        roundWithAccuracy Format.binary64 sign (mantissa * 2 ^ places) (exponent - places) .exact ∧
      (52 ≤ (mantissa * 2 ^ places).log2 ∨ exponent - places ≤ -1074) ∧
      (-1074 ≤ exponent → -1074 ≤ exponent - places) := by
  obtain ⟨places, shift⟩ : ∃ places,
      places = (exponent - max (mantissa.log2 + exponent - 52) (-1074)).toNat := ⟨_, rfl⟩
  have log : mantissa.log2 + places ≤ (mantissa * 2 ^ places).log2 := by
    rw [Nat.le_log2 (Nat.mul_pos positive (Nat.two_pow_pos places)).ne', pow_add]
    exact Nat.mul_le_mul_right _ (Nat.log2_self_le positive.ne')
  refine ⟨places, ?_, by omega, by omega⟩
  rw [UnpackedFloat.round, targetExponent_eq, decreaseExponent, ← shift, Nat.shiftLeft_eq]

theorem exists_round (sign : Sign) {mantissa : ℕ} {exponent : ℤ} (positive : 0 < mantissa)
    (least : -1074 ≤ exponent) :
    ∃ size : Dyadic, size.Canonical ∧ 0 < size.mantissa ∧
      UnpackedFloat.round Format.binary64 sign mantissa exponent = size.signed sign := by
  obtain ⟨places, lengthened, long, within⟩ := round_eq_lengthened sign exponent positive
  obtain ⟨size, canonical, nonzero, rounded⟩ := exists_roundWithAccuracy sign .exact long
  have scaled : 0 < mantissa * 2 ^ places := Nat.mul_pos positive (Nat.two_pow_pos places)
  exact ⟨size, canonical, nonzero scaled (within least), lengthened.trans rounded⟩

/-- Packing either keeps a size or makes it infinite. -/
theorem unpack_pack_canonical {size : Dyadic} (canonical : size.Canonical) (sign : Sign) :
    UnpackedFloat.unpack Format.binary64 (UnpackedFloat.pack Format.binary64 (size.signed sign)) =
        size.signed sign ∨
      UnpackedFloat.unpack Format.binary64
        (UnpackedFloat.pack Format.binary64 (size.signed sign)) = .infinity sign := by
  by_cases fits : size.exponent ≤ 971
  · exact .inl (unpack_pack_signed canonical sign fits)
  · have bias : Format.binary64.exponentBias = 1023 := rfl
    have wide : 2 ^ 52 ≤ size.mantissa := canonical.full.resolve_right (by omega)
    refine .inr ?_
    rw [signed_of_pos sign (by omega), UnpackedFloat.pack]
    dsimp only
    rw [bias, if_pos (by omega)]
    cases sign <;> rfl

theorem normalize_of_pos {mantissa : ℕ} (positive : 0 < mantissa) (exponent : ℤ) (zero : Sign) :
    UnpackedFloat.normalize Format.binary64 mantissa exponent zero =
      UnpackedFloat.round Format.binary64 .positive mantissa exponent := by
  have order : compare (mantissa : ℤ) 0 = .gt :=
    compare_gt_iff_gt.mpr (by exact_mod_cast positive)
  rw [UnpackedFloat.normalize, order]
  rfl

theorem canonical_of_unpack_eq {value : Float} {sign : Sign} {mantissa : ℕ} {exponent : ℤ}
    {positive : 0 < mantissa}
    (parts : value.toModel.unpack = .finite sign mantissa exponent positive) :
    (Dyadic.mk mantissa exponent).Canonical := by
  have finite : value.isFinite = true := congrArg UnpackedFloat.isFinite parts
  rw [← eq_of_signed_eq_finite ((unpack_eq finite).symm.trans parts)]
  exact canonical_ofFloat value

/-- What a sum of squares can come to: zero, more than zero, or no number at all. -/
inductive Accrued : UnpackedFloat → Prop
  | zero : Accrued (.zero .positive)
  | finite {mantissa exponent} (positive : 0 < mantissa) :
      (Dyadic.mk mantissa exponent).Canonical →
        Accrued (.finite .positive mantissa exponent positive)
  | infinity : Accrued (.infinity .positive)
  | notANumber : Accrued .notANumber

theorem accrued_signed {size : Dyadic} (canonical : size.Canonical) :
    Accrued (size.signed .positive) := by
  rcases Nat.eq_zero_or_pos size.mantissa with zero | nonzero
  · rw [Dyadic.signed, dif_pos zero]
    exact .zero
  · rw [signed_of_pos .positive nonzero]
    exact .finite nonzero canonical

theorem signed_ne_zero {size : Dyadic} (nonzero : 0 < size.mantissa) :
    size.signed .positive ≠ .zero .positive := by
  rw [signed_of_pos .positive nonzero]
  exact UnpackedFloat.noConfusion

/-- Packing does not lose what has accrued. -/
theorem Accrued.unpack_pack {value : UnpackedFloat} (accrued : Accrued value) :
    Accrued (UnpackedFloat.unpack Format.binary64 (UnpackedFloat.pack Format.binary64 value)) ∧
      (UnpackedFloat.unpack Format.binary64 (UnpackedFloat.pack Format.binary64 value) =
        .zero .positive ↔ value = .zero .positive) := by
  cases accrued with
  | zero => exact ⟨.zero, Iff.rfl⟩
  | infinity => exact ⟨.infinity, nofun, nofun⟩
  | notANumber => exact ⟨.notANumber, nofun, nofun⟩
  | @finite mantissa exponent nonzero canonical =>
    have packed := unpack_pack_canonical canonical .positive
    rw [signed_of_pos .positive nonzero] at packed
    rcases packed with kept | infinite
    · rw [kept]
      exact ⟨.finite nonzero canonical, Iff.rfl⟩
    · rw [infinite]
      exact ⟨.infinity, nofun, nofun⟩

/-- Two doubles above zero add up to something above zero. -/
theorem exists_add_positive {mantissa mantissa' : ℕ} {exponent exponent' : ℤ}
    (nonzero : 0 < mantissa) (nonzero' : 0 < mantissa')
    (canonical : (Dyadic.mk mantissa exponent).Canonical)
    (canonical' : (Dyadic.mk mantissa' exponent').Canonical) :
    ∃ sum : Dyadic, sum.Canonical ∧ 0 < sum.mantissa ∧
      UnpackedFloat.add Format.binary64 (.finite .positive mantissa exponent nonzero)
        (.finite .positive mantissa' exponent' nonzero') = sum.signed .positive := by
  have least := canonical.least
  have least' := canonical'.least
  dsimp only at least least'
  have scaled : 0 < mantissa <<< (exponent - min exponent exponent').toNat := by
    rw [Nat.shiftLeft_eq]
    exact Nat.mul_pos nonzero (Nat.two_pow_pos _)
  have some := Nat.add_pos_left scaled (mantissa' <<< (exponent' - min exponent exponent').toNat)
  obtain ⟨sum, rounded, above, sum_eq⟩ := exists_round .positive some
    (show -1074 ≤ min exponent exponent' by omega)
  refine ⟨sum, rounded, above, ?_⟩
  rw [← sum_eq, ← normalize_of_pos some _ .positive, Nat.cast_add]
  rfl

/-- Of two that have accrued the sum has, and it is zero only if both are. -/
theorem Accrued.add {value other : UnpackedFloat} (accrued : Accrued value)
    (another : Accrued other) :
    Accrued (UnpackedFloat.add Format.binary64 value other) ∧
      (UnpackedFloat.add Format.binary64 value other = .zero .positive ↔
        value = .zero .positive ∧ other = .zero .positive) := by
  cases accrued with
  | zero =>
    cases another with
    | zero => exact ⟨.zero, by simp [UnpackedFloat.add]⟩
    | finite nonzero canonical => exact ⟨.finite nonzero canonical, by simp [UnpackedFloat.add]⟩
    | infinity => exact ⟨.infinity, by simp [UnpackedFloat.add]⟩
    | notANumber => simp [UnpackedFloat.add, Accrued.notANumber]
  | infinity =>
    cases another with
    | zero | finite | infinity => exact ⟨.infinity, by simp [UnpackedFloat.add]⟩
    | notANumber => simp [UnpackedFloat.add, Accrued.notANumber]
  | notANumber => simp [UnpackedFloat.add, Accrued.notANumber]
  | finite nonzero canonical =>
    cases another with
    | zero => exact ⟨.finite nonzero canonical, by simp [UnpackedFloat.add]⟩
    | infinity => exact ⟨.infinity, by simp [UnpackedFloat.add]⟩
    | notANumber => simp [UnpackedFloat.add, Accrued.notANumber]
    | finite nonzero' canonical' =>
      obtain ⟨sum, rounded, above, added⟩ :=
        exists_add_positive nonzero nonzero' canonical canonical'
      rw [added]
      exact ⟨accrued_signed rounded, by simp [signed_ne_zero above]⟩

/-- The sign is gone from a square, which may be too small to be told from zero. -/
theorem accrued_mul_self {value : UnpackedFloat}
    (canonical : ∀ {sign mantissa exponent} {positive : 0 < mantissa},
      value = .finite sign mantissa exponent positive → (Dyadic.mk mantissa exponent).Canonical) :
    Accrued (UnpackedFloat.mul Format.binary64 value value) := by
  cases value with
  | notANumber => simp [UnpackedFloat.mul, Accrued.notANumber]
  | infinity sign => cases sign <;> exact .infinity
  | zero sign => cases sign <;> exact .zero
  | finite sign mantissa exponent nonzero =>
    have full := (canonical rfl).full
    dsimp only at full
    have long : 52 ≤ (mantissa * mantissa).log2 ∨ exponent + exponent ≤ -1074 := by
      refine full.imp (fun wide => ?_) fun least => by omega
      rw [Nat.le_log2 (Nat.mul_pos nonzero nonzero).ne']
      exact wide.trans (Nat.le_mul_of_pos_left mantissa nonzero)
    obtain ⟨size, kept, -, rounded⟩ := exists_roundWithAccuracy (sign * sign) .exact long
    have square : sign * sign = .positive := by cases sign <;> rfl
    rw [UnpackedFloat.mul, rounded, square]
    exact accrued_signed kept

theorem unpack_add (left right : Float) : (left + right).toModel.unpack =
    UnpackedFloat.unpack Format.binary64 (UnpackedFloat.pack Format.binary64
      (UnpackedFloat.add Format.binary64 left.toModel.unpack right.toModel.unpack)) := rfl

/-- A double that is what squares add up to. -/
def IsAccrued (value : Float) : Prop := Accrued value.toModel.unpack

theorem eq_zero_iff {value : Float} : value = 0.0 ↔ value.toModel.unpack = .zero .positive :=
  ⟨fun same => same ▸ rfl, fun same => eq_of_unpack_eq same⟩

theorem isAccrued_mul_self (value : Float) : IsAccrued (value * value) := by
  rw [IsAccrued, unpack_mul]
  exact (accrued_mul_self canonical_of_unpack_eq).unpack_pack.1

theorem IsAccrued.add {left right : Float} (accrued : IsAccrued left) (another : IsAccrued right) :
    IsAccrued (left + right) ∧ (left + right = 0.0 ↔ left = 0.0 ∧ right = 0.0) := by
  obtain ⟨sum, zero⟩ := Accrued.add accrued another
  obtain ⟨packed, kept⟩ := sum.unpack_pack
  refine ⟨packed, ?_⟩
  rw [eq_zero_iff, eq_zero_iff, eq_zero_iff, unpack_add, kept, zero]

theorem IsAccrued.beq_zero_iff {value : Float} (accrued : IsAccrued value) :
    (value == 0.0) = true ↔ value = 0.0 := by
  rw [eq_zero_iff]
  change UnpackedFloat.beq value.toModel.unpack (.zero .positive) = true ↔ _
  unfold IsAccrued at accrued
  generalize value.toModel.unpack = parts at accrued
  cases accrued with
  | zero => exact iff_of_true rfl rfl
  | finite | infinity | notANumber => exact ⟨nofun, nofun⟩

/-- Squares that are added up from zero come to zero only if each of them is zero. -/
theorem foldl_squares {ι : Type} (deviation : ι → Float) (points : List ι) {start : Float}
    (accrued : IsAccrued start) :
    IsAccrued (points.foldl (fun sum point => sum + deviation point * deviation point) start) ∧
      (points.foldl (fun sum point => sum + deviation point * deviation point) start = 0.0 ↔
        start = 0.0 ∧ ∀ point ∈ points, deviation point * deviation point = 0.0) := by
  induction points generalizing start with
  | nil => exact ⟨accrued, by simp⟩
  | cons point points ih =>
    obtain ⟨more, zero⟩ := accrued.add (isAccrued_mul_self (deviation point))
    obtain ⟨total, none⟩ := ih more
    refine ⟨total, none.trans ?_⟩
    rw [zero, List.forall_mem_cons, and_assoc]

theorem unpack_sub (left right : Float) : (left - right).toModel.unpack =
    UnpackedFloat.unpack Format.binary64 (UnpackedFloat.pack Format.binary64
      (UnpackedFloat.sub Format.binary64 left.toModel.unpack right.toModel.unpack)) := rfl

/-- Only from a finite number is the distance finite. -/
theorem isFinite_of_isFinite_sub {left right : Float} (finite : (left - right).isFinite = true) :
    right.isFinite = true := by
  change (left - right).toModel.unpack.isFinite = true at finite
  change right.toModel.unpack.isFinite = true
  rw [unpack_sub] at finite
  generalize left.toModel.unpack = left at finite
  generalize right.toModel.unpack = right at finite ⊢
  cases right with
  | zero | finite => rfl
  | notANumber =>
    have same : UnpackedFloat.sub Format.binary64 left .notANumber = .notANumber := by
      cases left <;> simp [UnpackedFloat.sub]
    rw [same] at finite
    cases finite
  | infinity sign =>
    have same : UnpackedFloat.sub Format.binary64 left (.infinity sign) = .notANumber ∨
        UnpackedFloat.sub Format.binary64 left (.infinity sign) = .infinity (-sign) := by
      cases left with
      | notANumber | zero | finite => simp [UnpackedFloat.sub]
      | infinity other => cases sign <;> cases other <;> first | exact .inl rfl | exact .inr rfl
    rcases same with same | same <;> rw [same] at finite
    · cases finite
    · cases sign <;> cases finite

/-- A square is zero only for a finite number. -/
theorem isFinite_of_mul_self_eq_zero {value : Float} (none : value * value = 0.0) :
    value.isFinite = true := by
  change value.toModel.unpack.isFinite = true
  rw [eq_zero_iff, unpack_mul] at none
  cases parts : value.toModel.unpack with
  | zero | finite => rfl
  | infinity sign => rw [parts] at none; cases sign <;> cases none
  | notANumber => rw [parts] at none; cases none

/-- What is not zero makes up the whole of itself, if that can be said at all. -/
theorem one_sub_div_self {value : Float} (nonzero : (value == 0.0) = false)
    (definite : (1.0 - value / value).isFinite = true) : 1.0 - value / value = 0.0 := by
  by_cases finite : value.isFinite = true
  · rw [div_self_eq_one finite nonzero]
    exact sub_self_eq_zero (by decide +kernel)
  · exfalso
    have meaningless : (value / value).toModel.unpack = .notANumber := by
      change UnpackedFloat.unpack Format.binary64 (UnpackedFloat.pack Format.binary64
        (UnpackedFloat.div Format.binary64 value.toModel.unpack value.toModel.unpack)) = _
      change ¬ value.toModel.unpack.isFinite = true at finite
      cases parts : value.toModel.unpack with
      | zero | finite => rw [parts] at finite; exact absurd rfl finite
      | infinity | notANumber => rw [UnpackedFloat.div]; rfl
    change (UnpackedFloat.unpack Format.binary64 (UnpackedFloat.pack Format.binary64
      (UnpackedFloat.sub Format.binary64 (1.0 : Float).toModel.unpack
        (value / value).toModel.unpack))).isFinite = true at definite
    rw [meaningless] at definite
    exact absurd definite (by decide +kernel)

end ProfileDrift.Double
